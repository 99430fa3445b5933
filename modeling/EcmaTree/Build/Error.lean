import EcmaTree.Literal.Error
import EcmaTree.Tree.Writing

/-!
# Why a builder refuses its arguments

The causes of refusal, with the name of the kind of what was given where the wording mentions it.
`BuildError.message` words them.
-/

namespace EcmaTree

/-- A reason why no tree is built. -/
inductive BuildError where
  /-- An identifier token cannot be made from a value of this kind. -/
  | notAName (kind : String)
  /-- A declared name cannot be made from a value of this kind. -/
  | notBindable (kind : String)
  /-- A reference cannot be made from a value of this kind. -/
  | notReferable (kind : String)
  /-- A truth value was given as a number of parameters. -/
  | flagAsCount
  /-- Parameters cannot be made from a value of this kind. -/
  | notParameters (kind : String)
  /-- A truth value was given as a number. -/
  | flagAsNumber
  /-- A value of this kind was given where a catch or finally clause belongs. -/
  | notAHandler (kind : String)
  /-- A try statement was given this number of handlers. -/
  | handlerCount (count : Nat)
  /-- A declaration names nothing. -/
  | noDeclarationTarget
  /-- A literal has no value. -/
  | literal (error : LiteralError)
  /-- A value cannot be written down where its text is needed. -/
  | writing (error : WritingError)
  /-- The number of arguments, or the kind of one, is none that the builder is made for. -/
  | unsuitable
deriving DecidableEq

/-- The wording of a refusal. -/
def BuildError.message : BuildError → Text
  | notAName kind => Text.ofString "expected a name or IdentifierToken, got " ++ Text.ofString kind
  | notBindable kind =>
    Text.ofString "cannot bind " ++ Text.ofString kind ++ Text.ofString " as an identifier"
  | notReferable kind =>
    Text.ofString "cannot reference " ++ Text.ofString kind ++ Text.ofString " as an identifier"
  | flagAsCount => Text.ofString "parameter count must be an int, not bool"
  | notParameters kind =>
    Text.ofString "cannot build a parameter list from " ++ Text.ofString kind
  | flagAsNumber => Text.ofString "number literal must be an int or float, not bool"
  | notAHandler kind => Text.ofString "expected Catch or Finally, got " ++ Text.ofString kind
  | handlerCount count =>
    Text.ofString "try statement takes one or two handlers, got " ++ Text.ofNat count
  | noDeclarationTarget =>
    Text.ofString "a variable statement built from a binding kind needs an identifier"
  | literal error => error.message
  | writing error => error.message
  | unsuitable => Text.ofString "unsuitable arguments"

end EcmaTree

import EcmaTree.Build.Token

/-!
# Taking arguments into fields

What becomes of an argument on its way into a field. Most arguments are put into the tree as they
are; names, keys and sequences are brought into the form that the field has. `gather` is the rule
for builders that take their children as one sequence or as several arguments.
-/

namespace EcmaTree

/-- The children that the arguments of a builder stand for: if the first argument is a list or a
tuple, its members and then the other arguments, and otherwise the arguments themselves. -/
def gather : List Value → List Value
  | [] => []
  | head :: rest =>
    match head.members? with
    | some items => items ++ rest
    | none => head :: rest

/-- Whether a value can be declared as it is. -/
def Value.isDeclarable (v : Value) : Bool :=
  v.isNodeOf .bindingIdentifier || v.isNodeOf .objectPattern || v.isNodeOf .arrayPattern

/-- How an argument is taken into a field. -/
inductive Intake where
  /-- As it is. -/
  | value
  /-- As an identifier token. -/
  | name
  /-- As an identifier token, or as nothing if it does not count as true. -/
  | label
  /-- As a declared name. -/
  | binding
  /-- As a declared name, but patterns as they are. -/
  | declared
  /-- As the token of a property key, if it is a text. -/
  | key
  /-- As a tuple of its elements. -/
  | sequence
  /-- As an argument list, empty if there is nothing. -/
  | arguments
deriving DecidableEq

/-- The value that goes into the field. -/
def Intake.take : Intake → Value → Built
  | value, v => .ok v
  | name, v => Name.token v
  | label, v => if v.isTruthy then Name.token v else .ok .none
  | binding, v => Name.binding v
  | declared, v => if v.isDeclarable then .ok v else Name.binding v
  | key, .text t => .ok (Token.propertyName t)
  | key, v => .ok v
  | sequence, v =>
    match v.elements? with
    | some items => .ok (.tuple items)
    | none => .error .unsuitable
  | arguments, .none => .ok (.tree .argumentList [.tuple []])
  | arguments, v => .ok v

/-- An argument of a builder. -/
structure Slot where
  /-- How it is taken. -/
  intake : Intake
  /-- What is taken when the argument is left out, if it can be. -/
  default? : Option Value

namespace Slot

/-- An argument that must be given. -/
def required (intake : Intake) : Slot := ⟨intake, none⟩

/-- An argument that is nothing when left out. -/
def optional (intake : Intake) : Slot := ⟨intake, some .none⟩

/-- An argument that goes into the tree as it is. -/
def given : Slot := required .value

/-- Such an argument that may be left out. -/
def orNothing : Slot := optional .value

/-- The fields that the arguments make, slot by slot from the left. -/
def takeAll : List Slot → List Value → Except BuildError (List Value)
  | [], [] => .ok []
  | [], _ :: _ => .error .unsuitable
  | slot :: slots, v :: rest => do
    let field ← slot.intake.take v
    let fields ← takeAll slots rest
    return field :: fields
  | slot :: slots, [] =>
    match slot.default? with
    | none => .error .unsuitable
    | some v => do
      let field ← slot.intake.take v
      let fields ← takeAll slots []
      return field :: fields

end Slot

end EcmaTree

import EcmaTree.Build.Builder
import EcmaTree.Build.Property
import EcmaTree.Tree.Equality
import EcmaTree.Tree.Walk

/-!
# Scripts of builder calls

A term describes how a value is made from other values by calls of builders and by questions
about values; `Term.eval` makes it, arguments first and from left to right. A script is a
sequence of terms whose values can be kept in variables. A step that fails keeps nothing, and the
steps behind it still run.
-/

namespace EcmaTree

/-- A description of a value. -/
inductive Term where
  /-- A value as it is. -/
  | value (v : Value)
  /-- The value of a variable. -/
  | stored (name : Text)
  /-- A list. -/
  | list (items : List Term)
  /-- A tuple. -/
  | tuple (items : List Term)
  /-- A mapping. -/
  | mapping (entries : List (Term × Term))
  /-- A synthetic node with the given fields. -/
  | node (production : Production) (fields : List Term)
  /-- A token or a node at a location. -/
  | located (subject location : Term)
  /-- What a builder makes. -/
  | call (builder : Builder) (args : List Term)
  /-- A property of a value. -/
  | property (subject : Term) (asked : Property)
  /-- Whether two values are equal. -/
  | equal (left right : Term)
  /-- The text of a value. -/
  | display (subject : Term)
  /-- The children of a node. -/
  | children (subject : Term)
  /-- The tag of the production of a node. -/
  | tag (subject : Term)

/-! ### Evaluation -/

/-- The tag of the production of a node. -/
def Value.tag : Value → Built
  | node p _ _ => .ok (string p.tag)
  | _ => .error .unsuitable

/-- The values of variables, the latest first. -/
abbrev Environment := List (Text × Value)

namespace Term

mutual

/-- The value that a term describes. -/
def eval (env : Environment) : Term → Built
  | value v => .ok v
  | stored name =>
    match env.lookup name with
    | some v => .ok v
    | none => .error .unsuitable
  | list items => do return .list (← evalAll env items)
  | tuple items => do return .tuple (← evalAll env items)
  | mapping entries => do return .mapping (← evalEntries env entries)
  | node p fields => do return .tree p (← evalAll env fields)
  | located subject location => do
    let v ← eval env subject
    let l ← eval env location
    return v.withLocation l
  | call builder args => do builder.build (← evalAll env args)
  | property subject asked => do (← eval env subject).property asked
  | equal left right => do
    let v ← eval env left
    let w ← eval env right
    return .bool (v.equal w)
  | display subject => do
    let v ← eval env subject
    (v.display.map Value.text).mapError .writing
  | children subject => do return .list (← eval env subject).children
  | tag subject => do (← eval env subject).tag

/-- The values that terms describe, from left to right. -/
def evalAll (env : Environment) : List Term → Except BuildError (List Value)
  | [] => .ok []
  | term :: terms => do
    let v ← eval env term
    let vs ← evalAll env terms
    return v :: vs

/-- The entries that pairs of terms describe, keys first. -/
def evalEntries (env : Environment) :
    List (Term × Term) → Except BuildError (List (Value × Value))
  | [] => .ok []
  | (key, term) :: entries => do
    let k ← eval env key
    let v ← eval env term
    let rest ← evalEntries env entries
    return (k, v) :: rest

end

end Term

/-- One step of a script. -/
structure ScriptStep where
  /-- The variable that keeps the value. -/
  target : Option Text
  /-- What is evaluated. -/
  term : Term

namespace ScriptStep

/-- The variables after a step with the given result. -/
def keep (step : ScriptStep) (env : Environment) (result : Built) : Environment :=
  match step.target, result with
  | some name, .ok v => (name, v) :: env
  | _, _ => env

/-- The results of a sequence of steps. -/
def runFrom (env : Environment) : List ScriptStep → List Built
  | [] => []
  | step :: steps =>
    let result := step.term.eval env
    result :: runFrom (step.keep env result) steps

/-- The results of a script. -/
def run (steps : List ScriptStep) : List Built := runFrom [] steps

end ScriptStep

end EcmaTree

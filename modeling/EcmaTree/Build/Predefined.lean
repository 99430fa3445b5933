import EcmaTree.Text.Basic

/-!
# Names in generated code

The global objects and members that generated code relies on, and the reserved names.
-/

namespace EcmaTree.Predefined

/-- The global `Object`. -/
def object : Text := Text.ofString "Object"

/-- The method `bind` of functions. -/
def bind : Text := Text.ofString "bind"

/-- The method `call` of functions. -/
def call : Text := Text.ofString "call"

/-- The member `create` of `Object`. -/
def create : Text := Text.ofString "create"

/-- The member `defineProperty` of `Object`. -/
def defineProperty : Text := Text.ofString "defineProperty"

/-- The member `freeze` of `Object`. -/
def freeze : Text := Text.ofString "freeze"

/-- The member `preventExtensions` of `Object`. -/
def preventExtensions : Text := Text.ofString "preventExtensions"

/-- The global `undefined`. -/
def undefined : Text := Text.ofString "undefined"

/-- The variable that holds the state of a generator. -/
def state : Text := Text.ofString "$state"

/-- The directive that turns strict mode on. -/
def useStrict : Text := Text.ofString "use strict"

end EcmaTree.Predefined

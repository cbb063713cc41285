/-!
# JSON values

Numbers are integers between `-2 ^ 63` and `2 ^ 64 - 1`, or doubles. An object keeps its members in
order, repeated names included; what a repetition means is for the reader of the value to say.
-/

set_option autoImplicit false

namespace ClassGraph

/-- A JSON number. -/
inductive Json.Number where
  | int (value : Int)
  | float (value : Float)

/-- A JSON value. -/
inductive Json where
  | null
  | bool (value : Bool)
  | num (value : Json.Number)
  | str (value : String)
  | arr (items : List Json)
  | obj (members : List (String × Json))

namespace Json

instance : Inhabited Json := ⟨.null⟩

/-- A count. -/
def nat (n : Nat) : Json := .num (.int n)

/-- A signed integer. -/
def int (n : Int) : Json := .num (.int n)

/-- A ratio. -/
def float (x : Float) : Json := .num (.float x)

/-- A list of texts. -/
def strs (xs : List String) : Json := .arr (xs.map .str)

/-- A member that is left out when there is no value. -/
def optional (name : String) : Option String → List (String × Json)
  | none => []
  | some s => [(name, .str s)]

end Json

end ClassGraph

import ClassGraph.Json.Basic

/-!
# Objects with sorted members

In a sorted value the members of every object stand in increasing order of their names, and of
members with the same name only the last is kept.
-/

set_option autoImplicit false

namespace ClassGraph.Json

/-- Puts a member at its place among sorted members, over one with the same name. -/
def insertMember (name : String) (value : Json) : List (String × Json) → List (String × Json)
  | [] => [(name, value)]
  | (k, v) :: rest =>
    if name < k then (name, value) :: (k, v) :: rest
    else if k = name then (name, value) :: rest
    else (k, v) :: insertMember name value rest

mutual

/-- The value with the members of every object sorted. -/
def sorted : Json → Json
  | .null => .null
  | .bool b => .bool b
  | .num n => .num n
  | .str s => .str s
  | .arr items => .arr (sortedItems items)
  | .obj members => .obj (sortedMembers members [])

/-- The items, each sorted. -/
def sortedItems : List Json → List Json
  | [] => []
  | x :: xs => sorted x :: sortedItems xs

/-- The members put one after the other into those that are placed already. -/
def sortedMembers : List (String × Json) → List (String × Json) → List (String × Json)
  | [], placed => placed
  | (k, v) :: ms, placed => sortedMembers ms (insertMember k (sorted v) placed)

end

end ClassGraph.Json

/-!
# Tables of code points

A set of characters is a flat list of numbers in increasing order, read two at a time (closed
intervals) or three at a time (runs with a step). A case map adds the image of the first code
point of a run; the others follow at the same distance.
-/

set_option autoImplicit false

namespace ClassGraph.Text

/-- Is `n` in one of the closed intervals `first, last, …`? The intervals come in increasing order. -/
def inIntervals : List Nat → Nat → Bool
  | first :: last :: rest, n => if n < first then false else n ≤ last || inIntervals rest n
  | _, _ => false

/-- Is `n` in one of the runs `first, last, step, …`? -/
def inRuns : List Nat → Nat → Bool
  | first :: last :: step :: rest, n =>
    (first ≤ n && n ≤ last && (n - first) % step == 0) || inRuns rest n
  | _, _ => false

/-- The image of `n` under the runs `first, last, step, image, …`; `n` itself outside them. -/
def runImage : List Nat → Nat → Nat
  | first :: last :: step :: image :: rest, n =>
    if first ≤ n && n ≤ last && (n - first) % step == 0 then image + (n - first)
    else runImage rest n
  | _, n => n

end ClassGraph.Text

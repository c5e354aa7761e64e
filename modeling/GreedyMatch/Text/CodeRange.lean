/-!
# Tables of code points

The tables are those of Unicode 17.0. A table is an ascending list of runs; membership is decided by
walking the list and stopping at the first run that starts past the code point.
-/

set_option autoImplicit false

namespace GreedyMatch.Text

/-- The code points `first`, `first + step`, and so on, none past `last`. -/
structure CodeRange where
  first : Nat
  last : Nat
  step : Nat

namespace CodeRange

def contains (range : CodeRange) (code : Nat) : Bool :=
  range.first ≤ code && code ≤ range.last && (code - range.first) % range.step == 0

def covers : List CodeRange → Nat → Bool
  | [], _ => false
  | range :: table, code =>
    if code < range.first then false else range.contains code || covers table code

end CodeRange

end GreedyMatch.Text

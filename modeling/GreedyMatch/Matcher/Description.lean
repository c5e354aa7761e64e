import GreedyMatch.Matcher.Basic
import GreedyMatch.Text.Record

set_option autoImplicit false

namespace GreedyMatch

open Text (record applied listed)

def Quantifier.describe : Quantifier → String
  | .between min max => record "Bounded" [("min", toString min), ("max", toString max)]
  | .atLeast min => applied "AtLeast" [toString min]

def CharSet.Item.describe : CharSet.Item → String
  | .single c => applied "Single" [Text.Quoted.ofChar c]
  | .range lo hi => applied "Range" [Text.Quoted.ofChar lo, Text.Quoted.ofChar hi]
  | .named category => applied "Named" [category.label]

def CharSet.describe (set : CharSet) : String :=
  record "CharClass"
    [("negated", toString set.negated), ("items", listed (set.items.map Item.describe))]

def CharTest.describe : CharTest → String
  | .ofSet set => applied "Class" [set.describe]
  | .ofPredicate _ => applied "Predicate" ["Predicate(..)"]

mutual

def Matcher.describe : Matcher → String
  | ⟨attempt, quantifier⟩ => record "Matcher" [("node", attempt.describe quantifier)]

/-- What a caller has written, a predicate or a custom attempt, is shown by its name only, and so is
a nested matcher. -/
def Attempt.describe : Attempt → Quantifier → String
  | .literal text chars, quantifier =>
    record "Literal"
      [("text", Text.Quoted.ofString text), ("chars", listed (chars.map Text.Quoted.ofChar)),
        ("bounds", quantifier.describe)]
  | .char test, quantifier =>
    record "Char" [("test", test.describe), ("bounds", quantifier.describe)]
  | .sequence children, quantifier =>
    record "Sequence"
      [("children", listed (describeAll children)), ("bounds", quantifier.describe)]
  | .alternation children, quantifier =>
    record "Any" [("children", listed (describeAll children)), ("bounds", quantifier.describe)]
  | .nested _, quantifier | .custom _, quantifier =>
    record "Custom" [("attempt", "Attempt(..)"), ("bounds", quantifier.describe)]

def describeAll : List Matcher → List String
  | [] => []
  | child :: children => child.describe :: describeAll children

end

end GreedyMatch

import GreedyMatch.Quantifier.Reading

set_option autoImplicit false

namespace GreedyMatch

inductive Text.Trims (text trimmed : List Char) : Prop
  | intro {before after} (htext : text = before ++ trimmed ++ after)
      (hbefore : ∀ c ∈ before, isBlank c = true) (hafter : ∀ c ∈ after, isBlank c = true)
      (hfirst : ∀ c, trimmed.head? = some c → isBlank c = false)
      (hlast : ∀ c, trimmed.getLast? = some c → isBlank c = false)

namespace Quantifier

inductive Numeral : List Char → Nat → Prop
  | empty : Numeral [] 0
  | digit {digits value c} (hdigits : Numeral digits value) (hc : c.isDigit = true) :
      Numeral (digits ++ [c]) (10 * value + (c.toNat - '0'.toNat))

/-- A field holds a count, or nothing but blanks. Otherwise its first character that is no digit is at
fault, or the size of the number. -/
inductive FieldMeans : List Char → Except Error (Option Nat) → Prop
  | blank {field} (htrims : Text.Trims field []) : FieldMeans field (.ok none)
  | count {field digits value} (htrims : Text.Trims field digits) (hdigits : Numeral digits value)
      (hnonempty : digits ≠ []) (hlimit : value < countLimit) : FieldMeans field (.ok (some value))
  | tooLarge {field digits value} (htrims : Text.Trims field digits) (hdigits : Numeral digits value)
      (hlimit : countLimit ≤ value) : FieldMeans field (.error .invalidNumber)
  | unexpected {field digits value c rest} (htrims : Text.Trims field (digits ++ c :: rest))
      (hdigits : Numeral digits value) (hc : c.isDigit = false) :
      FieldMeans field (.error (.unexpected c))

inductive SplitsAtComma : List Char → List Char → Option (List Char) → Prop
  | alone {text} (hcomma : ',' ∉ text) : SplitsAtComma text text none
  | pair {first second} (hcomma : ',' ∉ first) :
      SplitsAtComma (first ++ ',' :: second) first (some second)

/-- The left field is looked at first, then the right one, and at last whether there are counts and
they are in order. -/
inductive CountsMean : List Char → Except Error Quantifier → Prop
  | badFirst {text first second? e} (hsplits : SplitsAtComma text first second?)
      (hfirst : FieldMeans first (.error e)) : CountsMean text (.error e)
  | badSecond {text first second min? e} (hsplits : SplitsAtComma text first (some second))
      (hfirst : FieldMeans first (.ok min?)) (hsecond : FieldMeans second (.error e)) :
      CountsMean text (.error e)
  | empty {text first} (hsplits : SplitsAtComma text first none)
      (hfirst : FieldMeans first (.ok none)) : CountsMean text (.error .empty)
  | alone {text first min} (hsplits : SplitsAtComma text first none)
      (hfirst : FieldMeans first (.ok (some min))) : CountsMean text (.ok (.atLeast min))
  | noUpper {text first second min} (hsplits : SplitsAtComma text first (some second))
      (hfirst : FieldMeans first (.ok (some min))) (hsecond : FieldMeans second (.ok none)) :
      CountsMean text (.ok (.atLeast min))
  | noLower {text first second max} (hsplits : SplitsAtComma text first (some second))
      (hfirst : FieldMeans first (.ok none)) (hsecond : FieldMeans second (.ok (some max))) :
      CountsMean text (.ok (.between 0 max))
  | neither {text first second} (hsplits : SplitsAtComma text first (some second))
      (hfirst : FieldMeans first (.ok none)) (hsecond : FieldMeans second (.ok none)) :
      CountsMean text (.ok (.atLeast 0))
  | ordered {text first second min max} (hsplits : SplitsAtComma text first (some second))
      (hfirst : FieldMeans first (.ok (some min))) (hsecond : FieldMeans second (.ok (some max)))
      (hle : min ≤ max) : CountsMean text (.ok (.between min max))
  | inverted {text first second min max} (hsplits : SplitsAtComma text first (some second))
      (hfirst : FieldMeans first (.ok (some min))) (hsecond : FieldMeans second (.ok (some max)))
      (hlt : max < min) : CountsMean text (.error (.minExceedsMax min max))

inductive Brackets : Char → Char → Prop
  | square : Brackets '[' ']'
  | curly : Brackets '\x7b' '\x7d'

/-- The meaning of a text without blanks around it, taken apart from outside in. Only one pair of
brackets is taken off, and no sign stands between brackets. -/
inductive Means : List Char → Except Error Quantifier → Prop
  | star : Means ['*'] (.ok (.atLeast 0))
  | plus : Means ['+'] (.ok (.atLeast 1))
  | mark : Means ['?'] (.ok (.between 0 1))
  | unclosed {opening closing rest} (hpair : Brackets opening closing)
      (hopen : ∀ body, rest ≠ body ++ [closing]) : Means (opening :: rest) (.error .unclosed)
  | wrapped {opening closing body result} (hpair : Brackets opening closing)
      (hcounts : CountsMean body result) : Means (opening :: (body ++ [closing])) result
  | bare {text result} (hsign : text ≠ ['*'] ∧ text ≠ ['+'] ∧ text ≠ ['?'])
      (hbare : ∀ opening closing, Brackets opening closing → text.head? ≠ some opening)
      (hcounts : CountsMean text result) : Means text result

end Quantifier

end GreedyMatch

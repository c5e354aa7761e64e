import GreedyMatch.Text.Alphabetic
import GreedyMatch.Text.Blank
import GreedyMatch.Text.Lowercase
import GreedyMatch.Text.Numeric
import GreedyMatch.Text.Punctuation
import GreedyMatch.Text.Uppercase

set_option autoImplicit false

namespace GreedyMatch

namespace CharSet

inductive Category where
  | any | digit | word | space | alpha | upper | lower | alnum | punct | print
deriving DecidableEq

namespace Category

def accepts : Category → Char → Bool
  | .any, c => c != '\n'
  | .digit, c => c.isDigit
  | .word, c => Text.isAlphabetic c || Text.isNumeric c || c == '_'
  | .space, c => Text.isBlank c
  | .alpha, c => Text.isAlphabetic c
  | .upper, c => Text.isUppercase c
  | .lower, c => Text.isLowercase c
  | .alnum, c => Text.isAlphabetic c || Text.isNumeric c
  | .punct, c => Text.isPunctuation c
  | .print, c => ' ' ≤ c && c ≤ '~'

def label : Category → String
  | .any => "Any"
  | .digit => "Digit"
  | .word => "Word"
  | .space => "Space"
  | .alpha => "Alpha"
  | .upper => "Upper"
  | .lower => "Lower"
  | .alnum => "Alnum"
  | .punct => "Punct"
  | .print => "Print"

end Category

/-- A range includes both its ends; one whose ends are the wrong way round is empty. -/
inductive Item where
  | single (c : Char)
  | range (lo hi : Char)
  | named (category : Category)
deriving DecidableEq

def Item.accepts : Item → Char → Bool
  | .single own, c => own == c
  | .range lo hi, c => lo ≤ c && c ≤ hi
  | .named category, c => category.accepts c

end CharSet

structure CharSet where
  negated : Bool
  items : List CharSet.Item
deriving DecidableEq

namespace CharSet

def ofItems (items : List Item) : CharSet := ⟨false, items⟩

def negate (set : CharSet) : CharSet := { set with negated := !set.negated }

def accepts (set : CharSet) (c : Char) : Bool := (set.items.any (·.accepts c)) != set.negated

theorem accepts_negate (set : CharSet) (c : Char) : set.negate.accepts c = !set.accepts c := by
  cases set with
  | mk negated items => cases negated <;> simp [negate, accepts]

theorem accepts_ofItems_append (first second : List Item) (c : Char) :
    (ofItems (first ++ second)).accepts c =
      ((ofItems first).accepts c || (ofItems second).accepts c) := by
  simp [ofItems, accepts]

end CharSet

end GreedyMatch

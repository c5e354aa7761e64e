import GreedyMatch.Text.Quoted

set_option autoImplicit false

namespace GreedyMatch

/-- Both counts of `between` are allowed themselves. They can be written down the wrong way round,
which `validate` refuses and nothing else does. -/
inductive Quantifier where
  | between (min max : Nat)
  | atLeast (min : Nat)
deriving DecidableEq

namespace Quantifier

inductive Error where
  | minExceedsMax (min max : Nat)
  | invalidNumber
  | unexpected (c : Char)
  | unclosed
  | empty
deriving DecidableEq

def Error.message : Error → String
  | .minExceedsMax min max => s!"minimum {min} exceeds maximum {max}"
  | .invalidNumber => "invalid number in quantifier"
  | .unexpected c => "unexpected character in quantifier: " ++ Text.Quoted.ofChar c
  | .unclosed => "unclosed quantifier"
  | .empty => "empty quantifier"

def zeroOrMore : Quantifier := .atLeast 0

def oneOrMore : Quantifier := .atLeast 1

def optional : Quantifier := .between 0 1

def exactly (count : Nat) : Quantifier := .between count count

instance : Inhabited Quantifier := ⟨oneOrMore⟩

def minCount : Quantifier → Nat
  | .between min _ => min
  | .atLeast min => min

def maxCount? : Quantifier → Option Nat
  | .between _ max => some max
  | .atLeast _ => none

def allowsAnother (quantifier : Quantifier) (count : Nat) : Bool :=
  match quantifier.maxCount? with
  | some max => count < max
  | none => true

def satisfiedBy (quantifier : Quantifier) (count : Nat) : Bool :=
  quantifier.minCount ≤ count

def Ordered : Quantifier → Prop
  | .between min max => min ≤ max
  | .atLeast _ => True

instance (quantifier : Quantifier) : Decidable quantifier.Ordered := by
  cases quantifier <;> unfold Ordered <;> infer_instance

def ofCounts (min max : Nat) : Except Error Quantifier :=
  if max < min then .error (.minExceedsMax min max) else .ok (.between min max)

def validate : Quantifier → Except Error Quantifier
  | .between min max => ofCounts min max
  | .atLeast min => .ok (.atLeast min)

/-- How many repeats are recorded once a repeat of no characters follows `recorded` others. It would
come again and again: up to the maximum, or, without one, until there are enough. -/
def fillCount (quantifier : Quantifier) (recorded : Nat) : Nat :=
  match quantifier with
  | .between _ max => max
  | .atLeast min => max min (recorded + 1)

theorem validate_of_ordered {quantifier : Quantifier} (h : quantifier.Ordered) :
    quantifier.validate = .ok quantifier := by
  cases quantifier with
  | between min max =>
    have hle : min ≤ max := h
    rw [validate, ofCounts, if_neg (by omega)]
  | atLeast min => rfl

theorem validate_of_not_ordered {quantifier : Quantifier} (h : ¬ quantifier.Ordered) :
    ∃ min max, quantifier = .between min max ∧
      quantifier.validate = .error (.minExceedsMax min max) := by
  cases quantifier with
  | between min max =>
    have hlt : max < min := Nat.lt_of_not_le h
    exact ⟨min, max, rfl, by rw [validate, ofCounts, if_pos hlt]⟩
  | atLeast min => exact absurd trivial h

end Quantifier

end GreedyMatch

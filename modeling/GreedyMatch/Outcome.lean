import GreedyMatch.Capture.Basic

set_option autoImplicit false

namespace GreedyMatch

/-- What an attempt or a matcher says about the start of an input. Lengths count characters. -/
inductive Outcome where
  | fail
  | matched (length : Nat) (capture : Capture)
deriving DecidableEq

namespace Outcome

def isMatch : Outcome → Bool
  | .fail => false
  | .matched _ _ => true

def isFail : Outcome → Bool
  | .fail => true
  | .matched _ _ => false

def consumed : Outcome → Nat
  | .fail => 0
  | .matched length _ => length

def capture? : Outcome → Option Capture
  | .fail => none
  | .matched _ capture => some capture

def toParts (outcome : Outcome) : Nat × Option Capture := (outcome.consumed, outcome.capture?)

theorem of_consumed_eq_zero {outcome : Outcome} (h : outcome.consumed = 0) :
    outcome = .fail ∨ ∃ capture, outcome = .matched 0 capture := by
  cases outcome with
  | fail => exact .inl rfl
  | matched length capture =>
    obtain rfl : length = 0 := h
    exact .inr ⟨capture, rfl⟩

theorem of_consumed_pos {outcome : Outcome} (h : 0 < outcome.consumed) :
    ∃ length capture, outcome = .matched (length + 1) capture := by
  cases outcome with
  | fail => cases h
  | matched length capture =>
    obtain ⟨shorter, rfl⟩ := Nat.exists_eq_succ_of_ne_zero (Nat.ne_of_gt h)
    exact ⟨shorter, capture, rfl⟩

end Outcome

end GreedyMatch

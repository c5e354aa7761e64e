import GreedyMatch.Matcher.Run

set_option autoImplicit false

namespace GreedyMatch

structure Span where
  start : Nat
  length : Nat
  capture : Capture
deriving DecidableEq

def Outcome.length? : Outcome → Option Nat
  | .fail => none
  | .matched length _ => some length

theorem Outcome.length?_eq_none {outcome : Outcome} :
    outcome.length? = none ↔ outcome = .fail := by
  cases outcome <;> simp [Outcome.length?]

theorem Outcome.length?_eq_some {outcome : Outcome} {length : Nat} :
    outcome.length? = some length ↔ ∃ capture, outcome = .matched length capture := by
  cases outcome <;> simp [Outcome.length?]

theorem Outcome.consumed_eq_getD (outcome : Outcome) :
    outcome.consumed = outcome.length?.getD 0 := by
  cases outcome <;> rfl

variable {m : Type → Type} [Monad m] [Reports m]

/-- The first match of at least one character, where `start` characters stand before the input. -/
def searchFrom (run : List Char → m Outcome) (start : Nat) : List Char → m (Option Span)
  | [] => pure none
  | c :: rest => do
    match ← run (c :: rest) with
    | .matched (length + 1) capture => return some ⟨start, length + 1, capture⟩
    | _ => searchFrom run (start + 1) rest

namespace Matcher

def apply (matcher : Matcher) (input : List Char) : m Outcome := do
  let outcome ← matcher.run input
  report (.applied matcher.kind input.length outcome.length?)
  return outcome

def find (matcher : Matcher) (input : List Char) : m (Option Span) := do
  let found ← searchFrom matcher.run 0 input
  report (.searched matcher.kind input.length (found.map fun span => (span.start, span.length)))
  return found

end Matcher

end GreedyMatch

import GreedyMatch.Outcome
import GreedyMatch.Quantifier.Basic

/-!
# Greedy repetition

An attempt is repeated from the start of the input, each time on what is left, until the input or
the quantifier is exhausted or the attempt fails. Nothing is taken back. A repeat that takes no
character would come again for ever, so it ends the repetition, and the repeats that would have
followed are recorded at once.
-/

set_option autoImplicit false

namespace GreedyMatch

variable {m : Type → Type} [Monad m]

/-- The number of characters taken and the captures of the repeats that follow `recorded` others. -/
def repeats (quantifier : Quantifier) (attempt : List Char → m Outcome) (recorded : Nat) :
    List Char → m (Nat × List Capture)
  | [] => pure (0, [])
  | c :: rest =>
    if quantifier.allowsAnother recorded then do
      match ← attempt (c :: rest) with
      | .fail => pure (0, [])
      | .matched 0 capture =>
        pure (0, List.replicate (quantifier.fillCount recorded - recorded) capture)
      | .matched (length + 1) capture =>
        let (total, captures) ← repeats quantifier attempt (recorded + 1) (rest.drop length)
        return (length + 1 + total, capture :: captures)
    else pure (0, [])
termination_by input => input.length
decreasing_by
  simp only [List.length_drop, List.length_cons]
  omega

def Outcome.ofRepeats (quantifier : Quantifier) (length : Nat) (captures : List Capture) :
    Outcome :=
  if quantifier.satisfiedBy captures.length then .matched length (.ofRepeats captures) else .fail

def repeated (quantifier : Quantifier) (attempt : List Char → m Outcome) (input : List Char) :
    m Outcome := do
  let (length, captures) ← repeats quantifier attempt 0 input
  return .ofRepeats quantifier length captures

end GreedyMatch

import GreedyMatch.Logged
import GreedyMatch.Matcher.Basic
import GreedyMatch.Matcher.Repetition

/-!
# Running matchers

A run looks at the start of the input only. Children of a sequence run one after the other until one
fails, those of an alternation until one matches. The same definition runs with a log, where each
claim past the end of the input is reported, and without one.
-/

set_option autoImplicit false

namespace GreedyMatch

def literalOutcome (text : String) (chars input : List Char) : Outcome :=
  if chars.isPrefixOf input then .matched chars.length (.leaf text) else .fail

def charOutcome (test : CharTest) : List Char → Outcome
  | [] => .fail
  | c :: _ => if test.accepts c then .matched 1 (.ofChar c) else .fail

def withSlot (length : Nat) (capture : Capture) :
    Option (Nat × List Capture) → Option (Nat × List Capture)
  | none => none
  | some (total, captures) => some (length + total, capture :: captures)

def Outcome.ofSlots : Option (Nat × List Capture) → Outcome
  | none => .fail
  | some (length, captures) => .matched length (.group captures)

section

variable {m : Type → Type} [Monad m] [Reports m]

/-- The length and the captures of all steps, each run where the one before it has ended. -/
def slots : List (List Char → m Outcome) → List Char → m (Option (Nat × List Capture))
  | [], _ => pure (some (0, []))
  | step :: steps, input => do
    match ← step input with
    | .fail => pure none
    | .matched length capture => return withSlot length capture (← slots steps (input.drop length))

def inOrder (steps : List (List Char → m Outcome)) (input : List Char) : m Outcome := do
  return .ofSlots (← slots steps input)

def firstMatch : List (List Char → m Outcome) → List Char → m Outcome
  | [], _ => pure .fail
  | step :: steps, input => do
    match ← step input with
    | .fail => firstMatch steps input
    | .matched length capture => return .matched length capture

def checked (size : Nat) : Outcome → m Outcome
  | .fail => pure .fail
  | .matched length capture =>
    if size < length then do
      report (.overrun length size)
      return .fail
    else pure (.matched length capture)

def guarded (step : List Char → m Outcome) (input : List Char) : m Outcome := do
  checked input.length (← step input)

mutual

def Matcher.run : Matcher → List Char → m Outcome
  | ⟨attempt, quantifier⟩ => repeated quantifier attempt.run

def Attempt.run : Attempt → List Char → m Outcome
  | .literal text chars => fun input => pure (literalOutcome text chars input)
  | .char test => fun input => pure (charOutcome test input)
  | .sequence children => inOrder (runAll children)
  | .alternation children => firstMatch (runAll children)
  | .nested inner => guarded inner.run
  | .custom answer => guarded fun input => pure (answer input)

def runAll : List Matcher → List (List Char → m Outcome)
  | [] => []
  | child :: children => child.run :: runAll children

end

theorem runAll_eq_map (children : List Matcher) :
    runAll children = children.map (Matcher.run (m := m)) := by
  induction children with
  | nil => rfl
  | cons child children ih => rw [runAll, ih, List.map_cons]

end

def Attempt.outcome (attempt : Attempt) (input : List Char) : Outcome := Id.run (attempt.run input)

/-- The outcome at the start of the input alone, without the log. -/
def Matcher.outcome (matcher : Matcher) (input : List Char) : Outcome := Id.run (matcher.run input)

end GreedyMatch

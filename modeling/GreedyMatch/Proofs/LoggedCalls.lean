import GreedyMatch.Proofs.ExecutedCalls
import GreedyMatch.Proofs.SingleChild

set_option autoImplicit false

namespace GreedyMatch

def Call.overrun? (call : Call) : Option Event :=
  if call.given.length < call.answer.consumed then
    some (.overrun call.answer.consumed call.given.length)
  else none

section

variable {quantifier : Quantifier} {step : List Char → Logged Outcome} {recorded : Nat}
  {input : List Char}

theorem repeats_events_stopped
    (hstop : ¬ (input ≠ [] ∧ quantifier.allowsAnother recorded = true)) :
    (repeats quantifier step recorded input).events = [] := by
  cases input with
  | nil =>
    rw [repeats]
    rfl
  | cons c rest =>
    rw [repeats, if_neg fun hmore => hstop ⟨List.cons_ne_nil c rest, hmore⟩]
    rfl

theorem repeats_events_last (hinput : input ≠ [])
    (hmore : quantifier.allowsAnother recorded = true) (hstep : (step input).value.consumed = 0) :
    (repeats quantifier step recorded input).events = (step input).events := by
  obtain ⟨c, rest, rfl⟩ := List.exists_cons_of_ne_nil hinput
  rw [repeats, if_pos hmore, Logged.events_bind]
  rcases Outcome.of_consumed_eq_zero hstep with hvalue | ⟨capture, hvalue⟩
  · rw [hvalue]
    exact List.append_nil _
  · rw [hvalue]
    exact List.append_nil _

theorem repeats_events_next (hinput : input ≠ [])
    (hmore : quantifier.allowsAnother recorded = true) (hstep : 0 < (step input).value.consumed) :
    (repeats quantifier step recorded input).events = (step input).events ++
      (repeats quantifier step (recorded + 1) (input.drop (step input).value.consumed)).events := by
  obtain ⟨c, rest, rfl⟩ := List.exists_cons_of_ne_nil hinput
  obtain ⟨length, capture, hvalue⟩ := Outcome.of_consumed_pos hstep
  rw [repeats, if_pos hmore, Logged.events_bind, hvalue]
  exact congrArg ((step (c :: rest)).events ++ ·) (List.append_nil _)

end

/-- Each of the calls that claims too much is reported, in the same order, and nothing else. -/
def Reported (executes : List Char → List Call → Prop) (run : List Char → Logged Outcome) : Prop :=
  ∀ input calls, executes input calls → (run input).events = calls.filterMap Call.overrun?

theorem Starts.events {attempt : Attempt} (hattempt : Reported attempt.Executes attempt.run)
    {quantifier : Quantifier} {input : List Char} {recorded offset : Nat} {starts : List Nat}
    (h : Starts quantifier attempt.outcome input recorded offset starts) {calls : List Call}
    (hruns : attempt.ExecutesAt input starts calls) :
    (repeats quantifier attempt.run recorded (input.drop offset) :
      Logged (Nat × List Capture)).events = calls.filterMap Call.overrun? := by
  induction h generalizing calls with
  | @stopped recorded offset hstop =>
    cases hruns
    refine repeats_events_stopped fun hgoes => hstop ⟨?_, hgoes.2⟩
    simpa using hgoes.1
  | @last recorded offset hinput hmore hstep =>
    cases hruns with
    | cons hrun hruns =>
    cases hruns
    have hleft : input.drop offset ≠ [] := by simpa using hinput
    rw [← attempt.value_run] at hstep
    rw [repeats_events_last hleft hmore hstep, hattempt _ _ hrun, List.append_nil]
  | @next recorded offset starts hinput hmore hstep hrest ih =>
    cases hruns with
    | cons hrun hruns =>
    have hleft : input.drop offset ≠ [] := by simpa using hinput
    have hlater := ih hruns
    rw [← attempt.value_run] at hstep hlater
    rw [repeats_events_next hleft hmore hstep, hattempt _ _ hrun, List.drop_drop, hlater,
      List.filterMap_append]

section

variable {run : List Char → Logged Outcome} {c : Char} {rest : List Char}

end

theorem Attempt.ExecutesAt.single {attempt : Attempt} {input : List Char} {start : Nat}
    {calls : List Call} (hrun : attempt.Executes (input.drop start) calls) :
    attempt.ExecutesAt input [start] calls := by
  have hcons : attempt.ExecutesAt input [start] (calls ++ []) := .cons hrun .nil
  rwa [List.append_nil] at hcons

end GreedyMatch

import GreedyMatch.Matcher.Search
import GreedyMatch.Proofs.Attempts

set_option autoImplicit false

namespace GreedyMatch

def Within (step : List Char → Outcome) : Prop :=
  ∀ input length capture, step input = .matched length capture → length ≤ input.length

theorem InTurn.total_le {steps : List (List Char → Outcome)} {input : List Char} {total : Nat}
    {captures : List Capture} (h : InTurn steps input total captures)
    (hsteps : ∀ step ∈ steps, Within step) : total ≤ input.length := by
  induction h with
  | nil => exact Nat.zero_le _
  | @cons step steps input length capture total captures hstep hrest ih =>
    have hhead := hsteps step List.mem_cons_self input length capture hstep
    have htail := ih fun other hmem => hsteps other (.tail _ hmem)
    rw [List.length_drop] at htail
    omega

theorem Within.consumed_le {step : List Char → Outcome} (h : Within step) (input : List Char) :
    (step input).consumed ≤ input.length := by
  cases hstep : step input with
  | fail => exact Nat.zero_le _
  | matched length capture => exact h input length capture hstep

theorem guarded_within (step : List Char → Outcome) : Within (guarded (m := Id) step) :=
  fun _ _ _ h => (guarded_eq_matched h).2

theorem checked_of_consumed_le {m : Type → Type} [Monad m] [Reports m] {size : Nat}
    {outcome : Outcome} (h : outcome.consumed ≤ size) :
    (checked size outcome : m Outcome) = pure outcome := by
  cases outcome with
  | fail => rfl
  | matched length capture =>
    have hfits : ¬ size < length := Nat.not_lt.mpr h
    rw [checked, if_neg hfits]

theorem guarded_of_within {step : List Char → Outcome} (h : Within step) (input : List Char) :
    guarded (m := Id) step input = step input :=
  checked_of_consumed_le (h.consumed_le input)

theorem Matcher.within_of_attempt {matcher : Matcher} (h : Within matcher.attempt.outcome) :
    Within matcher.outcome := by
  intro input length capture hmatched
  obtain ⟨captures, -, -, hrepetition⟩ := Matcher.repetition_of_matched hmatched
  exact hrepetition.inTurn.total_le fun step hmem => List.eq_of_mem_replicate hmem ▸ h

theorem Attempt.within (attempt : Attempt) : Within attempt.outcome := by
  induction attempt with
  | literal text chars =>
    intro input length capture h
    obtain ⟨hstarts, rfl, -⟩ := literalOutcome_eq_matched h
    exact hstarts.length_le
  | char test =>
    intro input length capture h
    obtain ⟨c, rest, rfl, -, rfl, -⟩ := charOutcome_eq_matched h
    exact Nat.le_add_left 1 rest.length
  | sequence children ih =>
    intro input length capture h
    obtain ⟨captures, -, hturn⟩ := Attempt.inTurn_of_matched h
    refine hturn.total_le fun step hmem => ?_
    obtain ⟨child, hchild, rfl⟩ := List.mem_map.mp hmem
    exact Matcher.within_of_attempt (ih child hchild)
  | alternation children ih =>
    intro input length capture h
    obtain ⟨child, hchild, hmatched⟩ := Attempt.child_of_matched h
    exact Matcher.within_of_attempt (ih child hchild) input length capture hmatched
  | nested inner ih => exact guarded_within inner.outcome
  | custom answer => exact guarded_within answer

theorem Matcher.within (matcher : Matcher) : Within matcher.outcome :=
  Matcher.within_of_attempt matcher.attempt.within

theorem searchFrom_cons (step : List Char → Outcome) (start : Nat) (c : Char) (rest : List Char) :
    searchFrom (m := Id) step start (c :: rest) =
      match step (c :: rest) with
      | .matched (length + 1) capture => some ⟨start, length + 1, capture⟩
      | _ => searchFrom (m := Id) step (start + 1) rest := by
  rw [searchFrom]
  rfl

theorem searchFrom_within {step : List Char → Outcome} (hwithin : Within step) {start : Nat}
    {input : List Char} {span : Span}
    (h : searchFrom (m := Id) step start input = some span) :
    span.start + span.length ≤ start + input.length := by
  induction input generalizing start with
  | nil => cases h
  | cons c rest ih =>
    have hlater (h : searchFrom (m := Id) step (start + 1) rest = some span) :
        span.start + span.length ≤ start + (c :: rest).length := by
      have hend := ih h
      rw [List.length_cons]
      omega
    rw [searchFrom_cons] at h
    cases hstep : step (c :: rest) with
    | fail =>
      rw [hstep] at h
      exact hlater h
    | matched length capture =>
      rw [hstep] at h
      cases length with
      | zero => exact hlater h
      | succ length =>
        cases h
        exact Nat.add_le_add_left (hwithin _ _ _ hstep) start

end GreedyMatch

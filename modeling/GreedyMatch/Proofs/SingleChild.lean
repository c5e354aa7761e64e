import GreedyMatch.Matcher.Build
import GreedyMatch.Matcher.Search
import GreedyMatch.Proofs.Extent

set_option autoImplicit false

namespace GreedyMatch

section

variable {m : Type → Type} [Monad m]

theorem repeats_of_full {quantifier : Quantifier} {recorded : Nat}
    (hfull : quantifier.allowsAnother recorded = false) (step : List Char → m Outcome)
    (input : List Char) : repeats quantifier step recorded input = pure (0, []) := by
  cases input with
  | nil => rw [repeats]
  | cons c rest => rw [repeats, if_neg (by simp [hfull])]

variable [LawfulMonad m]

theorem repeated_nil (quantifier : Quantifier) (step : List Char → m Outcome) :
    repeated quantifier step [] = pure (.ofRepeats quantifier 0 []) := by
  rw [repeated, repeats, pure_bind]

theorem repeated_exactly_one (step : List Char → m Outcome) {input : List Char}
    (hinput : input ≠ []) : repeated (.exactly 1) step input = step input := by
  obtain ⟨c, rest, rfl⟩ := List.exists_cons_of_ne_nil hinput
  have hfirst : (Quantifier.exactly 1).allowsAnother 0 = true := rfl
  have hsecond : (Quantifier.exactly 1).allowsAnother (0 + 1) = false := rfl
  rw [repeated, repeats, if_pos hfirst, bind_assoc]
  refine Eq.trans (congrArg (step (c :: rest) >>= ·) (funext fun outcome => ?_)) (bind_pure _)
  -- Whatever the one attempt has answered is recorded once and becomes the answer.
  rcases outcome with _ | ⟨_ | length, capture⟩
  · exact pure_bind _ _
  · exact pure_bind _ _
  · simp only [repeats_of_full hsecond, pure_bind]
    rfl

theorem Matcher.run_nil [Reports m] (matcher : Matcher) :
    (matcher.run [] : m Outcome) = pure (.ofRepeats matcher.quantifier 0 []) := by
  obtain ⟨attempt, quantifier⟩ := matcher
  exact repeated_nil quantifier attempt.run

end

theorem Quantifier.ofRepeats_nil (quantifier : Quantifier) :
    Outcome.ofRepeats quantifier 0 [] =
      if quantifier.minCount = 0 then .matched 0 .empty else .fail := by
  by_cases hmin : quantifier.minCount = 0
  · simp [Outcome.ofRepeats, Quantifier.satisfiedBy, hmin, Capture.ofRepeats, Capture.empty]
  · simp [Outcome.ofRepeats, Quantifier.satisfiedBy, hmin]

/-- A nested matcher never claims more than there is. -/
theorem Matcher.checked_outcome (matcher : Matcher) (input : List Char) :
    (checked input.length (matcher.outcome input) : Logged Outcome) =
      pure (matcher.outcome input) :=
  checked_of_consumed_le (matcher.within.consumed_le input)

theorem Attempt.run_nested (matcher : Matcher) :
    (Attempt.run (.nested matcher) : List Char → Logged Outcome) = matcher.run := by
  funext input
  refine Logged.bind_eq_self ?_
  rw [Matcher.value_run]
  exact matcher.checked_outcome input

theorem Attempt.run_alternation_single (matcher : Matcher) :
    (Attempt.run (.alternation [matcher]) : List Char → Logged Outcome) = matcher.run := by
  funext input
  refine Logged.bind_eq_self ?_
  cases (matcher.run input : Logged Outcome).value with
  | fail => rfl
  | matched length capture => rfl

theorem Attempt.outcome_nested (matcher : Matcher) :
    (Attempt.nested matcher).outcome = matcher.outcome := by
  funext input
  rw [← Attempt.value_run, Attempt.run_nested, Matcher.value_run]

theorem Attempt.outcome_alternation_single (matcher : Matcher) :
    (Attempt.alternation [matcher]).outcome = matcher.outcome := by
  funext input
  rw [← Attempt.value_run, Attempt.run_alternation_single, Matcher.value_run]

theorem Matcher.run_nested (matcher : Matcher) (quantifier : Quantifier) :
    (Matcher.run ⟨.nested matcher, quantifier⟩ : List Char → Logged Outcome) =
      repeated quantifier matcher.run := by
  rw [Matcher.run, Attempt.run_nested]

theorem Matcher.run_alternation_single (matcher : Matcher) (quantifier : Quantifier) :
    (Matcher.run ⟨.alternation [matcher], quantifier⟩ : List Char → Logged Outcome) =
      repeated quantifier matcher.run := by
  rw [Matcher.run, Attempt.run_alternation_single]

theorem Matcher.repeated_run_exactly_one (matcher : Matcher) {input : List Char}
    (h : input ≠ [] ∨ 1 ≤ matcher.quantifier.minCount) :
    repeated (.exactly 1) matcher.run input = (matcher.run input : Logged Outcome) := by
  by_cases hinput : input = []
  · subst hinput
    have hmin : matcher.quantifier.minCount ≠ 0 := by
      rcases h with h | h
      · exact absurd rfl h
      · omega
    rw [repeated_nil, Matcher.run_nil, Quantifier.ofRepeats_nil, Quantifier.ofRepeats_nil,
      if_neg hmin]
    rfl
  · exact repeated_exactly_one _ hinput

theorem Matcher.outcome_nil (matcher : Matcher) :
    matcher.outcome [] = if matcher.quantifier.minCount = 0 then .matched 0 .empty else .fail := by
  obtain ⟨attempt, quantifier⟩ := matcher
  rw [Matcher.outcome_eq_ofRepeats .exhausted, Quantifier.ofRepeats_nil]

theorem Matcher.ne_nil_of_matched {matcher : Matcher} {input : List Char} {length : Nat}
    {capture : Capture} (hmin : 1 ≤ matcher.quantifier.minCount)
    (h : matcher.outcome input = .matched length capture) : input ≠ [] := by
  rintro rfl
  rw [Matcher.outcome_nil, if_neg (Nat.ne_of_gt hmin)] at h
  cases h

theorem Matcher.outcome_exactly_one_nil (attempt : Attempt) :
    Matcher.outcome ⟨attempt, .exactly 1⟩ [] = .fail :=
  Matcher.outcome_nil ⟨attempt, .exactly 1⟩

theorem Matcher.outcome_exactly_one (attempt : Attempt) {input : List Char} (hinput : input ≠ []) :
    Matcher.outcome ⟨attempt, .exactly 1⟩ input = attempt.outcome input :=
  repeated_exactly_one (m := Id) attempt.outcome hinput

theorem Matcher.outcome_congr {first second : Attempt}
    (h : ∀ input, input ≠ [] → first.outcome input = second.outcome input)
    (quantifier : Quantifier) (input : List Char) :
    Matcher.outcome ⟨first, quantifier⟩ input = Matcher.outcome ⟨second, quantifier⟩ input :=
  repeated_congr (m := Id) h quantifier input

def Logged.debugEvents {α : Type} (logged : Logged α) : List Event :=
  logged.events.filter (·.level = .debug)

structure Matcher.SameRuns (first second : Matcher) : Prop where
  run : ∀ input, (first.run input : Logged Outcome) = second.run input
  value_apply : ∀ input,
    (first.apply input : Logged Outcome).value = (second.apply input : Logged Outcome).value
  debugEvents_apply : ∀ input, (first.apply input : Logged Outcome).debugEvents =
    (second.apply input : Logged Outcome).debugEvents

theorem Matcher.debugEvents_apply (matcher : Matcher) (input : List Char) :
    (matcher.apply input : Logged Outcome).debugEvents =
      (matcher.run input : Logged Outcome).debugEvents := by
  change ((matcher.run input : Logged Outcome).events ++ [Event.applied _ _ _]).filter _ = _
  rw [List.filter_append]
  exact List.append_nil _

/-- The trace of an application names the kind of the matcher; nothing else depends on it. -/
theorem Matcher.sameRuns_of_run_eq {first second : Matcher}
    (h : (first.run : List Char → Logged Outcome) = second.run) : first.SameRuns second where
  run input := congrFun h input
  value_apply input := by
    change (first.run input : Logged Outcome).value = (second.run input : Logged Outcome).value
    rw [h]
  debugEvents_apply input := by
    rw [Matcher.debugEvents_apply, Matcher.debugEvents_apply, h]

theorem Matcher.build_eq_pure {m : Type → Type} [Monad m] [Reports m] {attempt : Attempt}
    {quantifier : Quantifier} (hordered : quantifier.Ordered) (hvacuity : attempt.vacuity? = none) :
    (Matcher.build attempt quantifier : m _) = pure (.ok ⟨attempt, quantifier⟩) := by
  rw [Matcher.build, Quantifier.validate_of_ordered hordered, hvacuity]

theorem Matcher.sequence_eq_pure {m : Type → Type} [Monad m] [Reports m] {children : List Matcher}
    {quantifier : Quantifier} (hordered : quantifier.Ordered) (hchildren : children ≠ []) :
    (Matcher.sequence children quantifier : m _) = pure (.ok ⟨.sequence children, quantifier⟩) := by
  cases children with
  | nil => exact absurd rfl hchildren
  | cons child children => exact Matcher.build_eq_pure hordered rfl

theorem Matcher.alternation_eq_pure {m : Type → Type} [Monad m] [Reports m]
    {children : List Matcher} {quantifier : Quantifier} (hordered : quantifier.Ordered)
    (hchildren : children ≠ []) :
    (Matcher.alternation children quantifier : m _) =
      pure (.ok ⟨.alternation children, quantifier⟩) := by
  cases children with
  | nil => exact absurd rfl hchildren
  | cons child children => exact Matcher.build_eq_pure hordered rfl

/-- The two ways to repeat a whole matcher; a single repeat is the matcher itself, unless it matches
where no input is left. -/
theorem Matcher.nested_eq_alternation (matcher : Matcher) :
    (∀ quantifier : Quantifier, quantifier.Ordered →
      Matcher.nested (m := Logged) matcher quantifier =
          pure (.ok ⟨.nested matcher, quantifier⟩) ∧
        Matcher.alternation (m := Logged) [matcher] quantifier =
          pure (.ok ⟨.alternation [matcher], quantifier⟩) ∧
        Matcher.SameRuns ⟨.nested matcher, quantifier⟩ ⟨.alternation [matcher], quantifier⟩) ∧
      (∀ input, (checked input.length (matcher.outcome input) : Logged Outcome) =
        pure (matcher.outcome input)) ∧
      (∀ input, input ≠ [] ∨ 1 ≤ matcher.quantifier.minCount →
        (Matcher.run ⟨.nested matcher, .exactly 1⟩ input : Logged Outcome) = matcher.run input ∧
          (Matcher.run ⟨.alternation [matcher], .exactly 1⟩ input : Logged Outcome) =
            matcher.run input) ∧
      (matcher.quantifier.minCount = 0 →
        Matcher.outcome ⟨.nested matcher, .exactly 1⟩ [] = .fail ∧
          Matcher.outcome ⟨.alternation [matcher], .exactly 1⟩ [] = .fail ∧
          matcher.outcome [] = .matched 0 .empty) := by
  refine ⟨fun quantifier hordered => ?_, matcher.checked_outcome, fun input h => ?_, fun hmin => ?_⟩
  · have hrun : (Matcher.run ⟨.nested matcher, quantifier⟩ : List Char → Logged Outcome) =
        Matcher.run ⟨.alternation [matcher], quantifier⟩ := by
      rw [Matcher.run_nested, Matcher.run_alternation_single]
    exact ⟨Matcher.build_eq_pure hordered rfl, Matcher.build_eq_pure hordered rfl,
      Matcher.sameRuns_of_run_eq hrun⟩
  · rw [Matcher.run_nested, Matcher.run_alternation_single]
    exact ⟨matcher.repeated_run_exactly_one h, matcher.repeated_run_exactly_one h⟩
  · rw [Matcher.outcome_nil, Matcher.outcome_nil, matcher.outcome_nil, if_pos hmin]
    exact ⟨rfl, rfl, rfl⟩

def overclaimedMarks : Matcher :=
  ⟨.alternation [⟨.custom fun _ => .matched 9 (.leaf "?"), .exactly 1⟩,
    ⟨.literal "ab" ['a', 'b'], .exactly 1⟩], .between 0 2⟩

theorem overclaimedMarks_nested_eq_alternation :
    (Quantifier.between 1 2).Ordered ∧
      (Matcher.run ⟨.alternation [overclaimedMarks], .between 1 2⟩ ['a', 'b', 'x'] :
          Logged Outcome) =
        ⟨.matched 2 (.group [.leaf "ab", .empty]), [.overrun 9 3, .overrun 9 1, .overrun 9 1]⟩ ∧
      ['a', 'b', 'x'] ≠ [] ∧
      (Matcher.run ⟨.nested overclaimedMarks, .exactly 1⟩ ['a', 'b', 'x'] : Logged Outcome) =
        ⟨.matched 2 (.leaf "ab"), [.overrun 9 3, .overrun 9 1]⟩ ∧
      overclaimedMarks.quantifier.minCount = 0 ∧
      Matcher.outcome ⟨.nested overclaimedMarks, .exactly 1⟩ [] = .fail ∧
      overclaimedMarks.outcome [] = .matched 0 .empty := by
  have hordered : (Quantifier.between 1 2).Ordered := by decide
  have hinput : ['a', 'b', 'x'] ≠ [] := List.cons_ne_nil _ _
  have hnested : (Matcher.run ⟨.nested overclaimedMarks, .between 1 2⟩ ['a', 'b', 'x'] :
      Logged Outcome) = ⟨.matched 2 (.group [.leaf "ab", .empty]),
        [.overrun 9 3, .overrun 9 1, .overrun 9 1]⟩ := by cbv
  have halone : (overclaimedMarks.run ['a', 'b', 'x'] : Logged Outcome) =
      ⟨.matched 2 (.leaf "ab"), [.overrun 9 3, .overrun 9 1]⟩ := by cbv
  obtain ⟨hsame, -, hsingle, hnil⟩ := Matcher.nested_eq_alternation overclaimedMarks
  have hrun := (hsame (.between 1 2) hordered).2.2.run ['a', 'b', 'x']
  exact ⟨hordered, hrun.symm.trans hnested, hinput, (hsingle _ (.inl hinput)).1.trans halone, rfl,
    (hnil rfl).1, (hnil rfl).2.2⟩

end GreedyMatch

import GreedyMatch.Proofs.SingleChild

set_option autoImplicit false

namespace GreedyMatch

section

variable {m : Type → Type} [Monad m]

def Outcome.orElse (later : m Outcome) : Outcome → m Outcome
  | .fail => later
  | .matched length capture => pure (.matched length capture)

theorem firstMatch_cons_bind (step : List Char → m Outcome) (steps : List (List Char → m Outcome))
    (input : List Char) :
    firstMatch (step :: steps) input = step input >>= Outcome.orElse (firstMatch steps input) := by
  rw [firstMatch]
  refine bind_congr fun outcome => ?_
  cases outcome <;> rfl

theorem Attempt.run_alternation [Reports m] (children : List Matcher) :
    ((Attempt.alternation children).run : List Char → m Outcome) =
      firstMatch (children.map Matcher.run) := by
  rw [Attempt.run, runAll_eq_map]

variable [LawfulMonad m]

theorem firstMatch_append (first second : List (List Char → m Outcome)) (input : List Char) :
    firstMatch (first ++ second) input =
      firstMatch first input >>= Outcome.orElse (firstMatch second input) := by
  induction first with
  | nil => rw [List.nil_append, firstMatch, pure_bind, Outcome.orElse]
  | cons step first ih =>
    rw [List.cons_append, firstMatch_cons_bind, firstMatch_cons_bind, bind_assoc, ih]
    refine bind_congr fun outcome => ?_
    cases outcome with
    | fail => rfl
    | matched length capture => simp only [Outcome.orElse, pure_bind]

theorem firstMatch_singleton (step : List Char → m Outcome) (input : List Char) :
    firstMatch [step] input = step input := by
  rw [firstMatch_cons_bind]
  refine Eq.trans (bind_congr fun outcome => ?_) (bind_pure (step input))
  cases outcome <;> rfl

theorem firstMatch_flatten (before inner after : List (List Char → m Outcome))
    {step : List Char → m Outcome} {input : List Char} (h : step input = firstMatch inner input) :
    firstMatch (before ++ [step] ++ after) input = firstMatch (before ++ inner ++ after) input := by
  rw [firstMatch_append, firstMatch_append before, firstMatch_singleton, h, ← firstMatch_append,
    ← firstMatch_append]

/-- The inner alternation is never run at the end of the input, where it fails although a child of
its own might match. -/
theorem Matcher.run_alternation_nested (before inner after : List Matcher)
    (quantifier : Quantifier) [Reports m] (input : List Char) :
    (Matcher.run ⟨.alternation (before ++ [⟨.alternation inner, .exactly 1⟩] ++ after), quantifier⟩
        input : m Outcome) =
      Matcher.run ⟨.alternation (before ++ inner ++ after), quantifier⟩ input := by
  rw [Matcher.run, Matcher.run]
  refine repeated_congr (fun input hinput => ?_) quantifier input
  have hinner : (Matcher.run ⟨.alternation inner, .exactly 1⟩ input : m Outcome) =
      firstMatch (inner.map Matcher.run) input := by
    rw [Matcher.run, repeated_exactly_one _ hinput, Attempt.run_alternation]
  rw [Attempt.run_alternation, Attempt.run_alternation]
  simp only [List.map_append, List.map_cons, List.map_nil]
  exact firstMatch_flatten _ _ _ hinner

end

/-- An alternation among the alternatives can be opened. -/
theorem Matcher.alternation_flattened (before inner after : List Matcher) (quantifier : Quantifier)
    (hinner : inner ≠ []) (hordered : quantifier.Ordered) :
    Matcher.alternation (m := Logged) inner (.exactly 1) =
        pure (.ok ⟨.alternation inner, .exactly 1⟩) ∧
      Matcher.alternation (m := Logged) (before ++ [⟨.alternation inner, .exactly 1⟩] ++ after)
          quantifier =
        pure (.ok ⟨.alternation (before ++ [⟨.alternation inner, .exactly 1⟩] ++ after),
          quantifier⟩) ∧
      Matcher.alternation (m := Logged) (before ++ inner ++ after) quantifier =
        pure (.ok ⟨.alternation (before ++ inner ++ after), quantifier⟩) ∧
      ∀ input,
        Matcher.outcome
            ⟨.alternation (before ++ [⟨.alternation inner, .exactly 1⟩] ++ after), quantifier⟩
            input =
          Matcher.outcome ⟨.alternation (before ++ inner ++ after), quantifier⟩ input ∧
        (Matcher.run
            ⟨.alternation (before ++ [⟨.alternation inner, .exactly 1⟩] ++ after), quantifier⟩
            input : Logged Outcome) =
          Matcher.run ⟨.alternation (before ++ inner ++ after), quantifier⟩ input := by
  have hsingle : (Quantifier.exactly 1).Ordered := Nat.le_refl 1
  refine ⟨Matcher.alternation_eq_pure hsingle hinner,
    Matcher.alternation_eq_pure hordered (by simp),
    Matcher.alternation_eq_pure hordered (by simp [hinner]), fun input => ⟨?_, ?_⟩⟩
  · exact Matcher.run_alternation_nested (m := Id) before inner after quantifier input
  · exact Matcher.run_alternation_nested before inner after quantifier input

def wordOrDigit : List Matcher :=
  [⟨.literal "ab" ['a', 'b'], .exactly 1⟩, ⟨.char (.ofSet ⟨false, [.named .digit]⟩), .optional⟩]

def claimNine : Matcher := ⟨.custom fun _ => .matched 9 (.leaf "?"), .exactly 1⟩

/-- At the `c` there is no digit; repeats of nothing are recorded up to the maximum. -/
theorem wordOrDigit_alternation_flattened :
    wordOrDigit ≠ [] ∧ (Quantifier.between 2 5).Ordered ∧
      (Matcher.run ⟨.alternation ([claimNine] ++ [⟨.alternation wordOrDigit, .exactly 1⟩] ++
          [⟨.literal "c" ['c'], .exactly 1⟩]), .between 2 5⟩ ['a', 'b', '1', 'c'] :
          Logged Outcome) =
        ⟨.matched 3 (.group [.leaf "ab", .leaf "1", .empty, .empty, .empty]),
          [.overrun 9 4, .overrun 9 2, .overrun 9 1]⟩ := by
  have hopen : (Matcher.run ⟨.alternation ([claimNine] ++ wordOrDigit ++
      [⟨.literal "c" ['c'], .exactly 1⟩]), .between 2 5⟩ ['a', 'b', '1', 'c'] : Logged Outcome) =
        ⟨.matched 3 (.group [.leaf "ab", .leaf "1", .empty, .empty, .empty]),
          [.overrun 9 4, .overrun 9 2, .overrun 9 1]⟩ :=
    Logged.ext (by decide +kernel) (by decide +kernel)
  have hinner : wordOrDigit ≠ [] := List.cons_ne_nil _ _
  have hordered : (Quantifier.between 2 5).Ordered := by decide
  obtain ⟨-, -, -, hsame⟩ := Matcher.alternation_flattened [claimNine] wordOrDigit
    [⟨.literal "c" ['c'], .exactly 1⟩] (.between 2 5) hinner hordered
  exact ⟨hinner, hordered, (hsame _).2.trans hopen⟩

section

variable {before after : List (List Char → Outcome)} {input : List Char}

theorem firstMatch_append_of_fail (h : firstMatch (m := Id) before input = .fail) :
    firstMatch (m := Id) (before ++ after) input = firstMatch (m := Id) after input := by
  rw [firstMatch_append, h]
  rfl

theorem firstMatch_append_of_matched {length : Nat} {capture : Capture}
    (h : firstMatch (m := Id) before input = .matched length capture) :
    firstMatch (m := Id) (before ++ after) input = .matched length capture := by
  rw [firstMatch_append, h]
  rfl

theorem firstMatch_eq_fail_iff {steps : List (List Char → Outcome)} :
    firstMatch (m := Id) steps input = .fail ↔ ∀ step ∈ steps, step input = .fail := by
  induction steps with
  | nil => exact ⟨fun _ _ hmem => (nomatch hmem), fun _ => rfl⟩
  | cons step steps ih =>
    rw [firstMatch_cons, List.forall_mem_cons, ← ih]
    cases step input with
    | fail => simp
    | matched length capture => simp

theorem firstMatch_drop {step : List Char → Outcome}
    (h : (∀ other ∈ before, other input = .fail) → step input = .fail) :
    firstMatch (m := Id) (before ++ [step] ++ after) input =
      firstMatch (m := Id) (before ++ after) input := by
  rw [List.append_assoc]
  cases hbefore : firstMatch (m := Id) before input with
  | fail =>
    have hstep := h (firstMatch_eq_fail_iff.mp hbefore)
    rw [firstMatch_append_of_fail hbefore, firstMatch_append_of_fail hbefore,
      List.singleton_append, firstMatch_cons, hstep]
  | matched length capture =>
    rw [firstMatch_append_of_matched hbefore, firstMatch_append_of_matched hbefore]

end

theorem Matcher.outcome_alternation_drop (earlier later : List Matcher) {kept dropped : Matcher}
    (quantifier : Quantifier) (hkept : kept ∈ earlier)
    (h : ∀ input, input ≠ [] → (dropped.outcome input).isMatch = true →
      (kept.outcome input).isMatch = true) (input : List Char) :
    Matcher.outcome ⟨.alternation (earlier ++ [dropped] ++ later), quantifier⟩ input =
      Matcher.outcome ⟨.alternation (earlier ++ later), quantifier⟩ input := by
  refine Matcher.outcome_congr (fun input hinput => ?_) quantifier input
  rw [Attempt.outcome_alternation, Attempt.outcome_alternation, List.map_append, List.map_append,
    List.map_append, List.map_singleton]
  refine firstMatch_drop fun hfail => ?_
  have hnone : kept.outcome input = .fail := hfail _ (List.mem_map_of_mem hkept)
  cases hdropped : dropped.outcome input with
  | fail => rfl
  | matched length capture =>
    have hmatch := h input hinput (by rw [hdropped]; rfl)
    rw [hnone] at hmatch
    cases hmatch

/-- Nothing is too few repeats. -/
theorem Matcher.outcome_ne_fail {matcher : Matcher} (hmin : matcher.quantifier.minCount = 0)
    (input : List Char) : matcher.outcome input ≠ .fail := by
  obtain ⟨attempt, quantifier⟩ := matcher
  have hnone : quantifier.minCount = 0 := hmin
  have hrepetition := repetition_repeats quantifier attempt.outcome 0 input
  rw [Matcher.outcome_eq_ofRepeats hrepetition, Outcome.ofRepeats_of_le (by omega)]
  exact Outcome.noConfusion

theorem Matcher.run_alternation_unreached (before after : List Matcher) {matcher : Matcher}
    (quantifier : Quantifier) (hmin : matcher.quantifier.minCount = 0) (input : List Char) :
    (Matcher.run ⟨.alternation (before ++ [matcher] ++ after), quantifier⟩ input :
        Logged Outcome) =
      Matcher.run ⟨.alternation (before ++ [matcher]), quantifier⟩ input := by
  rw [Matcher.run, Matcher.run]
  refine repeated_congr (fun input _ => ?_) quantifier input
  have hmatch : (Attempt.alternation (before ++ [matcher])).outcome input ≠ .fail := by
    rw [Attempt.outcome_alternation]
    intro hfail
    have hlast := firstMatch_eq_fail_iff.mp hfail matcher.outcome (List.mem_map_of_mem (by simp))
    exact Matcher.outcome_ne_fail hmin input hlast
  rw [Attempt.run_alternation, List.map_append, firstMatch_append, ← Attempt.run_alternation]
  refine Logged.bind_eq_self ?_
  rw [Attempt.value_run]
  cases hstep : (Attempt.alternation (before ++ [matcher])).outcome input with
  | fail => exact absurd hstep hmatch
  | matched length capture => rfl

/-- An alternative that matches only where an earlier one does can be dropped. After one without a
minimum, which never fails, all can be, and not even the log changes. -/
theorem Matcher.outcome_alternation_redundant (quantifier : Quantifier)
    (hordered : quantifier.Ordered) :
    (∀ (before between after : List Matcher) (kept dropped : Matcher),
      (∀ input, input ≠ [] → (dropped.outcome input).isMatch = true →
        (kept.outcome input).isMatch = true) →
      Matcher.alternation (m := Logged) (before ++ [kept] ++ between ++ [dropped] ++ after)
          quantifier =
        pure (.ok ⟨.alternation (before ++ [kept] ++ between ++ [dropped] ++ after),
          quantifier⟩) ∧
      Matcher.alternation (m := Logged) (before ++ [kept] ++ between ++ after) quantifier =
        pure (.ok ⟨.alternation (before ++ [kept] ++ between ++ after), quantifier⟩) ∧
      ∀ input,
        Matcher.outcome
            ⟨.alternation (before ++ [kept] ++ between ++ [dropped] ++ after), quantifier⟩ input =
          Matcher.outcome ⟨.alternation (before ++ [kept] ++ between ++ after), quantifier⟩
            input) ∧
    (∀ matcher : Matcher, matcher.quantifier.minCount = 0 →
      ∀ input, matcher.outcome input ≠ .fail) ∧
    ∀ (before after : List Matcher) (matcher : Matcher), matcher.quantifier.minCount = 0 →
      Matcher.alternation (m := Logged) (before ++ [matcher] ++ after) quantifier =
        pure (.ok ⟨.alternation (before ++ [matcher] ++ after), quantifier⟩) ∧
      Matcher.alternation (m := Logged) (before ++ [matcher]) quantifier =
        pure (.ok ⟨.alternation (before ++ [matcher]), quantifier⟩) ∧
      ∀ input,
        Matcher.outcome ⟨.alternation (before ++ [matcher] ++ after), quantifier⟩ input =
          Matcher.outcome ⟨.alternation (before ++ [matcher]), quantifier⟩ input ∧
        (Matcher.run ⟨.alternation (before ++ [matcher] ++ after), quantifier⟩ input :
            Logged Outcome) =
          Matcher.run ⟨.alternation (before ++ [matcher]), quantifier⟩ input := by
  refine ⟨fun before between after kept dropped h => ?_,
    fun matcher hmin => Matcher.outcome_ne_fail hmin, fun before after matcher hmin => ?_⟩
  · exact ⟨Matcher.alternation_eq_pure hordered (by simp),
      Matcher.alternation_eq_pure hordered (by simp),
      Matcher.outcome_alternation_drop _ after quantifier (by simp) h⟩
  · refine ⟨Matcher.alternation_eq_pure hordered (by simp),
      Matcher.alternation_eq_pure hordered (by simp), fun input => ?_⟩
    have hrun := Matcher.run_alternation_unreached before after quantifier hmin input
    exact ⟨by rw [← Matcher.value_run, ← Matcher.value_run, hrun], hrun⟩

def letterA : Matcher := ⟨.char (.ofSet ⟨false, [.single 'a']⟩), .exactly 1⟩

def wordAB : Matcher := ⟨.literal "ab" ['a', 'b'], .exactly 1⟩

def digitOnce : Matcher := ⟨.char (.ofSet ⟨false, [.named .digit]⟩), .exactly 1⟩

def letterB : Matcher := ⟨.literal "b" ['b'], .exactly 1⟩

theorem letterA_of_wordAB (input : List Char) (hinput : input ≠ [])
    (h : (wordAB.outcome input).isMatch = true) : (letterA.outcome input).isMatch = true := by
  rw [wordAB, Matcher.outcome_exactly_one _ hinput] at h
  rw [letterA, Matcher.outcome_exactly_one _ hinput]
  cases hword : Attempt.outcome (.literal "ab" ['a', 'b']) input with
  | fail =>
    rw [hword] at h
    cases h
  | matched length capture =>
    obtain ⟨⟨rest, rfl⟩, -, -⟩ := literalOutcome_eq_matched hword
    rfl

/-- All alternatives are tried at the `x`; where the word stands, a letter is taken in its place. -/
theorem letterA_outcome_alternation_redundant :
    (Quantifier.between 1 5).Ordered ∧
      (∀ input, input ≠ [] → (wordAB.outcome input).isMatch = true →
        (letterA.outcome input).isMatch = true) ∧
      Matcher.outcome ⟨.alternation ([claimNine] ++ [letterA] ++ [digitOnce] ++ [wordAB] ++
          [letterB]), .between 1 5⟩ ['a', 'b', '1', 'x'] =
        .matched 3 (.group [.leaf "a", .leaf "b", .leaf "1"]) ∧
      Quantifier.optional.minCount = 0 ∧
      Matcher.outcome ⟨.sequence [digitOnce, letterB], .optional⟩ ['1', 'x'] ≠ .fail ∧
      (Matcher.run ⟨.alternation ([letterA] ++ [⟨.sequence [digitOnce, letterB], .optional⟩] ++
          [claimNine, wordAB]), .between 1 5⟩ ['1', 'b', 'a', 'x'] : Logged Outcome) =
        ⟨.matched 3 (.group [.group [.leaf "1", .leaf "b"], .leaf "a", .empty, .empty, .empty]),
          []⟩ := by
  have hkept : Matcher.outcome ⟨.alternation ([claimNine] ++ [letterA] ++ [digitOnce] ++
      [letterB]), .between 1 5⟩ ['a', 'b', '1', 'x'] =
        .matched 3 (.group [.leaf "a", .leaf "b", .leaf "1"]) := by decide +kernel
  have hreached : (Matcher.run
      ⟨.alternation ([letterA] ++ [⟨.sequence [digitOnce, letterB], .optional⟩]), .between 1 5⟩
      ['1', 'b', 'a', 'x'] : Logged Outcome) =
        ⟨.matched 3 (.group [.group [.leaf "1", .leaf "b"], .leaf "a", .empty, .empty, .empty]),
          []⟩ := Logged.ext (by decide +kernel) (by decide +kernel)
  have hordered : (Quantifier.between 1 5).Ordered := by decide
  obtain ⟨hdrop, hmatches, hunreached⟩ :=
    Matcher.outcome_alternation_redundant (.between 1 5) hordered
  have hsame := (hdrop [claimNine] [digitOnce] [letterB] letterA wordAB letterA_of_wordAB).2.2
  have hrun := (hunreached [letterA] [claimNine, wordAB]
    ⟨.sequence [digitOnce, letterB], .optional⟩ rfl).2.2
  exact ⟨hordered, letterA_of_wordAB, (hsame _).trans hkept, rfl, hmatches _ rfl _,
    (hrun _).2.trans hreached⟩

end GreedyMatch

import Mathlib.Data.ENat.Basic
import GreedyMatch.Proofs.CountedAttempts

set_option autoImplicit false

namespace GreedyMatch

/-- At least `min` repeats and at most `max`, which may be infinite. -/
def Quantifier.upTo (min : Nat) (max : ℕ∞) : Quantifier :=
  max.recTopCoe (C := fun _ => Quantifier) (.atLeast min) (.between min)

@[simp] theorem Quantifier.upTo_top (min : Nat) : Quantifier.upTo min ⊤ = .atLeast min := rfl

@[simp] theorem Quantifier.upTo_natCast (min max : Nat) :
    Quantifier.upTo min max = .between min max := rfl

section

variable {step : List Char → Outcome} {input : List Char}

theorem le_counted_add_iff {min count : Nat} (hmin : min ≤ count) (more : Nat) :
    min ≤ (counted step (count + more) input).2.length ↔
      min ≤ (counted step count input).2.length := by
  rw [counted_add]
  by_cases hshort : (counted step count input).2.length < count
  · rw [counted_of_short hshort, List.append_nil]
  · simp only [List.length_append]
    omega

theorem counted_fst_le_add (count more : Nat) :
    (counted step count input).1 ≤ (counted step (count + more) input).1 := by
  rw [counted_add]
  exact Nat.le_add_right _ _

end

variable (attempt : Attempt) {input : List Char}

theorem Matcher.length?_outcome_between (min max : Nat) :
    (Matcher.outcome ⟨attempt, .between min max⟩ input).length? =
      if min ≤ (counted attempt.outcome max input).2.length then
        some (counted attempt.outcome max input).1
      else none := by
  rw [Matcher.outcome_between, Outcome.length?_ofRepeats]
  rfl

/-- Where there is no maximum, any size that neither the minimum nor the input exceeds will do. -/
theorem Matcher.length?_outcome_upTo {min size : Nat} (hmin : min ≤ size)
    (hinput : input.length ≤ size) (max : ℕ∞) :
    (Matcher.outcome ⟨attempt, .upTo min max⟩ input).length? =
      (Matcher.outcome ⟨attempt, .between min (WithTop.untopD size max)⟩ input).length? := by
  cases max with
  | top =>
    rw [Quantifier.upTo_top]
    exact Matcher.length?_outcome_atLeast attempt hmin hinput
  | coe max =>
    rw [Quantifier.upTo_natCast]
    rfl

theorem Matcher.length?_outcome_between_add {min max : Nat} (hmin : min ≤ max) (more : Nat) :
    ((Matcher.outcome ⟨attempt, .between min max⟩ input).length? = none ↔
        (Matcher.outcome ⟨attempt, .between min (max + more)⟩ input).length? = none) ∧
      (Matcher.outcome ⟨attempt, .between min max⟩ input).length?.getD 0 ≤
        (Matcher.outcome ⟨attempt, .between min (max + more)⟩ input).length?.getD 0 := by
  rw [Matcher.length?_outcome_between, Matcher.length?_outcome_between]
  have henough : min ≤ (counted attempt.outcome (max + more) input).2.length ↔
      min ≤ (counted attempt.outcome max input).2.length := le_counted_add_iff hmin more
  have htaken : (counted attempt.outcome max input).1 ≤
      (counted attempt.outcome (max + more) input).1 := counted_fst_le_add max more
  by_cases h : min ≤ (counted attempt.outcome max input).2.length
  · rw [if_pos h, if_pos (henough.mpr h)]
    exact ⟨by simp, htaken⟩
  · rw [if_neg h, if_neg (mt henough.mp h)]
    exact ⟨Iff.rfl, Nat.le_refl 0⟩

theorem Matcher.length?_outcome_upTo_mono {min : Nat} {max larger : ℕ∞} (hmin : min ≤ max)
    (hmax : max ≤ larger) :
    ((Matcher.outcome ⟨attempt, .upTo min max⟩ input).length? = none ↔
        (Matcher.outcome ⟨attempt, .upTo min larger⟩ input).length? = none) ∧
      (Matcher.outcome ⟨attempt, .upTo min max⟩ input).length?.getD 0 ≤
        (Matcher.outcome ⟨attempt, .upTo min larger⟩ input).length?.getD 0 := by
  cases max with
  | top =>
    obtain rfl := top_le_iff.mp hmax
    exact ⟨Iff.rfl, Nat.le_refl _⟩
  | coe max =>
    have hle : min ≤ max := by exact_mod_cast hmin
    -- A size for an infinite maximum, large enough to be `max` and some more.
    have hsize : min ≤ max + input.length := by omega
    have hinput : input.length ≤ max + input.length := by omega
    rw [Matcher.length?_outcome_upTo attempt hsize hinput,
      Matcher.length?_outcome_upTo attempt hsize hinput]
    have hmore : ∃ more, WithTop.untopD (max + input.length) larger = max + more := by
      cases larger with
      | top => exact ⟨input.length, rfl⟩
      | coe larger => exact Nat.exists_eq_add_of_le (by exact_mod_cast hmax)
    obtain ⟨more, hmore⟩ := hmore
    rw [hmore]
    exact Matcher.length?_outcome_between_add attempt hle more

theorem Matcher.outcome_between_of_matched {min larger max : Nat} (hmin : min ≤ larger)
    {length : Nat} {capture : Capture}
    (h : Matcher.outcome ⟨attempt, .between larger max⟩ input = .matched length capture) :
    Matcher.outcome ⟨attempt, .between min max⟩ input = .matched length capture := by
  rw [Matcher.outcome_between] at h ⊢
  obtain ⟨henough, rfl, rfl⟩ := Outcome.ofRepeats_eq_matched h
  exact Outcome.ofRepeats_of_le (Nat.le_trans hmin henough) _

theorem Matcher.outcome_atLeast_of_matched {min larger : Nat} (hmin : min ≤ larger) {length : Nat}
    {capture : Capture}
    (h : Matcher.outcome ⟨attempt, .atLeast larger⟩ input = .matched length capture) :
    ∃ kept, Matcher.outcome ⟨attempt, .atLeast min⟩ input = .matched length kept := by
  -- Up to a large maximum the two record the same repeats.
  have hinput : input.length ≤ larger + input.length := Nat.le_add_left _ _
  have hlength : (Matcher.outcome ⟨attempt, .atLeast larger⟩ input).length? = some length :=
    Outcome.length?_eq_some.mpr ⟨capture, h⟩
  rw [Matcher.length?_outcome_atLeast attempt (Nat.le_add_right _ _) hinput] at hlength
  obtain ⟨filled, hfilled⟩ := Outcome.length?_eq_some.mp hlength
  have hless := Matcher.outcome_between_of_matched attempt hmin hfilled
  rw [← Outcome.length?_eq_some, Matcher.length?_outcome_atLeast attempt (by omega) hinput]
  exact Outcome.length?_eq_some.mpr ⟨filled, hless⟩

/-- The two limits of a quantifier: the maximum decides only how much is taken, the minimum only
whether it is enough. -/
theorem Matcher.outcome_upTo_limits (input : List Char) :
    (∀ (min : Nat) (max larger : ℕ∞), min ≤ max → max ≤ larger →
      (Matcher.outcome ⟨attempt, .upTo min max⟩ input = .fail ↔
          Matcher.outcome ⟨attempt, .upTo min larger⟩ input = .fail) ∧
        (Matcher.outcome ⟨attempt, .upTo min max⟩ input).consumed ≤
          (Matcher.outcome ⟨attempt, .upTo min larger⟩ input).consumed) ∧
      ∀ (min larger : Nat) (max : ℕ∞), min ≤ larger → larger ≤ max →
        ∀ length capture,
          Matcher.outcome ⟨attempt, .upTo larger max⟩ input = .matched length capture →
            ∃ kept, Matcher.outcome ⟨attempt, .upTo min max⟩ input = .matched length kept ∧
              (max ≠ ⊤ → kept = capture) := by
  constructor
  · intro min max larger hmin hmax
    rw [← Outcome.length?_eq_none, ← Outcome.length?_eq_none, Outcome.consumed_eq_getD,
      Outcome.consumed_eq_getD]
    exact Matcher.length?_outcome_upTo_mono attempt hmin hmax
  · intro min larger max hmin _ length capture h
    cases max with
    | top =>
      rw [Quantifier.upTo_top] at h ⊢
      obtain ⟨kept, hkept⟩ := Matcher.outcome_atLeast_of_matched attempt hmin h
      exact ⟨kept, hkept, fun hfinite => absurd rfl hfinite⟩
    | coe max =>
      rw [Quantifier.upTo_natCast] at h ⊢
      exact ⟨capture, Matcher.outcome_between_of_matched attempt hmin h, fun _ => rfl⟩

def optionalPair : Attempt :=
  .sequence [⟨.literal "a" ['a'], .optional⟩, ⟨.literal "b" ['b'], .optional⟩]

theorem optionalPair_outcome_upTo_limits :
    (((1 : Nat) : ℕ∞) ≤ (1 : Nat) ∧ ((1 : Nat) : ℕ∞) ≤ ⊤ ∧
      Matcher.outcome ⟨optionalPair, .upTo 1 (1 : Nat)⟩ ['a', 'b', 'a', 'x'] ≠ .fail ∧
      (Matcher.outcome ⟨optionalPair, .upTo 1 (1 : Nat)⟩ ['a', 'b', 'a', 'x']).consumed ≤ 3) ∧
      1 ≤ 3 ∧ ((3 : Nat) : ℕ∞) ≤ (4 : Nat) ∧
        Matcher.outcome ⟨optionalPair, .upTo 1 (4 : Nat)⟩ ['a', 'b', 'a', 'x'] =
          .matched 3 (.group [.group [.leaf "a", .leaf "b"], .group [.leaf "a", .empty],
            .group [.empty, .empty], .group [.empty, .empty]]) := by
  have hendless : Matcher.outcome ⟨optionalPair, .atLeast 1⟩ ['a', 'b', 'a', 'x'] =
      .matched 3 (.group [.group [.leaf "a", .leaf "b"], .group [.leaf "a", .empty],
        .group [.empty, .empty]]) := by cbv
  have hfilled : Matcher.outcome ⟨optionalPair, .between 3 4⟩ ['a', 'b', 'a', 'x'] =
      .matched 3 (.group [.group [.leaf "a", .leaf "b"], .group [.leaf "a", .empty],
        .group [.empty, .empty], .group [.empty, .empty]]) := by cbv
  have hmax : ((3 : Nat) : ℕ∞) ≤ (4 : Nat) := by exact_mod_cast (by decide : 3 ≤ 4)
  obtain ⟨hlarger, hsmaller⟩ := Matcher.outcome_upTo_limits optionalPair ['a', 'b', 'a', 'x']
  obtain ⟨hfail, htaken⟩ := hlarger 1 (1 : Nat) ⊤ (le_refl _) le_top
  obtain ⟨kept, hkept, hsame⟩ := hsmaller 1 3 (4 : Nat) (by decide) hmax _ _ hfilled
  have hmatches : Matcher.outcome ⟨optionalPair, .upTo 1 ⊤⟩ ['a', 'b', 'a', 'x'] ≠ .fail :=
    hendless.trans_ne Outcome.noConfusion
  have hlength : (Matcher.outcome ⟨optionalPair, .upTo 1 ⊤⟩ ['a', 'b', 'a', 'x']).consumed = 3 :=
    congrArg Outcome.consumed hendless
  obtain rfl := hsame (ENat.natCast_ne_top 4)
  exact ⟨⟨le_refl _, le_top, mt hfail.mp hmatches, hlength ▸ htaken⟩, by decide, hmax, hkept⟩

theorem Matcher.length?_outcome_upTo_zero {size : Nat} (hinput : input.length ≤ size) (max : ℕ∞) :
    (Matcher.outcome ⟨attempt, .upTo 0 max⟩ input).length? =
      some (counted attempt.outcome (WithTop.untopD size max) input).1 := by
  rw [Matcher.length?_outcome_upTo attempt (Nat.zero_le size) hinput,
    Matcher.length?_outcome_between, if_pos (Nat.zero_le _)]

theorem Matcher.length?_outcome_upTo_add {first second : ℕ∞} {taken further : Nat}
    (hfirst : (Matcher.outcome ⟨attempt, .upTo 0 first⟩ input).length? = some taken)
    (hsecond : (Matcher.outcome ⟨attempt, .upTo 0 second⟩ (input.drop taken)).length? =
      some further) :
    (Matcher.outcome ⟨attempt, .upTo 0 (first + second)⟩ input).length? =
      some (taken + further) := by
  have hrest : (input.drop taken).length ≤ input.length := by
    rw [List.length_drop]
    omega
  -- Sizes that stand for infinite maxima add up to one that does.
  have hsum : ∃ size, input.length ≤ size ∧ WithTop.untopD size (first + second) =
      WithTop.untopD input.length first + WithTop.untopD input.length second := by
    cases first with
    | top => exact ⟨_, Nat.le_add_right _ _, rfl⟩
    | coe first =>
      cases second with
      | top => exact ⟨_, Nat.le_add_left _ _, rfl⟩
      | coe second => exact ⟨_, Nat.le_refl _, rfl⟩
  obtain ⟨size, hsize, hsum⟩ := hsum
  rw [Matcher.length?_outcome_upTo_zero attempt (Nat.le_refl _), Option.some_inj] at hfirst
  rw [Matcher.length?_outcome_upTo_zero attempt hrest, Option.some_inj] at hsecond
  subst hfirst hsecond
  rw [Matcher.length?_outcome_upTo_zero attempt hsize, hsum, counted_add]

/-- Repetitions without a minimum always match. They can be cut and resumed; after one without a
maximum there is nothing to resume. -/
theorem Matcher.outcome_upTo_resumed (input : List Char) :
    (∀ max : ℕ∞, ∃ taken,
      (Matcher.outcome ⟨attempt, .upTo 0 max⟩ input).length? = some taken) ∧
      (∀ (first second : ℕ∞) (taken further : Nat),
        (Matcher.outcome ⟨attempt, .upTo 0 first⟩ input).length? = some taken →
          (Matcher.outcome ⟨attempt, .upTo 0 second⟩ (input.drop taken)).length? =
            some further →
          (Matcher.outcome ⟨attempt, .upTo 0 (first + second)⟩ input).length? =
            some (taken + further)) ∧
      ∀ (max : ℕ∞) (taken : Nat),
        (Matcher.outcome ⟨attempt, .upTo 0 ⊤⟩ input).length? = some taken →
          (Matcher.outcome ⟨attempt, .upTo 0 max⟩ (input.drop taken)).length? = some 0 := by
  have hmatches (input : List Char) (max : ℕ∞) : ∃ taken,
      (Matcher.outcome ⟨attempt, .upTo 0 max⟩ input).length? = some taken :=
    ⟨_, Matcher.length?_outcome_upTo_zero attempt (Nat.le_refl _) max⟩
  refine ⟨hmatches input, fun first second taken further hfirst hsecond =>
    Matcher.length?_outcome_upTo_add attempt hfirst hsecond, fun max taken htaken => ?_⟩
  obtain ⟨further, hfurther⟩ := hmatches (input.drop taken) max
  have hsum := Matcher.length?_outcome_upTo_add attempt htaken hfurther
  -- The whole repetition has taken no more than its first part.
  rw [top_add, htaken, Option.some_inj] at hsum
  obtain rfl : further = 0 := by omega
  exact hfurther

theorem optionalPair_outcome_upTo_resumed :
    ((Matcher.outcome ⟨optionalPair, .upTo 0 (1 : Nat)⟩ ['a', 'b', 'a', 'x', 'b']).length? =
        some 2 ∧
      (Matcher.outcome ⟨optionalPair, .upTo 0 ⊤⟩ ['a', 'x', 'b']).length? = some 1 ∧
      (Matcher.outcome ⟨optionalPair, .upTo 0 ((1 : Nat) + ⊤)⟩ ['a', 'b', 'a', 'x', 'b']).length? =
        some 3) ∧
      (Matcher.outcome ⟨optionalPair, .upTo 0 ⊤⟩ ['a', 'b', 'a', 'x', 'b']).length? = some 3 ∧
      (Matcher.outcome ⟨optionalPair, .upTo 0 (5 : Nat)⟩ ['x', 'b']).length? = some 0 := by
  have hfirst : (Matcher.outcome ⟨optionalPair, .between 0 1⟩ ['a', 'b', 'a', 'x', 'b']).length? =
      some 2 := by cbv
  have hsecond : (Matcher.outcome ⟨optionalPair, .atLeast 0⟩ ['a', 'x', 'b']).length? = some 1 := by
    cbv
  obtain ⟨-, hresumed, hmaximal⟩ :=
    Matcher.outcome_upTo_resumed optionalPair ['a', 'b', 'a', 'x', 'b']
  have hsum := hresumed (1 : Nat) ⊤ 2 1 hfirst hsecond
  have hwhole := (add_top ((1 : Nat) : ℕ∞)) ▸ hsum
  exact ⟨⟨hfirst, hsecond, hsum⟩, hwhole, hmaximal (5 : Nat) 3 hwhole⟩

end GreedyMatch

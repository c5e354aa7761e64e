import GreedyMatch.Proofs.Alternatives

set_option autoImplicit false

namespace GreedyMatch

namespace CharTest

def once (test : CharTest) : Matcher := ⟨.char test, .exactly 1⟩

def anyOf (tests : List CharTest) : CharTest := .ofPredicate fun c => tests.any (·.accepts c)

end CharTest

def Attempt.oneOf (tests : List CharTest) : Attempt := .alternation (tests.map CharTest.once)

namespace CharSet

theorem ofItems_items {set : CharSet} (hplain : set.negated = false) : ofItems set.items = set := by
  cases set
  cases hplain
  rfl

theorem accepts_ofItems_flatMap {sets : List CharSet} (hplain : ∀ set ∈ sets, set.negated = false)
    (c : Char) : (ofItems (sets.flatMap items)).accepts c = sets.any (·.accepts c) := by
  induction sets with
  | nil => rfl
  | cons set sets ih =>
    obtain ⟨hset, hsets⟩ := List.forall_mem_cons.mp hplain
    rw [List.flatMap_cons, accepts_ofItems_append, ofItems_items hset, ih hsets, List.any_cons]

end CharSet

theorem charOutcome_congr {first second : CharTest} (h : ∀ c, first.accepts c = second.accepts c) :
    charOutcome first = charOutcome second := by
  funext input
  cases input with
  | nil => rfl
  | cons c rest => rw [charOutcome, charOutcome, h]

section

variable {m : Type → Type} [Monad m] [Reports m]

theorem Attempt.run_char_congr {first second : CharTest}
    (h : ∀ c, first.accepts c = second.accepts c) :
    ((Attempt.char first).run : List Char → m Outcome) = (Attempt.char second).run := by
  rw [Attempt.run, Attempt.run, charOutcome_congr h]

theorem Matcher.run_congr {first second : Attempt}
    (h : (first.run : List Char → m Outcome) = second.run) (quantifier : Quantifier)
    (input : List Char) :
    (Matcher.run ⟨first, quantifier⟩ input : m Outcome) =
      Matcher.run ⟨second, quantifier⟩ input := by
  rw [Matcher.run, Matcher.run, h]

variable [LawfulMonad m]

theorem CharTest.run_once (test : CharTest) (input : List Char) :
    (test.once.run input : m Outcome) = pure (charOutcome test input) := by
  cases input with
  | nil => exact Matcher.run_nil test.once
  | cons c rest => exact repeated_exactly_one _ (List.cons_ne_nil c rest)

theorem firstMatch_once (tests : List CharTest) (input : List Char) :
    firstMatch (tests.map fun test => (test.once.run : List Char → m Outcome)) input =
      pure (charOutcome (.anyOf tests) input) := by
  induction tests with
  | nil => cases input <;> rfl
  | cons test tests ih =>
    rw [List.map_cons, firstMatch_cons_bind, test.run_once, pure_bind, ih]
    cases input with
    | nil => rfl
    | cons c rest =>
      have hcons : (CharTest.anyOf (test :: tests)).accepts c =
          (test.accepts c || (CharTest.anyOf tests).accepts c) := rfl
      rw [charOutcome, charOutcome, charOutcome, hcons]
      by_cases haccepts : test.accepts c = true
      · rw [haccepts, Bool.true_or]
        rfl
      · rw [if_neg haccepts, Bool.eq_false_iff.mpr haccepts, Bool.false_or]
        rfl

theorem Attempt.run_oneOf (tests : List CharTest) :
    ((Attempt.oneOf tests).run : List Char → m Outcome) = (Attempt.char (.anyOf tests)).run := by
  funext input
  rw [Attempt.oneOf, Attempt.run_alternation, List.map_map]
  exact firstMatch_once tests input

theorem Attempt.run_oneOf_sets {sets : List CharSet} (hplain : ∀ set ∈ sets, set.negated = false) :
    ((Attempt.oneOf (sets.map .ofSet)).run : List Char → m Outcome) =
      (Attempt.char (.ofSet (.ofItems (sets.flatMap CharSet.items)))).run := by
  rw [Attempt.run_oneOf]
  refine Attempt.run_char_congr fun c => ?_
  have hunion := CharSet.accepts_ofItems_flatMap hplain c
  simp only [CharTest.anyOf, CharTest.accepts, List.any_map, hunion]
  rfl

end

theorem CharTest.oneOf_eq_pure {m : Type → Type} [Monad m] [Reports m] {tests : List CharTest}
    {quantifier : Quantifier} (hordered : quantifier.Ordered) (htests : tests ≠ []) :
    (∀ test ∈ tests,
      (Matcher.build (.char test) (.exactly 1) : m _) = pure (.ok test.once)) ∧
    (Matcher.alternation (tests.map once) quantifier : m _) =
      pure (.ok ⟨.oneOf tests, quantifier⟩) := by
  have hsingle : (Quantifier.exactly 1).Ordered := Nat.le_refl 1
  exact ⟨fun test _ => Matcher.build_eq_pure hsingle rfl,
    Matcher.alternation_eq_pure hordered (mt List.map_eq_nil_iff.mp htests)⟩

/-- Alternatives that test one character each are one test of that character. Sets that are not
negated are their union. -/
theorem Matcher.oneOf_eq_char (quantifier : Quantifier) (hordered : quantifier.Ordered) :
    (∀ sets : List CharSet, sets ≠ [] → (∀ set ∈ sets, set.negated = false) →
      (∀ set ∈ sets, Matcher.charSet (m := Logged) set (.exactly 1) =
        pure (.ok (CharTest.ofSet set).once)) ∧
      Matcher.alternation (m := Logged) (sets.map fun set => (CharTest.ofSet set).once) quantifier =
        pure (.ok ⟨.oneOf (sets.map .ofSet), quantifier⟩) ∧
      Matcher.charSet (m := Logged) (.ofItems (sets.flatMap CharSet.items)) quantifier =
        pure (.ok ⟨.char (.ofSet (.ofItems (sets.flatMap CharSet.items))), quantifier⟩) ∧
      ∀ input,
        Matcher.outcome ⟨.oneOf (sets.map .ofSet), quantifier⟩ input =
          Matcher.outcome ⟨.char (.ofSet (.ofItems (sets.flatMap CharSet.items))), quantifier⟩
            input ∧
        (Matcher.run ⟨.oneOf (sets.map .ofSet), quantifier⟩ input : Logged Outcome) =
          Matcher.run ⟨.char (.ofSet (.ofItems (sets.flatMap CharSet.items))), quantifier⟩
            input) ∧
    ∀ tests : List CharTest, tests ≠ [] →
      (∀ test ∈ tests, Matcher.build (m := Logged) (.char test) (.exactly 1) =
        pure (.ok test.once)) ∧
      Matcher.alternation (m := Logged) (tests.map CharTest.once) quantifier =
        pure (.ok ⟨.oneOf tests, quantifier⟩) ∧
      Matcher.predicate (m := Logged) (fun c => tests.any (·.accepts c)) quantifier =
        pure (.ok ⟨.char (.anyOf tests), quantifier⟩) ∧
      ∀ input,
        Matcher.outcome ⟨.oneOf tests, quantifier⟩ input =
          Matcher.outcome ⟨.char (.anyOf tests), quantifier⟩ input ∧
        (Matcher.run ⟨.oneOf tests, quantifier⟩ input : Logged Outcome) =
          Matcher.run ⟨.char (.anyOf tests), quantifier⟩ input := by
  constructor
  · intro sets hsets hplain
    have htests : sets.map CharTest.ofSet ≠ [] := mt List.map_eq_nil_iff.mp hsets
    obtain ⟨honce, hbuild⟩ := CharTest.oneOf_eq_pure (m := Logged) hordered htests
    rw [List.map_map] at hbuild
    refine ⟨fun set hmem => honce _ (List.mem_map_of_mem hmem), hbuild,
      Matcher.build_eq_pure hordered rfl, fun input => ⟨?_, ?_⟩⟩
    · exact Matcher.run_congr (m := Id) (Attempt.run_oneOf_sets hplain) quantifier input
    · exact Matcher.run_congr (Attempt.run_oneOf_sets hplain) quantifier input
  · intro tests htests
    obtain ⟨honce, hbuild⟩ := CharTest.oneOf_eq_pure (m := Logged) hordered htests
    refine ⟨honce, hbuild, Matcher.build_eq_pure hordered rfl, fun input => ⟨?_, ?_⟩⟩
    · exact Matcher.run_congr (m := Id) (Attempt.run_oneOf tests) quantifier input
    · exact Matcher.run_congr (Attempt.run_oneOf tests) quantifier input

def overlappingSets : List CharSet :=
  [⟨false, [.range 'a' 'c']⟩, ⟨false, [.range 'b' 'd', .named .digit]⟩]

def noneOrEvenDigit : List CharTest :=
  [.ofSet ⟨true, [.named .digit]⟩, .ofPredicate fun c => c == '0' || c == '2']

theorem overlappingSets_oneOf_eq_char :
    (Quantifier.between 1 4).Ordered ∧ overlappingSets ≠ [] ∧
      (∀ set ∈ overlappingSets, set.negated = false) ∧
      Matcher.outcome ⟨.oneOf (overlappingSets.map .ofSet), .between 1 4⟩
          ['a', 'b', 'd', '1', 'a'] =
        .matched 4 (.group [.leaf "a", .leaf "b", .leaf "d", .leaf "1"]) ∧
      noneOrEvenDigit ≠ [] ∧
      Matcher.outcome ⟨.oneOf noneOrEvenDigit, .between 1 4⟩ ['x', '2', '1'] =
        .matched 2 (.group [.leaf "x", .leaf "2"]) := by
  have hunion : Matcher.outcome ⟨.char (.ofSet (.ofItems (overlappingSets.flatMap CharSet.items))),
      .between 1 4⟩ ['a', 'b', 'd', '1', 'a'] =
        .matched 4 (.group [.leaf "a", .leaf "b", .leaf "d", .leaf "1"]) := by decide +kernel
  have hany : Matcher.outcome ⟨.char (.anyOf noneOrEvenDigit), .between 1 4⟩ ['x', '2', '1'] =
      .matched 2 (.group [.leaf "x", .leaf "2"]) := by decide +kernel
  have hordered : (Quantifier.between 1 4).Ordered := by decide
  have hsets : overlappingSets ≠ [] := List.cons_ne_nil _ _
  have hplain : ∀ set ∈ overlappingSets, set.negated = false := by decide
  have htests : noneOrEvenDigit ≠ [] := List.cons_ne_nil _ _
  obtain ⟨hofSets, hofTests⟩ := Matcher.oneOf_eq_char (.between 1 4) hordered
  exact ⟨hordered, hsets, hplain, ((hofSets _ hsets hplain).2.2.2 _).1.trans hunion, htests,
    ((hofTests _ htests).2.2.2 _).1.trans hany⟩

end GreedyMatch

import Mathlib.Algebra.BigOperators.Group.List.Basic
import Mathlib.Data.ENat.Basic
import GreedyMatch.Proofs.Construction
import GreedyMatch.Proofs.EndingCharacter
import GreedyMatch.Proofs.Extent

set_option autoImplicit false

namespace GreedyMatch

def Quantifier.limit : Quantifier → ℕ∞
  | .between _ max => max
  | .atLeast _ => ⊤

/-- The fewest and the most characters that a match may take, read off the tree alone. -/
structure Widths where
  least : Nat
  greatest : ℕ∞
deriving DecidableEq

namespace Widths

def Allows (widths : Widths) (length : Nat) : Prop :=
  widths.least ≤ length ∧ length ≤ widths.greatest

def sum (parts : List Widths) : Widths :=
  ⟨(parts.map least).sum, (parts.map greatest).sum⟩

def oneOf (parts : List Widths) : Widths :=
  ⟨(parts.minOn? least).elim 0 least, (parts.maxOn? greatest).elim 0 greatest⟩

/-- What takes nothing takes nothing however often it is repeated: zero times infinity is zero. -/
def repeated (quantifier : Quantifier) (widths : Widths) : Widths :=
  ⟨quantifier.minCount * widths.least, quantifier.limit * widths.greatest⟩

end Widths

mutual

def Matcher.widths : Matcher → Widths
  | ⟨attempt, quantifier⟩ => attempt.widths.repeated quantifier

/-- A caller's own attempt may take any number of characters. -/
def Attempt.widths : Attempt → Widths
  | .literal text _ => ⟨text.length, text.length⟩
  | .char _ => ⟨1, 1⟩
  | .sequence children => .sum (widthsOfAll children)
  | .alternation children => .oneOf (widthsOfAll children)
  | .nested inner => inner.widths
  | .custom _ => ⟨0, ⊤⟩

def widthsOfAll : List Matcher → List Widths
  | [] => []
  | child :: children => child.widths :: widthsOfAll children

end

theorem widthsOfAll_eq_map (children : List Matcher) :
    widthsOfAll children = children.map Matcher.widths := by
  induction children with
  | nil => rfl
  | cons child children ih => rw [widthsOfAll, ih, List.map_cons]

namespace Widths

theorem allows_sum_cons {widths : Widths} {parts : List Widths} {length total : Nat}
    (hhead : widths.Allows length) (htail : (sum parts).Allows total) :
    (sum (widths :: parts)).Allows (length + total) := by
  constructor
  · exact Nat.add_le_add hhead.1 htail.1
  · rw [Nat.cast_add]
    exact add_le_add hhead.2 htail.2

theorem sum_replicate (count : Nat) (widths : Widths) :
    sum (List.replicate count widths) = ⟨count * widths.least, count * widths.greatest⟩ := by
  simp only [sum, List.map_replicate, List.sum_replicate, nsmul_eq_mul, Nat.cast_id]

theorem least_oneOf_le {widths : Widths} {parts : List Widths} (hmem : widths ∈ parts) :
    (oneOf parts).least ≤ widths.least := by
  obtain ⟨shortest, hshortest⟩ : ∃ shortest, parts.minOn? least = some shortest :=
    Option.isSome_iff_exists.mp (List.isSome_minOn?_of_mem hmem)
  have hleast := List.apply_get_minOn?_le_of_mem (f := least) hmem
  simpa only [oneOf, hshortest, Option.elim_some, Option.get_some] using hleast

theorem le_greatest_oneOf {widths : Widths} {parts : List Widths} (hmem : widths ∈ parts) :
    widths.greatest ≤ (oneOf parts).greatest := by
  obtain ⟨longest, hlongest⟩ : ∃ longest, parts.maxOn? greatest = some longest :=
    Option.isSome_iff_exists.mp (List.isSome_maxOn?_of_mem hmem)
  have hgreatest := List.le_apply_get_maxOn?_of_mem (f := greatest) hmem
  simpa only [oneOf, hlongest, Option.elim_some, Option.get_some] using hgreatest

theorem allows_oneOf {widths : Widths} {parts : List Widths} {length : Nat}
    (hmem : widths ∈ parts) (h : widths.Allows length) : (oneOf parts).Allows length :=
  ⟨(least_oneOf_le hmem).trans h.1, h.2.trans (le_greatest_oneOf hmem)⟩

theorem allows_repeated {widths : Widths} {quantifier : Quantifier} {count total : Nat}
    (henough : quantifier.minCount ≤ count) (hlimit : (count : ℕ∞) ≤ quantifier.limit)
    (h : (sum (List.replicate count widths)).Allows total) :
    (widths.repeated quantifier).Allows total := by
  rw [sum_replicate] at h
  exact ⟨(Nat.mul_le_mul_right _ henough).trans h.1, h.2.trans (mul_le_mul_left hlimit _)⟩

end Widths

def Takes (widths : Widths) (step : List Char → Outcome) : Prop :=
  ∀ input length capture, step input = .matched length capture → widths.Allows length

theorem InTurn.allows {α : Type} {parts : List α} {step : α → List Char → Outcome}
    {widths : α → Widths} {input : List Char} {total : Nat} {captures : List Capture}
    (h : InTurn (parts.map step) input total captures)
    (hparts : ∀ part ∈ parts, Takes (widths part) (step part)) :
    (Widths.sum (parts.map widths)).Allows total := by
  induction parts generalizing input total captures with
  | nil =>
    cases h
    exact ⟨le_rfl, le_rfl⟩
  | cons part parts ih =>
    cases h with
    | cons hstep hrest =>
      have hhead := hparts part List.mem_cons_self _ _ _ hstep
      exact Widths.allows_sum_cons hhead (ih hrest fun other hmem => hparts other (.tail _ hmem))

theorem Repetition.count_le_limit {quantifier : Quantifier} {attempt : List Char → Outcome}
    {total : Nat} {input : List Char} {captures : List Capture}
    (h : Repetition quantifier attempt 0 input total captures) :
    (captures.length : ℕ∞) ≤ quantifier.limit := by
  cases quantifier with
  | between min max =>
    have hcount := h.count_le rfl (Nat.zero_le max)
    rw [Nat.zero_add] at hcount
    exact Nat.cast_le.mpr hcount
  | atLeast min => exact le_top

theorem Matcher.takes_of_attempt {matcher : Matcher}
    (h : Takes matcher.attempt.widths matcher.attempt.outcome) :
    Takes matcher.widths matcher.outcome := by
  intro input length capture hmatched
  obtain ⟨captures, -, henough, hrepetition⟩ := Matcher.repetition_of_matched hmatched
  obtain ⟨attempt, quantifier⟩ := matcher
  -- The repeats are a sequence of as many copies of the attempt, with the widths of their sum.
  have hturn := hrepetition.inTurn
  rw [← List.map_replicate (f := Attempt.outcome)] at hturn
  have hsum := hturn.allows fun part hmem => List.eq_of_mem_replicate hmem ▸ h
  rw [List.map_replicate] at hsum
  exact Widths.allows_repeated henough hrepetition.count_le_limit hsum

theorem Attempt.WellFormed.takes {Allowed : (List Char → Outcome) → Prop} {attempt : Attempt}
    (h : attempt.WellFormed Allowed) : Takes attempt.widths attempt.outcome := by
  induction h with
  | @literal text htext =>
    intro input length capture h
    obtain ⟨-, rfl, -⟩ := literalOutcome_eq_matched h
    rw [String.length_toList]
    exact ⟨le_rfl, le_rfl⟩
  | char =>
    intro input length capture h
    obtain ⟨c, rest, -, -, rfl, -⟩ := charOutcome_eq_matched h
    exact ⟨le_rfl, Nat.cast_one.le⟩
  | sequence hnonempty hordered hchildren ih =>
    intro input length capture h
    obtain ⟨captures, -, hturn⟩ := Attempt.inTurn_of_matched h
    rw [Attempt.widths, widthsOfAll_eq_map]
    exact hturn.allows fun child hmem => Matcher.takes_of_attempt (ih child hmem)
  | alternation hnonempty hordered hchildren ih =>
    intro input length capture h
    obtain ⟨child, hmem, hmatched⟩ := Attempt.child_of_matched h
    have hallows := Matcher.takes_of_attempt (ih child hmem) input length capture hmatched
    rw [Attempt.widths, widthsOfAll_eq_map]
    exact Widths.allows_oneOf (List.mem_map_of_mem hmem) hallows
  | nested hordered hinner ih =>
    intro input length capture h
    exact Matcher.takes_of_attempt ih input length capture (guarded_eq_matched h).1
  | custom hanswer =>
    exact fun _ length _ _ => ⟨Nat.zero_le length, le_top⟩

/-- Every match keeps to the widths, so an input that is too short has none. -/
theorem Matcher.length_between_widths {Allowed : (List Char → Outcome) → Prop} {matcher : Matcher}
    (hbuilt : matcher.Built Allowed) (input : List Char) :
    (∀ length capture, matcher.outcome input = .matched length capture →
      matcher.widths.least ≤ length ∧ length ≤ matcher.widths.greatest) ∧
      (input.length < matcher.widths.least → matcher.outcome input = .fail) := by
  have htakes := Matcher.takes_of_attempt hbuilt.wellFormed.2.takes
  refine ⟨htakes input, fun hshort => ?_⟩
  cases houtcome : matcher.outcome input with
  | fail => rfl
  | matched length capture =>
    have hleast := (htakes input length capture houtcome).1
    have hfits := matcher.within input length capture houtcome
    omega

def signedWords : Matcher :=
  ⟨.sequence [optionalSigns,
    ⟨.nested ⟨.literal "ab" ['a', 'b'], .between 1 2⟩, .exactly 2⟩], .between 2 3⟩

theorem signedWords_built : signedWords.Built NoAnswer := by
  have hword : Matcher.Built NoAnswer ⟨.literal "ab" ['a', 'b'], .between 1 2⟩ :=
    .literal (Matcher.build_of_ordered (by decide) rfl)
  have hwords : Matcher.Built NoAnswer
      ⟨.nested ⟨.literal "ab" ['a', 'b'], .between 1 2⟩, .exactly 2⟩ :=
    .nested hword (Matcher.build_of_ordered (by decide) rfl)
  exact .sequence (forall_mem_pair optionalSigns_built hwords)
    (Matcher.build_of_ordered (by decide) rfl)

theorem signedWords_length_between_widths :
    signedWords.Built NoAnswer ∧ signedWords.widths = ⟨8, 30⟩ ∧
      signedWords.outcome "--abababab+ababab".toList =
        .matched 17 (.group [
          .group [.leaf "--", .group [.group [.leaf "ab", .leaf "ab"],
            .group [.leaf "ab", .leaf "ab"]]],
          .group [.leaf "+", .group [.group [.leaf "ab", .leaf "ab"], .leaf "ab"]]]) ∧
      (8 ≤ 17 ∧ (17 : Nat) ≤ (30 : ℕ∞)) ∧
      "--ab+ab".toList.length < 8 ∧ signedWords.outcome "--ab+ab".toList = .fail := by
  have hwidths : signedWords.widths = ⟨8, 30⟩ := by decide
  have hmatched : signedWords.outcome "--abababab+ababab".toList =
      .matched 17 (.group [
        .group [.leaf "--", .group [.group [.leaf "ab", .leaf "ab"],
          .group [.leaf "ab", .leaf "ab"]]],
        .group [.leaf "+", .group [.group [.leaf "ab", .leaf "ab"], .leaf "ab"]]]) := by
    decide +kernel
  have hshort : "--ab+ab".toList.length < 8 := by decide
  have hlong := (Matcher.length_between_widths signedWords_built _).1 _ _ hmatched
  have hfail := (Matcher.length_between_widths signedWords_built "--ab+ab".toList).2
  rw [hwidths] at hlong hfail
  exact ⟨signedWords_built, hwidths, hmatched, hlong, hshort, hfail hshort⟩

end GreedyMatch

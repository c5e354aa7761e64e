import Mathlib.Data.List.TakeWhile
import Mathlib.Order.Bounds.Basic
import GreedyMatch.Proofs.SingleChild

set_option autoImplicit false

namespace GreedyMatch

def Quantifier.most (quantifier : Quantifier) (available : Nat) : Nat :=
  match quantifier.maxCount? with
  | some max => min available max
  | none => available

/-- The captures of the pieces that the attempt takes one after the other until it takes no more. -/
inductive Pieces (width : Nat) (attempt : List Char → Outcome) : List Char → List Capture → Prop
  | ended {input} (hend : input = [] ∨ attempt input = .fail) : Pieces width attempt input []
  | piece {input capture captures} (hinput : input ≠ [])
      (hstep : attempt input = .matched width capture)
      (hrest : Pieces width attempt (input.drop width) captures) :
      Pieces width attempt input (capture :: captures)

namespace Quantifier

@[simp] theorem most_between (least greatest available : Nat) :
    (between least greatest).most available = min available greatest := rfl

@[simp] theorem most_atLeast (least available : Nat) :
    (atLeast least).most available = available := rfl

variable (quantifier : Quantifier) {available recorded : Nat}

theorem most_le (available : Nat) : quantifier.most available ≤ available := by
  cases quantifier <;> simp

theorem allowsAnother_of_lt_most (h : recorded < quantifier.most available) :
    quantifier.allowsAnother recorded = true := by
  cases quantifier with
  | between least greatest =>
    rw [most_between] at h
    simp only [allowsAnother, maxCount?, decide_eq_true_eq]
    omega
  | atLeast least => rfl

theorem allowsAnother_most (h : quantifier.most available ≠ available) :
    quantifier.allowsAnother (quantifier.most available) = false := by
  cases quantifier with
  | between least greatest =>
    rw [most_between] at h ⊢
    simp only [allowsAnother, maxCount?, decide_eq_false_iff_not]
    omega
  | atLeast least => exact absurd rfl h

end Quantifier

namespace Pieces

variable {width : Nat} {attempt : List Char → Outcome} {input : List Char}
  {captures : List Capture} {quantifier : Quantifier}

/-- The loop takes `count` pieces if so many are there and allowed, and no other may follow them. -/
theorem repetition (h : Pieces width attempt input captures) (hwidth : 0 < width)
    {recorded count : Nat} (hcount : count ≤ captures.length)
    (hmore : ∀ further < count, quantifier.allowsAnother (recorded + further) = true)
    (hlast : count ≠ captures.length → quantifier.allowsAnother (recorded + count) = false) :
    Repetition quantifier attempt recorded input (count * width) (captures.take count) := by
  induction h generalizing recorded count with
  | ended hend =>
    obtain rfl : count = 0 := Nat.le_zero.mp hcount
    rw [Nat.zero_mul]
    rcases hend with rfl | hfail
    · exact .exhausted
    · exact .failed hfail
  | @piece input capture captures hinput hstep hrest ih =>
    cases count with
    | zero =>
      rw [Nat.zero_mul]
      exact .enough (hlast (by simp))
    | succ count =>
      rw [List.length_cons] at hcount hlast
      have hlater : Repetition quantifier attempt (recorded + 1) (input.drop width)
          (count * width) (captures.take count) := by
        refine ih (by omega) (fun further hfurther => ?_) fun hcut => ?_
        · rw [Nat.add_assoc, Nat.add_comm 1]
          exact hmore (further + 1) (by omega)
        · rw [Nat.add_assoc, Nat.add_comm 1]
          exact hlast (by omega)
      obtain ⟨shorter, rfl⟩ := Nat.exists_eq_succ_of_ne_zero (Nat.ne_of_gt hwidth)
      have htaken := hlater.taken hinput (hmore 0 (Nat.succ_pos count)) hstep
      rwa [Nat.succ_mul, Nat.add_comm]

theorem outcome_eq {attempt : Attempt} (h : Pieces width attempt.outcome input captures)
    (hwidth : 0 < width) (quantifier : Quantifier) :
    Matcher.outcome ⟨attempt, quantifier⟩ input =
      if quantifier.most captures.length < quantifier.minCount then .fail
      else .matched (quantifier.most captures.length * width)
        (.ofRepeats (captures.take (quantifier.most captures.length))) := by
  have hle := quantifier.most_le captures.length
  have hrepetition : Repetition quantifier attempt.outcome 0 input
      (quantifier.most captures.length * width)
      (captures.take (quantifier.most captures.length)) := by
    refine h.repetition hwidth hle (fun further hfurther => ?_) fun hcut => ?_
    · rw [Nat.zero_add]
      exact quantifier.allowsAnother_of_lt_most hfurther
    · rw [Nat.zero_add]
      exact quantifier.allowsAnother_most hcut
  have hlength : (captures.take (quantifier.most captures.length)).length =
      quantifier.most captures.length := List.length_take_of_le hle
  rw [Matcher.outcome_eq_ofRepeats hrepetition]
  split
  · exact Outcome.ofRepeats_of_lt (by omega) _
  · exact Outcome.ofRepeats_of_le (by omega) _

end Pieces

theorem isGreatest_takeWhile (accepts : Char → Bool) (input : List Char) :
    IsGreatest {count | count ≤ input.length ∧ ∀ c ∈ input.take count, accepts c = true}
      (input.takeWhile accepts).length := by
  have htake : input.take (input.takeWhile accepts).length = input.takeWhile accepts :=
    (List.prefix_iff_eq_take.mp (List.takeWhile_prefix accepts)).symm
  constructor
  · refine ⟨(List.takeWhile_prefix accepts).length_le, ?_⟩
    rw [htake]
    exact fun c => List.mem_takeWhile_imp
  · rintro count ⟨hcount, haccepted⟩
    have hsplit : (input.take count ++ input.drop count).takeWhile accepts =
        input.take count ++ (input.drop count).takeWhile accepts :=
      List.takeWhile_append_of_pos haccepted
    rw [List.take_append_drop] at hsplit
    rw [hsplit, List.length_append, List.length_take_of_le hcount]
    exact Nat.le_add_right _ _

theorem pieces_char (test : CharTest) (input : List Char) :
    Pieces 1 (Attempt.char test).outcome input
      ((input.takeWhile test.accepts).map Capture.ofChar) := by
  induction input with
  | nil => exact .ended (.inl rfl)
  | cons c rest ih =>
    by_cases haccepts : test.accepts c = true
    · rw [List.takeWhile_cons_of_pos haccepts]
      exact .piece (List.cons_ne_nil c rest) (if_pos haccepts) ih
    · rw [List.takeWhile_cons_of_neg haccepts]
      exact .ended (.inr (if_neg haccepts))

theorem Matcher.exists_outcome_char (test : CharTest) (quantifier : Quantifier)
    (input : List Char) :
    ∃ accepted,
      IsGreatest {count | count ≤ input.length ∧ ∀ c ∈ input.take count, test.accepts c = true}
        accepted ∧
      Matcher.outcome ⟨.char test, quantifier⟩ input =
        if quantifier.most accepted < quantifier.minCount then .fail
        else .matched (quantifier.most accepted)
          (.ofRepeats ((input.take (quantifier.most accepted)).map Capture.ofChar)) := by
  have hle := quantifier.most_le (input.takeWhile test.accepts).length
  have htake := List.prefix_iff_eq_take.mp <|
    (List.take_prefix (quantifier.most (input.takeWhile test.accepts).length) _).trans
      (List.takeWhile_prefix test.accepts (l := input))
  rw [List.length_take_of_le hle] at htake
  have hrun := (pieces_char test input).outcome_eq Nat.one_pos quantifier
  rw [List.length_map, Nat.mul_one, ← List.map_take, htake] at hrun
  exact ⟨_, isGreatest_takeWhile test.accepts input, hrun⟩

section

variable {text : String} (htext : text.toList ≠ [])

include htext

theorem exists_pieces_literal (input : List Char) :
    ∃ copies, Pieces text.toList.length (Attempt.literal text text.toList).outcome input
      (List.replicate copies (.leaf text)) := by
  have hpos := List.length_pos_iff.mpr htext
  -- Every piece takes the length of the text, so the induction is on the length of the input.
  induction hsize : input.length using Nat.strongRecOn generalizing input with
  | ind size ih =>
    subst hsize
    by_cases hinput : input = []
    · exact ⟨0, .ended (.inl hinput)⟩
    cases hstep : (Attempt.literal text text.toList).outcome input with
    | fail => exact ⟨0, .ended (.inr hstep)⟩
    | matched length capture =>
      obtain ⟨hstarts, rfl, rfl⟩ := literalOutcome_eq_matched hstep
      have hshorter : (input.drop text.toList.length).length < input.length := by
        have hfits := hstarts.length_le
        rw [List.length_drop]
        omega
      obtain ⟨copies, hrest⟩ := ih _ hshorter _ rfl
      exact ⟨copies + 1, .piece hinput hstep hrest⟩

theorem Pieces.copies_isPrefix_iff {input : List Char} {captures : List Capture}
    (h : Pieces text.toList.length (Attempt.literal text text.toList).outcome input captures)
    {copies : Nat} :
    (List.replicate copies text.toList).flatten <+: input ↔ copies ≤ captures.length := by
  induction h generalizing copies with
  | @ended input hend =>
    cases copies with
    | zero => simp
    | succ copies =>
      have hnone : ¬ text.toList <+: input := by
        intro hstarts
        rcases hend with rfl | hfail
        · exact htext (List.prefix_nil.mp hstarts)
        · have hmatched : (Attempt.literal text text.toList).outcome input = .matched _ _ :=
            if_pos (List.isPrefixOf_iff_prefix.mpr hstarts)
          rw [hmatched] at hfail
          cases hfail
      rw [List.replicate_succ, List.flatten_cons]
      exact ⟨fun hstarts => absurd ((List.prefix_append _ _).trans hstarts) hnone, by simp⟩
  | @piece input capture captures hinput hstep hrest ih =>
    cases copies with
    | zero => simp
    | succ copies =>
      obtain ⟨⟨rest, rfl⟩, -, -⟩ := literalOutcome_eq_matched hstep
      rw [List.drop_left] at ih
      rw [List.replicate_succ, List.flatten_cons, List.prefix_append_right_inj, ih,
        List.length_cons, Nat.succ_le_succ_iff]

theorem Matcher.exists_outcome_literal (quantifier : Quantifier) (input : List Char) :
    ∃ copies,
      IsGreatest {copies | (List.replicate copies text.toList).flatten <+: input} copies ∧
      Matcher.outcome ⟨.literal text text.toList, quantifier⟩ input =
        if quantifier.most copies < quantifier.minCount then .fail
        else .matched (quantifier.most copies * text.length)
          (.ofRepeats (List.replicate (quantifier.most copies) (.leaf text))) := by
  obtain ⟨copies, hpieces⟩ := exists_pieces_literal htext input
  have hcopies {count : Nat} :
      (List.replicate count text.toList).flatten <+: input ↔ count ≤ copies := by
    rw [hpieces.copies_isPrefix_iff htext, List.length_replicate]
  have hrun := hpieces.outcome_eq (List.length_pos_iff.mpr htext) quantifier
  rw [List.length_replicate, List.take_replicate, Nat.min_eq_left (quantifier.most_le copies),
    String.length_toList] at hrun
  exact ⟨copies, ⟨hcopies.mpr (Nat.le_refl copies), fun count => hcopies.mp⟩, hrun⟩

end

/-- All that stands at the start of the input is taken, piece by piece and up to the maximum; where
that is too little there is no match. -/
theorem Matcher.outcome_leaf_runs (quantifier : Quantifier) (hordered : quantifier.Ordered) :
    (∀ test : CharTest,
      Matcher.build (m := Logged) (.char test) quantifier = pure (.ok ⟨.char test, quantifier⟩) ∧
        ∀ input : List Char, ∃ accepted,
          IsGreatest
            {count | count ≤ input.length ∧ ∀ c ∈ input.take count, test.accepts c = true}
            accepted ∧
          Matcher.outcome ⟨.char test, quantifier⟩ input =
            if quantifier.most accepted < quantifier.minCount then .fail
            else .matched (quantifier.most accepted)
              (.ofRepeats ((input.take (quantifier.most accepted)).map Capture.ofChar))) ∧
      ∀ text : String, text ≠ "" →
        Matcher.literal (m := Logged) text quantifier =
            pure (.ok ⟨.literal text text.toList, quantifier⟩) ∧
          ∀ input : List Char, ∃ copies,
            IsGreatest {copies | (List.replicate copies text.toList).flatten <+: input} copies ∧
            Matcher.outcome ⟨.literal text text.toList, quantifier⟩ input =
              if quantifier.most copies < quantifier.minCount then .fail
              else .matched (quantifier.most copies * text.length)
                (.ofRepeats (List.replicate (quantifier.most copies) (.leaf text))) := by
  constructor
  · intro test
    exact ⟨Matcher.build_eq_pure hordered rfl, Matcher.exists_outcome_char test quantifier⟩
  · intro text htext
    have hchars : text.toList ≠ [] := mt String.toList_eq_nil_iff.mp htext
    exact ⟨Matcher.build_eq_pure hordered (if_neg htext),
      Matcher.exists_outcome_literal hchars quantifier⟩

/-- Three digits stand there and two are taken. The second copy of the text would have to begin
inside the first. -/
theorem Matcher.outcome_digits_and_overlapping_copies :
    (Quantifier.between 1 2).Ordered ∧ "aba" ≠ "" ∧
      Matcher.outcome ⟨.char (.ofSet ⟨false, [.named .digit]⟩), .between 1 2⟩
          ['1', '2', '3', 'x'] =
        .matched 2 (.group [.leaf "1", .leaf "2"]) ∧
      Matcher.outcome ⟨.literal "aba" "aba".toList, .between 1 2⟩ ['a', 'b', 'a', 'b', 'a'] =
        .matched 3 (.leaf "aba") := by
  have hordered : (Quantifier.between 1 2).Ordered := by decide
  have htext : "aba" ≠ "" := by decide
  obtain ⟨hchar, hliteral⟩ := Matcher.outcome_leaf_runs (.between 1 2) hordered
  obtain ⟨accepted, hdigits, hcapped⟩ :=
    (hchar (.ofSet ⟨false, [.named .digit]⟩)).2 ['1', '2', '3', 'x']
  obtain ⟨copies, hcopies, houtcome⟩ := (hliteral "aba" htext).2 ['a', 'b', 'a', 'b', 'a']
  have hthree : ∀ c ∈ ['1', '2', '3', 'x'].take 3,
      CharTest.accepts (.ofSet ⟨false, [.named .digit]⟩) c = true :=
    List.all_eq_true.mp (by decide)
  have hone : (List.replicate 1 "aba".toList).flatten <+: ['a', 'b', 'a', 'b', 'a'] := by decide
  obtain rfl : accepted = 3 := by
    refine hdigits.unique ⟨⟨by decide, hthree⟩, fun count ⟨hcount, haccepted⟩ => ?_⟩
    by_contra hmore
    obtain rfl : count = 4 := Nat.le_antisymm hcount (Nat.lt_of_not_le hmore)
    exact absurd (haccepted 'x' (by decide)) (by decide)
  obtain rfl : copies = 1 := by
    refine hcopies.unique ⟨hone, fun count hcount => ?_⟩
    have hlength : count * 3 ≤ 5 := by simpa using hcount.length_le
    omega
  exact ⟨hordered, htext, hcapped, houtcome⟩

end GreedyMatch

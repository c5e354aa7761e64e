import GreedyMatch.Proofs.Construction
import GreedyMatch.Proofs.Extent

/-!
# Characters that end a match

A character that no literal holds and no test accepts is as good as the end of the input. A
repetition stops at the end without an attempt, and at such a character because its attempt fails.
The two come to the same if no attempt can match without taking a character. A sequence of optional
children can, and so it matches at such a character but not at the end.
-/

set_option autoImplicit false

namespace GreedyMatch

/-- Each sequence in the tree has a child that has to match, and each child of an alternation and
each nested matcher has to. -/
inductive Attempt.Demanding : Attempt → Prop
  | literal {text chars} : Demanding (.literal text chars)
  | char {test} : Demanding (.char test)
  | sequence {children : List Matcher}
      (hsome : ∃ child ∈ children, 1 ≤ child.quantifier.minCount)
      (hchildren : ∀ child ∈ children, Demanding child.attempt) : Demanding (.sequence children)
  | alternation {children : List Matcher}
      (hall : ∀ child ∈ children, 1 ≤ child.quantifier.minCount)
      (hchildren : ∀ child ∈ children, Demanding child.attempt) : Demanding (.alternation children)
  | nested {inner : Matcher} (hmin : 1 ≤ inner.quantifier.minCount)
      (hinner : Demanding inner.attempt) : Demanding (.nested inner)

inductive Attempt.Excludes (c : Char) : Attempt → Prop
  | literal {text chars} (hfree : c ∉ text.toList) : Excludes c (.literal text chars)
  | char {test : CharTest} (hrefused : test.accepts c = false) : Excludes c (.char test)
  | sequence {children : List Matcher} (hchildren : ∀ child ∈ children, Excludes c child.attempt) :
      Excludes c (.sequence children)
  | alternation {children : List Matcher}
      (hchildren : ∀ child ∈ children, Excludes c child.attempt) :
      Excludes c (.alternation children)
  | nested {inner : Matcher} (hinner : Excludes c inner.attempt) : Excludes c (.nested inner)

def Progress (step : List Char → Outcome) : Prop :=
  ∀ input length capture, step input = .matched length capture → 0 < length

theorem Progress.fail_nil {step : List Char → Outcome} (hprogress : Progress step)
    (hwithin : Within step) : step [] = .fail := by
  cases hstep : step [] with
  | fail => rfl
  | matched length capture =>
    have hpos := hprogress [] length capture hstep
    have hle : length ≤ 0 := hwithin [] length capture hstep
    omega

theorem InTurn.total_pos {steps : List (List Char → Outcome)} {input : List Char} {total : Nat}
    {captures : List Capture} (h : InTurn steps input total captures)
    {step : List Char → Outcome} (hmem : step ∈ steps) (hprogress : Progress step) :
    0 < total := by
  induction h with
  | nil => cases hmem
  | @cons head steps input length capture total captures hstep hrest ih =>
    rcases List.mem_cons.mp hmem with rfl | hmem
    · have hpos := hprogress input length capture hstep
      omega
    · have hpos := ih hmem
      omega

theorem Matcher.progress_of_attempt {matcher : Matcher}
    (h : Progress matcher.attempt.outcome) (hmin : 1 ≤ matcher.quantifier.minCount) :
    Progress matcher.outcome := by
  intro input length capture hmatched
  obtain ⟨captures, -, henough, hrepetition⟩ := Matcher.repetition_of_matched hmatched
  have hrun : matcher.attempt.outcome ∈ List.replicate captures.length matcher.attempt.outcome :=
    List.mem_replicate.mpr ⟨by omega, rfl⟩
  exact hrepetition.inTurn.total_pos hrun h

theorem Attempt.Demanding.progress {attempt : Attempt} (hdemanding : attempt.Demanding)
    (hformed : attempt.WellFormed NoAnswer) : Progress attempt.outcome := by
  induction hdemanding with
  | literal =>
    intro input length capture h
    obtain ⟨-, rfl, -⟩ := literalOutcome_eq_matched h
    cases hformed with
    | @literal text htext => exact List.length_pos_iff.mpr (by simpa using htext)
  | char =>
    intro input length capture h
    obtain ⟨c, rest, -, -, rfl, -⟩ := charOutcome_eq_matched h
    exact Nat.one_pos
  | sequence hsome hdemanding ih =>
    intro input length capture h
    obtain ⟨child, hmem, hmin⟩ := hsome
    obtain ⟨captures, -, hturn⟩ := Attempt.inTurn_of_matched h
    cases hformed with
    | sequence hnonempty hordered hchildren =>
      have hprogress := Matcher.progress_of_attempt (ih child hmem (hchildren child hmem)) hmin
      exact hturn.total_pos (List.mem_map_of_mem hmem) hprogress
  | alternation hall hdemanding ih =>
    intro input length capture h
    obtain ⟨child, hmem, hmatched⟩ := Attempt.child_of_matched h
    cases hformed with
    | alternation hnonempty hordered hchildren =>
      have hprogress :=
        Matcher.progress_of_attempt (ih child hmem (hchildren child hmem)) (hall child hmem)
      exact hprogress input length capture hmatched
  | nested hmin hdemanding ih =>
    intro input length capture h
    cases hformed with
    | nested hordered hinner =>
      have hprogress := Matcher.progress_of_attempt (ih hinner) hmin
      exact hprogress input length capture (guarded_eq_matched h).1

/-- The character and what stands behind it make no difference. -/
def StopsAt (c : Char) (step : List Char → Outcome) : Prop :=
  ∀ input rest, step (input ++ c :: rest) = step input

section

variable {c : Char}

theorem isPrefixOf_append_cons {chars : List Char} (hfree : c ∉ chars) (input rest : List Char) :
    chars.isPrefixOf (input ++ c :: rest) = chars.isPrefixOf input := by
  induction chars generalizing input with
  | nil => rfl
  | cons d chars ih =>
    have hne : d ≠ c := fun h => hfree (h ▸ List.mem_cons_self)
    cases input with
    | nil =>
      rw [List.nil_append, List.isPrefixOf_cons_cons, beq_false_of_ne hne, Bool.false_and,
        List.isPrefixOf_cons_nil]
    | cons e input =>
      rw [List.cons_append, List.isPrefixOf_cons_cons, List.isPrefixOf_cons_cons,
        ih fun h => hfree (.tail _ h)]

theorem literalOutcome_stopsAt {text : String} {chars : List Char} (hfree : c ∉ chars) :
    StopsAt c (literalOutcome text chars) := by
  intro input rest
  rw [literalOutcome, literalOutcome, isPrefixOf_append_cons hfree]

theorem charOutcome_stopsAt {test : CharTest} (hrefused : test.accepts c = false) :
    StopsAt c (charOutcome test) := by
  intro input rest
  cases input with
  | nil => simp [charOutcome, hrefused]
  | cons d input => rfl

theorem Repetition.append_cons {quantifier : Quantifier} {step : List Char → Outcome}
    (hprogress : Progress step) (hwithin : Within step) (hstops : StopsAt c step)
    {recorded total : Nat} {input : List Char} {captures : List Capture}
    (h : Repetition quantifier step recorded input total captures) (rest : List Char) :
    Repetition quantifier step recorded (input ++ c :: rest) total captures := by
  induction h with
  | exhausted =>
    -- The attempt that the end has spared fails at the character as it would have at the end.
    exact .failed ((hstops [] rest).trans (hprogress.fail_nil hwithin))
  | enough hfull => exact .enough hfull
  | @failed recorded input hstep => exact .failed ((hstops input rest).trans hstep)
  | @filled recorded input capture hinput hmore hstep =>
    exact absurd (hprogress input 0 capture hstep) (Nat.lt_irrefl 0)
  | @taken recorded input length capture total captures hinput hmore hstep hrest ih =>
    have hle := hwithin input (length + 1) capture hstep
    rw [← List.drop_append_of_le_length hle] at ih
    exact .taken (by simp) hmore ((hstops input rest).trans hstep) ih

theorem Matcher.stopsAt_of_attempt {matcher : Matcher} (hprogress : Progress matcher.attempt.outcome)
    (hstops : StopsAt c matcher.attempt.outcome) : StopsAt c matcher.outcome := by
  intro input rest
  obtain ⟨attempt, quantifier⟩ := matcher
  have hrepetition := repetition_repeats quantifier attempt.outcome 0 input
  rw [Matcher.outcome_eq_ofRepeats hrepetition, Matcher.outcome_eq_ofRepeats
    (hrepetition.append_cons hprogress attempt.within hstops rest)]

theorem stopsAt_children {children : List Matcher}
    (hdemanding : ∀ child ∈ children, child.attempt.Demanding)
    (hformed : ∀ child ∈ children, child.attempt.WellFormed NoAnswer)
    (hstops : ∀ child ∈ children, child.attempt.Demanding → child.attempt.WellFormed NoAnswer →
      StopsAt c child.attempt.outcome) :
    ∀ step ∈ children.map Matcher.outcome, StopsAt c step := by
  intro step hmem
  obtain ⟨child, hchild, rfl⟩ := List.mem_map.mp hmem
  have hone := hdemanding child hchild
  have hown := hformed child hchild
  exact Matcher.stopsAt_of_attempt (hone.progress hown) (hstops child hchild hone hown)

theorem slots_stopsAt {steps : List (List Char → Outcome)}
    (hwithin : ∀ step ∈ steps, Within step) (hstops : ∀ step ∈ steps, StopsAt c step)
    (input rest : List Char) :
    slots (m := Id) steps (input ++ c :: rest) = slots (m := Id) steps input := by
  induction steps generalizing input with
  | nil => rfl
  | cons step steps ih =>
    have hlater := ih (fun other hmem => hwithin other (.tail _ hmem))
      fun other hmem => hstops other (.tail _ hmem)
    rw [slots_cons, slots_cons, hstops step List.mem_cons_self]
    cases hstep : step input with
    | fail => rfl
    | matched length capture =>
      have hle := hwithin step List.mem_cons_self input length capture hstep
      simp only [List.drop_append_of_le_length hle, hlater]

theorem firstMatch_stopsAt {steps : List (List Char → Outcome)}
    (hstops : ∀ step ∈ steps, StopsAt c step) : StopsAt c (firstMatch (m := Id) steps) := by
  intro input rest
  induction steps with
  | nil => rfl
  | cons step steps ih =>
    rw [firstMatch_cons, firstMatch_cons, hstops step List.mem_cons_self,
      ih fun other hmem => hstops other (.tail _ hmem)]

theorem guarded_stopsAt {step : List Char → Outcome} (hwithin : Within step)
    (hstops : StopsAt c step) : StopsAt c (guarded (m := Id) step) := by
  intro input rest
  rw [guarded_of_within hwithin, guarded_of_within hwithin, hstops]

theorem Attempt.Excludes.stopsAt {attempt : Attempt} (hexcludes : attempt.Excludes c)
    (hdemanding : attempt.Demanding) (hformed : attempt.WellFormed NoAnswer) :
    StopsAt c attempt.outcome := by
  induction hexcludes with
  | literal hfree =>
    cases hformed with
    | literal htext => exact literalOutcome_stopsAt hfree
  | char hrefused => exact charOutcome_stopsAt hrefused
  | @sequence children hexcludes ih =>
    cases hdemanding with
    | sequence hsome hdemanding =>
    cases hformed with
    | sequence hnonempty hordered hformed =>
      have hstops := stopsAt_children hdemanding hformed ih
      have hwithin : ∀ step ∈ children.map Matcher.outcome, Within step := by
        intro step hmem
        obtain ⟨child, hchild, rfl⟩ := List.mem_map.mp hmem
        exact child.within
      intro input rest
      rw [Attempt.outcome_sequence, Attempt.outcome_sequence, slots_stopsAt hwithin hstops]
  | @alternation children hexcludes ih =>
    cases hdemanding with
    | alternation hall hdemanding =>
    cases hformed with
    | alternation hnonempty hordered hformed =>
      have hstops := stopsAt_children hdemanding hformed ih
      intro input rest
      rw [Attempt.outcome_alternation, Attempt.outcome_alternation, firstMatch_stopsAt hstops]
  | @nested inner hexcludes ih =>
    cases hdemanding with
    | nested hmin hdemanding =>
    cases hformed with
    | nested hordered hformed =>
      have hstops := Matcher.stopsAt_of_attempt (hdemanding.progress hformed)
        (ih hdemanding hformed)
      exact guarded_stopsAt inner.within hstops

end

/-- What stands before the character is all that counts. -/
theorem Matcher.outcome_append_excluded {matcher : Matcher} {c : Char}
    (hbuilt : matcher.Built NoAnswer) (hdemanding : matcher.attempt.Demanding)
    (hexcludes : matcher.attempt.Excludes c) (before after : List Char) :
    matcher.outcome (before ++ [c] ++ after) = matcher.outcome before := by
  have hformed := hbuilt.wellFormed.2
  have hstops := Matcher.stopsAt_of_attempt (hdemanding.progress hformed)
    (hexcludes.stopsAt hdemanding hformed)
  rw [List.append_assoc, List.singleton_append]
  exact hstops before after

theorem forall_mem_pair {α : Type} {P : α → Prop} {first second : α} (hfirst : P first)
    (hsecond : P second) : ∀ a ∈ [first, second], P a :=
  List.forall_mem_cons.mpr ⟨hfirst, List.forall_mem_singleton.mpr hsecond⟩

def optionalSigns : Matcher :=
  ⟨.alternation [⟨.literal "--" ['-', '-'], .exactly 1⟩,
    ⟨.char (.ofPredicate fun c => c == '+' || c == '-'), .exactly 1⟩], .optional⟩

theorem optionalSigns_built : optionalSigns.Built NoAnswer := by
  have hminus : Matcher.Built NoAnswer ⟨.literal "--" ['-', '-'], .exactly 1⟩ :=
    .literal (Matcher.build_of_ordered (by decide) rfl)
  have hsign : Matcher.Built NoAnswer
      ⟨.char (.ofPredicate fun c => c == '+' || c == '-'), .exactly 1⟩ :=
    .predicate (Matcher.build_of_ordered (by decide) rfl)
  exact .alternation (forall_mem_pair hminus hsign) (Matcher.build_of_ordered (by decide) rfl)

/-- A sequence of nothing but optional children matches at a character that it excludes, though not
at the end. -/
example : Matcher.outcome ⟨.sequence [optionalSigns], .exactly 1⟩ ['#'] =
      .matched 0 (.group [.empty]) ∧
    Matcher.outcome ⟨.sequence [optionalSigns], .exactly 1⟩ [] = .fail := by decide +kernel

def signedNumbers : Matcher :=
  ⟨.sequence [optionalSigns, ⟨.char (.ofSet ⟨false, [.named .digit]⟩), .oneOrMore⟩], .atLeast 2⟩

theorem signedNumbers_built : signedNumbers.Built NoAnswer := by
  have hdigits : Matcher.Built NoAnswer
      ⟨.char (.ofSet ⟨false, [.named .digit]⟩), .oneOrMore⟩ :=
    .charSet (Matcher.build_of_ordered trivial rfl)
  exact .sequence (forall_mem_pair optionalSigns_built hdigits)
    (Matcher.build_of_ordered trivial rfl)

theorem signedNumbers_demanding : signedNumbers.attempt.Demanding := by
  have hsigns : optionalSigns.attempt.Demanding :=
    .alternation (by decide) (forall_mem_pair .literal .char)
  exact .sequence ⟨_, .tail _ List.mem_cons_self, by decide⟩ (forall_mem_pair hsigns .char)

theorem signedNumbers_excludes : signedNumbers.attempt.Excludes '#' := by
  have hsigns : optionalSigns.attempt.Excludes '#' :=
    .alternation (forall_mem_pair (.literal (by decide)) (.char (by decide)))
  exact .sequence (forall_mem_pair hsigns (.char (by decide)))

theorem signedNumbers_outcome_append_excluded :
    signedNumbers.Built NoAnswer ∧ signedNumbers.attempt.Demanding ∧
      signedNumbers.attempt.Excludes '#' ∧
      signedNumbers.outcome (['-', '-', '1', '2', '+', '3', '-'] ++ ['#'] ++ ['-', '4']) =
        .matched 6 (.group [.group [.leaf "--", .group [.leaf "1", .leaf "2"]],
          .group [.leaf "+", .leaf "3"]]) := by
  have hbefore : signedNumbers.outcome ['-', '-', '1', '2', '+', '3', '-'] =
      .matched 6 (.group [.group [.leaf "--", .group [.leaf "1", .leaf "2"]],
        .group [.leaf "+", .leaf "3"]]) := by decide +kernel
  exact ⟨signedNumbers_built, signedNumbers_demanding, signedNumbers_excludes,
    (Matcher.outcome_append_excluded signedNumbers_built signedNumbers_demanding
      signedNumbers_excludes _ _).trans hbefore⟩

end GreedyMatch

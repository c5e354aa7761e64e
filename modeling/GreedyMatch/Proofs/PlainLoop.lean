import GreedyMatch.Proofs.Attempts

/-!
# Repetition without a shortcut

The plain way to repeat an attempt: run it again and again from where the last repeat has ended,
repeats of no characters included. No repeat is ever recorded without a run of its own. Matchers
that repeat in this way, at every node of the tree, have the same outcomes.
-/

set_option autoImplicit false

namespace GreedyMatch

/-- Without a maximum, repeats of no characters go on only until there are enough. -/
def Quantifier.stopsAfter (quantifier : Quantifier) (length count : Nat) : Bool :=
  match quantifier with
  | .between _ _ => false
  | .atLeast min => length == 0 && min ≤ count

/-- The offset at the end and all captures, where `captures` are recorded up to `offset`. -/
def plainRepeats (quantifier : Quantifier) (attempt : List Char → Outcome) (input : List Char)
    (offset : Nat) (captures : List Capture) : Nat × List Capture :=
  if offset < input.length ∧ quantifier.allowsAnother captures.length = true then
    match attempt (input.drop offset) with
    | .fail => (offset, captures)
    | .matched length capture =>
      if quantifier.stopsAfter length (captures.length + 1) = true then
        (offset + length, captures ++ [capture])
      else plainRepeats quantifier attempt input (offset + length) (captures ++ [capture])
  else (offset, captures)
termination_by (input.length - offset, quantifier.fillCount 0 - captures.length)
decreasing_by
  rename_i hgoes hstop
  rw [List.length_append, List.length_singleton]
  -- A repeat of no characters leaves the offset, but brings the captures closer to their number.
  by_cases hzero : length = 0
  · subst hzero
    apply Prod.Lex.right
    cases quantifier with
    | between min max =>
      simp only [Quantifier.allowsAnother, Quantifier.maxCount?, decide_eq_true_eq] at hgoes
      change max - (captures.length + 1) < max - captures.length
      omega
    | atLeast min =>
      simp only [Quantifier.stopsAfter, beq_self_eq_true, Bool.true_and, decide_eq_true_eq] at hstop
      change max min 1 - (captures.length + 1) < max min 1 - captures.length
      omega
  · apply Prod.Lex.left
    omega

def plainRepeated (quantifier : Quantifier) (attempt : List Char → Outcome) (input : List Char) :
    Outcome :=
  let (total, captures) := plainRepeats quantifier attempt input 0 []
  .ofRepeats quantifier total captures

mutual

def Matcher.plain : Matcher → List Char → Outcome
  | ⟨attempt, quantifier⟩ => plainRepeated quantifier attempt.plain

def Attempt.plain : Attempt → List Char → Outcome
  | .literal text chars => literalOutcome text chars
  | .char test => charOutcome test
  | .sequence children => inOrder (m := Id) (plainAll children)
  | .alternation children => firstMatch (m := Id) (plainAll children)
  | .nested inner => guarded (m := Id) inner.plain
  | .custom answer => guarded (m := Id) answer

def plainAll : List Matcher → List (List Char → Outcome)
  | [] => []
  | child :: children => child.plain :: plainAll children

end

def attempts (attempt : List Char → Outcome) (input : List Char) :
    Nat → Nat → List Capture → Nat × List Capture
  | 0, offset, captures => (offset, captures)
  | count + 1, offset, captures =>
    if offset < input.length then
      match attempt (input.drop offset) with
      | .fail => (offset, captures)
      | .matched length capture =>
        attempts attempt input count (offset + length) (captures ++ [capture])
    else (offset, captures)

theorem fillCount_last (quantifier : Quantifier) (count : Nat)
    (hmore : quantifier.allowsAnother count = true)
    (hlast : quantifier.stopsAfter 0 (count + 1) = true ∨
      quantifier.allowsAnother (count + 1) = false) : quantifier.fillCount count = count + 1 := by
  cases quantifier with
  | between min max =>
    simp only [Quantifier.allowsAnother, Quantifier.maxCount?, Quantifier.stopsAfter,
      decide_eq_true_eq, decide_eq_false_iff_not, Bool.false_eq_true, false_or] at hmore hlast
    change max = count + 1
    omega
  | atLeast min =>
    simp only [Quantifier.allowsAnother, Quantifier.maxCount?, Quantifier.stopsAfter,
      beq_self_eq_true, Bool.true_and, decide_eq_true_eq, Bool.true_eq_false, or_false] at hlast
    change max min (count + 1) = count + 1
    omega

theorem fillCount_not_last (quantifier : Quantifier) (count : Nat)
    (h : ¬ quantifier.stopsAfter 0 (count + 1) = true) :
    quantifier.fillCount (count + 1) = quantifier.fillCount count := by
  cases quantifier with
  | between min max => rfl
  | atLeast min =>
    simp only [Quantifier.stopsAfter, beq_self_eq_true, Bool.true_and, decide_eq_true_eq] at h
    change max min (count + 1 + 1) = max min (count + 1)
    omega

section

variable {quantifier : Quantifier} {attempt : List Char → Outcome} {input : List Char}
  {offset : Nat} {captures : List Capture}

theorem plainRepeats_stopped
    (h : ¬ (offset < input.length ∧ quantifier.allowsAnother captures.length = true)) :
    plainRepeats quantifier attempt input offset captures = (offset, captures) := by
  rw [plainRepeats, if_neg h]

theorem plainRepeats_failed (h : attempt (input.drop offset) = .fail) :
    plainRepeats quantifier attempt input offset captures = (offset, captures) := by
  rw [plainRepeats]
  split
  · rw [h]
  · rfl

theorem plainRepeats_matched {length : Nat} {capture : Capture} (hinput : offset < input.length)
    (hmore : quantifier.allowsAnother captures.length = true)
    (hstep : attempt (input.drop offset) = .matched length capture) :
    plainRepeats quantifier attempt input offset captures =
      if quantifier.stopsAfter length (captures.length + 1) = true then
        (offset + length, captures ++ [capture])
      else plainRepeats quantifier attempt input (offset + length) (captures ++ [capture]) := by
  rw [plainRepeats, if_pos ⟨hinput, hmore⟩, hstep]

/-- A repeat of no characters comes again until as many are recorded as would be at once. -/
theorem plainRepeats_filled {capture : Capture} (hinput : offset < input.length)
    (hmore : quantifier.allowsAnother captures.length = true)
    (hstep : attempt (input.drop offset) = .matched 0 capture) :
    plainRepeats quantifier attempt input offset captures =
      (offset, captures ++
        List.replicate (quantifier.fillCount captures.length - captures.length) capture) := by
  have hlength : (captures ++ [capture]).length = captures.length + 1 := List.length_append
  have hgrows := lt_fillCount quantifier captures.length hmore
  -- On the number of repeats still to be recorded; the input does not get shorter.
  induction hcount : quantifier.fillCount captures.length - captures.length
    generalizing captures with
  | zero => omega
  | succ count ih =>
    rw [plainRepeats_matched hinput hmore hstep, Nat.add_zero offset]
    by_cases hstop : quantifier.stopsAfter 0 (captures.length + 1) = true
    · have hlast := fillCount_last quantifier captures.length hmore (.inl hstop)
      obtain rfl : count = 0 := by omega
      rw [if_pos hstop, List.replicate_one]
    · rw [if_neg hstop]
      by_cases hagain : quantifier.allowsAnother (captures.length + 1) = true
      · have hsame := fillCount_not_last quantifier captures.length hstop
        have hgrows' := lt_fillCount quantifier (captures.length + 1) hagain
        rw [← hlength] at hagain hsame hgrows'
        rw [ih hagain List.length_append hgrows' (by omega), List.append_assoc,
          List.singleton_append, ← List.replicate_succ]
      · have hlast := fillCount_last quantifier captures.length hmore
          (.inr (Bool.not_eq_true _ ▸ hagain))
        obtain rfl : count = 0 := by omega
        rw [plainRepeats_stopped (by rw [hlength]; exact fun h => hagain h.2), List.replicate_one]

theorem plainRepeats_of_repetition {recorded : Nat} {rest : List Char} {total : Nat}
    {more : List Capture} (h : Repetition quantifier attempt recorded rest total more)
    (hrest : rest = input.drop offset) (hrecorded : recorded = captures.length) :
    plainRepeats quantifier attempt input offset captures =
      (offset + total, captures ++ more) := by
  induction h generalizing offset captures with
  | exhausted =>
    have hend : input.length ≤ offset := List.drop_eq_nil_iff.mp hrest.symm
    rw [plainRepeats_stopped (by omega), List.append_nil, Nat.add_zero]
  | enough hfull =>
    subst hrecorded
    rw [plainRepeats_stopped (by simp [hfull]), List.append_nil, Nat.add_zero]
  | failed hstep =>
    subst hrest
    rw [plainRepeats_failed hstep, List.append_nil, Nat.add_zero]
  | filled hinput hmore hstep =>
    subst hrest hrecorded
    have hlt : offset < input.length := by simpa using hinput
    rw [plainRepeats_filled hlt hmore hstep, Nat.add_zero]
  | @taken recorded rest length capture total more hinput hmore hstep hrepeats ih =>
    subst hrest hrecorded
    have hlt : offset < input.length := by simpa using hinput
    have hgoes : ¬ quantifier.stopsAfter (length + 1) (captures.length + 1) = true := by
      cases quantifier <;> simp [Quantifier.stopsAfter]
    have hlength : captures.length + 1 = (captures ++ [capture]).length := by simp
    rw [plainRepeats_matched hlt hmore hstep, if_neg hgoes, ih List.drop_drop hlength,
      List.append_assoc, Nat.add_assoc]
    rfl

end

theorem plainRepeats_between (attempt : List Char → Outcome) (input : List Char)
    (min max count offset : Nat) (captures : List Capture)
    (hcount : captures.length + count = max) :
    plainRepeats (.between min max) attempt input offset captures =
      attempts attempt input count offset captures := by
  induction count generalizing offset captures with
  | zero =>
    have hfull : (Quantifier.between min max).allowsAnother captures.length = false := by
      simp [Quantifier.allowsAnother, Quantifier.maxCount?, ← hcount]
    rw [attempts, plainRepeats_stopped (by simp [hfull])]
  | succ count ih =>
    have hmore : (Quantifier.between min max).allowsAnother captures.length = true := by
      simp [Quantifier.allowsAnother, Quantifier.maxCount?, ← hcount]
    rw [attempts]
    by_cases hinput : offset < input.length
    · rw [if_pos hinput]
      cases hstep : attempt (input.drop offset) with
      | fail => exact plainRepeats_failed hstep
      | matched length capture =>
        have hrest : (captures ++ [capture]).length + count = max := by
          rw [List.length_append, List.length_singleton]
          omega
        rw [plainRepeats_matched hinput hmore hstep]
        exact ih (offset + length) (captures ++ [capture]) hrest
    · rw [if_neg hinput, plainRepeats_stopped fun h => hinput h.1]

theorem plainRepeated_eq (quantifier : Quantifier) (attempt : Attempt) :
    plainRepeated quantifier attempt.outcome = Matcher.outcome ⟨attempt, quantifier⟩ := by
  funext input
  have hrepetition := repetition_repeats quantifier attempt.outcome 0 input
  rw [Matcher.outcome_eq_ofRepeats hrepetition, plainRepeated,
    plainRepeats_of_repetition hrepetition List.drop_zero.symm rfl, Nat.zero_add]
  rfl

theorem Matcher.plain_eq_of_attempt {matcher : Matcher}
    (h : matcher.attempt.plain = matcher.attempt.outcome) : matcher.plain = matcher.outcome := by
  cases matcher with
  | mk attempt quantifier =>
    rw [Matcher.plain, h]
    exact plainRepeated_eq quantifier attempt

theorem plainAll_eq (children : List Matcher)
    (h : ∀ child ∈ children, child.attempt.plain = child.attempt.outcome) :
    plainAll children = children.map Matcher.outcome := by
  induction children with
  | nil => rfl
  | cons child children ih =>
    have hchild := Matcher.plain_eq_of_attempt (h child List.mem_cons_self)
    have hrest := ih fun other hmem => h other (.tail _ hmem)
    rw [plainAll, hchild, hrest, List.map_cons]

theorem Attempt.plain_eq (attempt : Attempt) : attempt.plain = attempt.outcome := by
  induction attempt with
  | literal text chars => rfl
  | char test => rfl
  | sequence children ih =>
    funext input
    rw [Attempt.plain, plainAll_eq children ih, Attempt.outcome_sequence]
    rfl
  | alternation children ih =>
    funext input
    rw [Attempt.plain, plainAll_eq children ih, Attempt.outcome_alternation]
  | nested inner ih =>
    rw [Attempt.plain, Matcher.plain_eq_of_attempt ih]
    rfl
  | custom answer => rfl

/-- The shortcut shows in no outcome, and up to a maximum there is nothing but one attempt after
another. -/
theorem Matcher.outcome_eq_plain :
    (∀ matcher : Matcher, matcher.outcome = matcher.plain) ∧
      ∀ (attempt : Attempt) (min max : Nat) (input : List Char),
        Matcher.outcome ⟨attempt, .between min max⟩ input =
          let found := attempts attempt.plain input max 0 []
          .ofRepeats (.between min max) found.1 found.2 := by
  constructor
  · intro matcher
    exact (Matcher.plain_eq_of_attempt matcher.attempt.plain_eq).symm
  · intro attempt min max input
    have hloop := plainRepeats_between attempt.plain input min max max 0 [] (Nat.zero_add max)
    rw [← plainRepeated_eq, ← attempt.plain_eq, plainRepeated, hloop]

end GreedyMatch

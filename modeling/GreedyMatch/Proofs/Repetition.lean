import GreedyMatch.Matcher.Run

/-!
# How repetitions go

The loops of a run without a log, as relations: a repetition attempt by attempt (`Repetition`), and
steps that follow one another (`InTurn`). Whatever its quantifier, a repetition is also a run in
turn of as many copies of its attempt as repeats are recorded, those recorded at once included
(`Repetition.inTurn`). An attempt is run only where some input is left, and what it answers
elsewhere does not count (`repeats_congr`).
-/

set_option autoImplicit false

namespace GreedyMatch

theorem lt_fillCount (quantifier : Quantifier) (recorded : Nat)
    (h : quantifier.allowsAnother recorded = true) : recorded < quantifier.fillCount recorded := by
  cases quantifier with
  | between min max =>
    simp only [Quantifier.allowsAnother, Quantifier.maxCount?, decide_eq_true_eq] at h
    exact h
  | atLeast min =>
    change recorded < max min (recorded + 1)
    omega

section

variable {m : Type → Type} [Monad m] {first second : List Char → m Outcome}

theorem repeats_congr (h : ∀ input, input ≠ [] → first input = second input)
    (quantifier : Quantifier) (recorded : Nat) (input : List Char) :
    repeats quantifier first recorded input = repeats quantifier second recorded input := by
  induction recorded, input using repeats.induct quantifier with
  | case1 recorded => rw [repeats, repeats]
  | case2 recorded c rest hmore ih =>
    rw [repeats, repeats, if_pos hmore, if_pos hmore, h (c :: rest) (List.cons_ne_nil c rest)]
    simp only [ih]
  | case3 recorded c rest hmore => rw [repeats, repeats, if_neg hmore, if_neg hmore]

theorem repeated_congr (h : ∀ input, input ≠ [] → first input = second input)
    (quantifier : Quantifier) (input : List Char) :
    repeated quantifier first input = repeated quantifier second input := by
  rw [repeated, repeated, repeats_congr h]

end

theorem repeats_nil (quantifier : Quantifier) (attempt : List Char → Outcome) (recorded : Nat) :
    repeats (m := Id) quantifier attempt recorded [] = (0, []) := by
  rw [repeats]
  rfl

theorem repeats_cons (quantifier : Quantifier) (attempt : List Char → Outcome) (recorded : Nat)
    (c : Char) (rest : List Char) :
    repeats (m := Id) quantifier attempt recorded (c :: rest) =
      if quantifier.allowsAnother recorded then
        match attempt (c :: rest) with
        | .fail => (0, [])
        | .matched 0 capture =>
          (0, List.replicate (quantifier.fillCount recorded - recorded) capture)
        | .matched (length + 1) capture =>
          let found := repeats (m := Id) quantifier attempt (recorded + 1) (rest.drop length)
          (length + 1 + found.1, capture :: found.2)
      else (0, []) := by
  rw [repeats]
  rfl

/-- How the repeats that follow `recorded` others come about, and what they take altogether. -/
inductive Repetition (quantifier : Quantifier) (attempt : List Char → Outcome) :
    Nat → List Char → Nat → List Capture → Prop
  | exhausted {recorded} : Repetition quantifier attempt recorded [] 0 []
  | enough {recorded input} (hfull : quantifier.allowsAnother recorded = false) :
      Repetition quantifier attempt recorded input 0 []
  | failed {recorded input} (hstep : attempt input = .fail) :
      Repetition quantifier attempt recorded input 0 []
  | filled {recorded input capture} (hinput : input ≠ [])
      (hmore : quantifier.allowsAnother recorded = true)
      (hstep : attempt input = .matched 0 capture) :
      Repetition quantifier attempt recorded input 0
        (List.replicate (quantifier.fillCount recorded - recorded) capture)
  | taken {recorded input length capture total captures} (hinput : input ≠ [])
      (hmore : quantifier.allowsAnother recorded = true)
      (hstep : attempt input = .matched (length + 1) capture)
      (hrest : Repetition quantifier attempt (recorded + 1) (input.drop (length + 1)) total
        captures) :
      Repetition quantifier attempt recorded input (length + 1 + total) (capture :: captures)

theorem repetition_repeats (quantifier : Quantifier) (attempt : List Char → Outcome)
    (recorded : Nat) (input : List Char) :
    Repetition quantifier attempt recorded input
      (repeats (m := Id) quantifier attempt recorded input).1
      (repeats (m := Id) quantifier attempt recorded input).2 := by
  induction recorded, input using repeats.induct quantifier with
  | case1 recorded =>
    rw [repeats_nil]
    exact .exhausted
  | case2 recorded c rest hmore ih =>
    rw [repeats_cons, if_pos hmore]
    cases hstep : attempt (c :: rest) with
    | fail => exact .failed hstep
    | matched length capture =>
      cases length with
      | zero => exact .filled (List.cons_ne_nil c rest) hmore hstep
      | succ length => exact .taken (List.cons_ne_nil c rest) hmore hstep (ih length)
  | case3 recorded c rest hmore =>
    rw [repeats_cons, if_neg hmore]
    exact .enough (by simpa using hmore)

theorem Repetition.eq_repeats {quantifier : Quantifier} {attempt : List Char → Outcome}
    {recorded total : Nat} {input : List Char} {captures : List Capture}
    (h : Repetition quantifier attempt recorded input total captures) :
    repeats (m := Id) quantifier attempt recorded input = (total, captures) := by
  induction h with
  | exhausted => exact repeats_nil _ _ _
  | @enough recorded input hfull =>
    cases input with
    | nil => exact repeats_nil _ _ _
    | cons c rest => rw [repeats_cons, if_neg (by simp [hfull])]
  | @failed recorded input hstep =>
    cases input with
    | nil => exact repeats_nil _ _ _
    | cons c rest => rw [repeats_cons, hstep, ite_self]
  | @filled recorded input capture hinput hmore hstep =>
    obtain ⟨c, rest, rfl⟩ := List.exists_cons_of_ne_nil hinput
    rw [repeats_cons, if_pos hmore, hstep]
  | @taken recorded input length capture total captures hinput hmore hstep hrest ih =>
    obtain ⟨c, rest, rfl⟩ := List.exists_cons_of_ne_nil hinput
    rw [List.drop_succ_cons] at ih
    rw [repeats_cons, if_pos hmore, hstep]
    simp only [ih]

theorem Repetition.count_le {quantifier : Quantifier} {attempt : List Char → Outcome}
    {recorded total limit : Nat} {input : List Char} {captures : List Capture}
    (h : Repetition quantifier attempt recorded input total captures)
    (hmax : quantifier.maxCount? = some limit) (hrecorded : recorded ≤ limit) :
    recorded + captures.length ≤ limit := by
  induction h with
  | exhausted | enough | failed => exact hrecorded
  | @filled recorded input capture hinput hmore hstep =>
    have hgrows := lt_fillCount quantifier recorded hmore
    -- The repeats recorded at once end exactly at the maximum.
    have hfill : quantifier.fillCount recorded = limit := by
      cases quantifier with
      | between min max => exact Option.some.inj hmax
      | atLeast min => cases hmax
    rw [List.length_replicate]
    omega
  | @taken recorded input length capture total captures hinput hmore hstep hrest ih =>
    have hlt : recorded < limit := by
      simpa only [Quantifier.allowsAnother, hmax, decide_eq_true_eq] using hmore
    have hcount := ih hlt
    rw [List.length_cons]
    omega

/-- Every step matches where the one before it has ended. -/
inductive InTurn : List (List Char → Outcome) → List Char → Nat → List Capture → Prop
  | nil {input} : InTurn [] input 0 []
  | cons {step steps input length capture total captures}
      (hstep : step input = .matched length capture)
      (hrest : InTurn steps (input.drop length) total captures) :
      InTurn (step :: steps) input (length + total) (capture :: captures)

theorem slots_cons (step : List Char → Outcome) (steps : List (List Char → Outcome))
    (input : List Char) :
    slots (m := Id) (step :: steps) input =
      match step input with
      | .fail => none
      | .matched length capture =>
        withSlot length capture (slots (m := Id) steps (input.drop length)) := by
  rw [slots]
  rfl

theorem inTurn_of_slots (steps : List (List Char → Outcome)) (input : List Char) (total : Nat)
    (captures : List Capture) (h : slots (m := Id) steps input = some (total, captures)) :
    InTurn steps input total captures := by
  induction steps generalizing input total captures with
  | nil =>
    cases h
    exact .nil
  | cons step steps ih =>
    rw [slots_cons] at h
    cases hstep : step input with
    | fail =>
      rw [hstep] at h
      cases h
    | matched length capture =>
      rw [hstep] at h
      cases hrest : slots (m := Id) steps (input.drop length) with
      | none =>
        simp only [hrest, withSlot] at h
        cases h
      | some found =>
        simp only [hrest, withSlot] at h
        cases h
        exact .cons hstep (ih (input.drop length) found.1 found.2 hrest)

theorem InTurn.replicate_zero {attempt : List Char → Outcome} {input : List Char}
    {capture : Capture} (hstep : attempt input = .matched 0 capture) (count : Nat) :
    InTurn (List.replicate count attempt) input 0 (List.replicate count capture) := by
  induction count with
  | zero => exact .nil
  | succ count ih =>
    have hcons : InTurn (attempt :: List.replicate count attempt) input (0 + 0)
        (capture :: List.replicate count capture) := .cons hstep ih
    exact hcons

theorem Repetition.inTurn {quantifier : Quantifier} {attempt : List Char → Outcome}
    {recorded total : Nat} {input : List Char} {captures : List Capture}
    (h : Repetition quantifier attempt recorded input total captures) :
    InTurn (List.replicate captures.length attempt) input total captures := by
  induction h with
  | exhausted | enough | failed => exact .nil
  | filled hinput hmore hstep =>
    rw [List.length_replicate]
    exact InTurn.replicate_zero hstep _
  | taken hinput hmore hstep hrest ih => exact .cons hstep ih

theorem InTurn.exists_matched {steps : List (List Char → Outcome)} {input : List Char}
    {total : Nat} {captures : List Capture} (h : InTurn steps input total captures) :
    ∀ capture ∈ captures, ∃ step ∈ steps, ∃ rest length, step rest = .matched length capture := by
  induction h with
  | nil => exact fun _ h => nomatch h
  | @cons step steps input length capture total captures hstep hrest ih =>
    intro other hmem
    rcases List.mem_cons.mp hmem with rfl | hmem
    · exact ⟨step, List.mem_cons_self, input, length, hstep⟩
    · obtain ⟨later, hlater, hmatched⟩ := ih other hmem
      exact ⟨later, .tail _ hlater, hmatched⟩

end GreedyMatch

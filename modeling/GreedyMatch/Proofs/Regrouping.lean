import GreedyMatch.Matcher.Search
import GreedyMatch.Proofs.SingleChild

/-!
# Regrouped sequences

Children in a row can be split into two rows, each a sequence of its own. Lengths and slots stay the
same, only grouped, as long as the first row leaves some input: a row of its own fails where no
input is left, while children without a minimum match there.
-/

set_option autoImplicit false

namespace GreedyMatch

def Matcher.row (children : List Matcher) : Matcher := ⟨.sequence children, .exactly 1⟩

theorem InTurn.length_eq {steps : List (List Char → Outcome)} {input : List Char} {total : Nat}
    {captures : List Capture} (h : InTurn steps input total captures) :
    captures.length = steps.length := by
  induction h with
  | nil => rfl
  | cons hstep hrest ih => rw [List.length_cons, List.length_cons, ih]

theorem length_of_slots {children : List Matcher} {input : List Char} {total : Nat}
    {captures : List Capture}
    (h : slots (m := Id) (children.map Matcher.outcome) input = some (total, captures)) :
    captures.length = children.length := by
  have hturn := inTurn_of_slots (children.map Matcher.outcome) input total captures h
  rw [hturn.length_eq, List.length_map]

theorem slots_append (first second : List (List Char → Outcome)) (input : List Char) :
    slots (m := Id) (first ++ second) input =
      Option.bind (slots (m := Id) first input) fun found =>
        Option.map (fun later => (found.1 + later.1, found.2 ++ later.2))
          (slots (m := Id) second (input.drop found.1)) := by
  induction first generalizing input with
  | nil =>
    have hnone : slots (m := Id) ([] : List (List Char → Outcome)) input = some (0, []) := rfl
    rw [hnone, Option.bind_some, List.nil_append]
    simp only [Nat.zero_add, List.nil_append, List.drop_zero, Option.map_id_fun']
    rfl
  | cons step first ih =>
    rw [List.cons_append, slots_cons, slots_cons]
    cases step input with
    | fail => rfl
    | matched length capture =>
      simp only [ih]
      cases slots (m := Id) first (input.drop length) with
      | none => rfl
      | some found =>
        simp only [withSlot, Option.bind_some, List.drop_drop]
        cases slots (m := Id) second (input.drop (length + found.1)) with
        | none => rfl
        | some later => simp only [Option.map_some, Nat.add_assoc, List.cons_append]

theorem withSlot_eq_none {length : Nat} {capture : Capture} {found? : Option (Nat × List Capture)} :
    withSlot length capture found? = none ↔ found? = none := by
  cases found? <;> simp [withSlot]

/-- At the end of the input only children without a minimum match. -/
theorem slots_nil_eq_none_iff (children : List Matcher) :
    slots (m := Id) (children.map Matcher.outcome) [] = none ↔
      ∃ child ∈ children, child.quantifier.minCount ≠ 0 := by
  induction children with
  | nil => simp [slots]
  | cons child children ih =>
    rw [List.map_cons, slots_cons, Matcher.outcome_nil]
    by_cases hmin : child.quantifier.minCount = 0
    · rw [if_pos hmin]
      refine withSlot_eq_none.trans (ih.trans ?_)
      simp [hmin]
    · simp [hmin]

section

variable {children first second : List Matcher} {input : List Char}

theorem Matcher.outcome_row_nil (children : List Matcher) :
    (Matcher.row children).outcome [] = .fail :=
  Matcher.outcome_exactly_one_nil _

theorem Matcher.outcome_row (children : List Matcher) (hinput : input ≠ []) :
    (Matcher.row children).outcome input =
      .ofSlots (slots (m := Id) (children.map Matcher.outcome) input) := by
  rw [Matcher.row, Matcher.outcome_exactly_one _ hinput, Attempt.outcome_sequence]

theorem Matcher.slots_of_row_matched {length : Nat} {capture : Capture}
    (h : (Matcher.row children).outcome input = .matched length capture) :
    input ≠ [] ∧ ∃ captures, capture = .group captures ∧
      slots (m := Id) (children.map Matcher.outcome) input = some (length, captures) := by
  have hmin : 1 ≤ (Matcher.row children).quantifier.minCount := Nat.le_refl 1
  have hinput : input ≠ [] := Matcher.ne_nil_of_matched hmin h
  rw [Matcher.row, Matcher.outcome_exactly_one _ hinput] at h
  exact ⟨hinput, Attempt.slots_of_matched h⟩

theorem Matcher.drop_ne_nil_of_part {matcher : Matcher} {length : Nat} {capture : Capture}
    (h : matcher.outcome input = .matched length capture)
    (hpart : (matcher.outcome input).length? ≠ some input.length) : input.drop length ≠ [] := by
  intro hend
  have hwhole := List.drop_eq_nil_iff.mp hend
  have hle := matcher.within input length capture h
  obtain rfl : length = input.length := by omega
  exact hpart (Outcome.length?_eq_some.mpr ⟨capture, h⟩)

theorem Matcher.outcome_row_append (hinput : input ≠ []) {length : Nat} {captures : List Capture}
    (hfirst : slots (m := Id) (first.map Matcher.outcome) input = some (length, captures)) :
    (Matcher.row (first ++ second)).outcome input =
      .ofSlots (Option.map (fun later => (length + later.1, captures ++ later.2))
        (slots (m := Id) (second.map Matcher.outcome) (input.drop length))) := by
  rw [Matcher.outcome_row _ hinput, List.map_append, slots_append, hfirst, Option.bind_some]

theorem Matcher.outcome_row_pair {former latter : Matcher} (hinput : input ≠ []) {length : Nat}
    {capture : Capture} (hformer : former.outcome input = .matched length capture) :
    (Matcher.row [former, latter]).outcome input =
      match latter.outcome (input.drop length) with
      | .fail => .fail
      | .matched more last => .matched (length + more) (.group [capture, last]) := by
  rw [Matcher.outcome_row _ hinput, List.map_cons, List.map_singleton, slots_cons, hformer]
  simp only [slots_cons]
  cases latter.outcome (input.drop length) with
  | fail => rfl
  | matched more last => rfl

/-- Behind a row that has taken all, the other one has no place. -/
theorem Matcher.outcome_row_pair_of_whole
    (h : ((Matcher.row first).outcome input).length? = some input.length) :
    (Matcher.row [.row first, .row second]).outcome input = .fail := by
  obtain ⟨capture, hmatched⟩ := Outcome.length?_eq_some.mp h
  obtain ⟨hinput, -⟩ := Matcher.slots_of_row_matched hmatched
  rw [Matcher.outcome_row_pair hinput hmatched, List.drop_length, Matcher.outcome_row_nil]

theorem Matcher.outcome_row_append_of_whole
    (h : ((Matcher.row first).outcome input).length? = some input.length) :
    (Matcher.row (first ++ second)).outcome input = .fail ↔
      ∃ child ∈ second, child.quantifier.minCount ≠ 0 := by
  obtain ⟨capture, hmatched⟩ := Outcome.length?_eq_some.mp h
  obtain ⟨hinput, captures, -, hfirst⟩ := Matcher.slots_of_row_matched hmatched
  rw [Matcher.outcome_row_append hinput hfirst, List.drop_length, ← slots_nil_eq_none_iff]
  cases slots (m := Id) (second.map Matcher.outcome) [] with
  | none => exact ⟨fun _ => rfl, fun _ => rfl⟩
  | some later => exact ⟨nofun, nofun⟩

theorem Matcher.outcome_row_regrouped
    (h : ((Matcher.row first).outcome input).length? ≠ some input.length) :
    ((Matcher.row [.row first, .row second]).outcome input = .fail ∧
        (Matcher.row (first ++ second)).outcome input = .fail) ∨
      ∃ length captures others, captures.length = first.length ∧ others.length = second.length ∧
        (Matcher.row [.row first, .row second]).outcome input =
          .matched length (.group [.group captures, .group others]) ∧
        (Matcher.row (first ++ second)).outcome input =
          .matched length (.group (captures ++ others)) := by
  by_cases hinput : input = []
  · subst hinput
    exact .inl ⟨Matcher.outcome_row_nil _, Matcher.outcome_row_nil _⟩
  have hrow := Matcher.outcome_row first hinput
  cases hfirst : slots (m := Id) (first.map Matcher.outcome) input with
  | none =>
    rw [hfirst] at hrow
    rw [Matcher.outcome_row _ hinput, Matcher.outcome_row _ hinput, List.map_append, slots_append,
      hfirst, List.map_cons, slots_cons, hrow]
    exact .inl ⟨rfl, rfl⟩
  | some found =>
    rw [hfirst] at hrow
    rw [Matcher.outcome_row_pair hinput hrow,
      Matcher.outcome_row _ (Matcher.drop_ne_nil_of_part hrow h),
      Matcher.outcome_row_append hinput hfirst]
    cases hsecond : slots (m := Id) (second.map Matcher.outcome) (input.drop found.1) with
    | none => exact .inl ⟨rfl, rfl⟩
    | some later =>
      exact .inr ⟨found.1 + later.1, found.2, later.2, length_of_slots hfirst,
        length_of_slots hsecond, rfl, rfl⟩

theorem Matcher.outcome_row_append_alone_iff :
    (Matcher.row (first ++ second)).outcome input ≠ .fail ∧
        (Matcher.row [.row first, .row second]).outcome input = .fail ↔
      ((Matcher.row first).outcome input).length? = some input.length ∧
        ∀ child ∈ second, child.quantifier.minCount = 0 := by
  by_cases hwhole : ((Matcher.row first).outcome input).length? = some input.length
  · have hpair : (Matcher.row [.row first, .row second]).outcome input = .fail :=
      Matcher.outcome_row_pair_of_whole hwhole
    rw [ne_eq, Matcher.outcome_row_append_of_whole hwhole]
    simp [hpair, hwhole]
  · refine ⟨fun ⟨hrow, hpair⟩ => ?_, fun h => absurd h.1 hwhole⟩
    rcases Matcher.outcome_row_regrouped hwhole with ⟨-, hfail⟩ | ⟨_, _, _, -, -, hmatched, -⟩
    · exact absurd hfail hrow
    · rw [hpair] at hmatched
      cases hmatched

end

/-- One row behind another is the row of all their children with its slots grouped, unless the first
has taken all there is. Then the two fail, and the one row still matches if no child of the second
has a minimum. -/
theorem Matcher.sequence_regrouped (first second : List Matcher) (hfirst : first ≠ [])
    (hsecond : second ≠ []) :
    Matcher.sequence (m := Logged) first (.exactly 1) = pure (.ok (.row first)) ∧
      Matcher.sequence (m := Logged) second (.exactly 1) = pure (.ok (.row second)) ∧
      Matcher.sequence (m := Logged) [.row first, .row second] (.exactly 1) =
        pure (.ok (.row [.row first, .row second])) ∧
      Matcher.sequence (m := Logged) (first ++ second) (.exactly 1) =
        pure (.ok (.row (first ++ second))) ∧
      ∀ input,
        (((Matcher.row first).outcome input).length? = some input.length →
          (Matcher.row [.row first, .row second]).outcome input = .fail) ∧
        (((Matcher.row first).outcome input).length? ≠ some input.length →
          ((Matcher.row [.row first, .row second]).outcome input = .fail ∧
              (Matcher.row (first ++ second)).outcome input = .fail) ∨
            ∃ length captures others,
              captures.length = first.length ∧ others.length = second.length ∧
              (Matcher.row [.row first, .row second]).outcome input =
                .matched length (.group [.group captures, .group others]) ∧
              (Matcher.row (first ++ second)).outcome input =
                .matched length (.group (captures ++ others))) ∧
        ((Matcher.row (first ++ second)).outcome input ≠ .fail ∧
            (Matcher.row [.row first, .row second]).outcome input = .fail ↔
          ((Matcher.row first).outcome input).length? = some input.length ∧
            ∀ child ∈ second, child.quantifier.minCount = 0) := by
  have hsingle : (Quantifier.exactly 1).Ordered := Nat.le_refl 1
  refine ⟨Matcher.sequence_eq_pure hsingle hfirst, Matcher.sequence_eq_pure hsingle hsecond,
    Matcher.sequence_eq_pure hsingle (List.cons_ne_nil _ _),
    Matcher.sequence_eq_pure hsingle (List.append_ne_nil_of_left_ne_nil hfirst second),
    fun input => ?_⟩
  exact ⟨Matcher.outcome_row_pair_of_whole, Matcher.outcome_row_regrouped,
    Matcher.outcome_row_append_alone_iff⟩

def manyAs : Matcher := ⟨.literal "a" ['a'], .oneOrMore⟩

def optionalTail : List Matcher :=
  [⟨.literal "b" ['b'], .optional⟩, ⟨.literal "c" ['c'], .zeroOrMore⟩]

/-- With a `c` left the tail can stand in a row of its own; without it there is no place for one. -/
theorem optionalTail_sequence_regrouped :
    [manyAs] ≠ [] ∧ optionalTail ≠ [] ∧
      (((Matcher.row [manyAs]).outcome ['a', 'a']).length? = some 2 ∧
        (Matcher.row [.row [manyAs], .row optionalTail]).outcome ['a', 'a'] = .fail ∧
        (Matcher.row ([manyAs] ++ optionalTail)).outcome ['a', 'a'] ≠ .fail) ∧
      ((Matcher.row [manyAs]).outcome ['a', 'a', 'c']).length? ≠ some 3 ∧
        (Matcher.row [.row [manyAs], .row optionalTail]).outcome ['a', 'a', 'c'] =
          .matched 3 (.group [.group [.group [.leaf "a", .leaf "a"]],
            .group [.empty, .leaf "c"]]) := by
  have hwhole : ((Matcher.row [manyAs]).outcome ['a', 'a']).length? = some 2 := by cbv
  have hpart : ((Matcher.row [manyAs]).outcome ['a', 'a', 'c']).length? ≠ some 3 := by
    decide +kernel
  have hflat : (Matcher.row ([manyAs] ++ optionalTail)).outcome ['a', 'a', 'c'] =
      .matched 3 (.group ([.group [.leaf "a", .leaf "a"]] ++ [.empty, .leaf "c"])) := by cbv
  have hfirst : [manyAs] ≠ [] := List.cons_ne_nil _ _
  have hsecond : optionalTail ≠ [] := List.cons_ne_nil _ _
  obtain ⟨-, -, -, -, hsame⟩ := Matcher.sequence_regrouped [manyAs] optionalTail hfirst hsecond
  obtain ⟨hlost, -, halone⟩ := hsame ['a', 'a']
  obtain ⟨-, hgrouped, -⟩ := hsame ['a', 'a', 'c']
  have hmatches := (halone.mpr ⟨hwhole, by decide⟩).1
  refine ⟨hfirst, hsecond, ⟨hwhole, hlost hwhole, hmatches⟩, hpart, ?_⟩
  rcases hgrouped hpart with ⟨-, hfail⟩ | ⟨length, captures, others, hcaptures, -, hpair, hrow⟩
  · rw [hflat] at hfail
    cases hfail
  · -- The slots of the one row tell those of the two apart by their number.
    obtain ⟨rfl, hslots⟩ := Outcome.matched.inj (hflat.symm.trans hrow)
    obtain ⟨rfl, rfl⟩ := List.append_inj (Capture.group.inj hslots) hcaptures.symm
    exact hpair

end GreedyMatch

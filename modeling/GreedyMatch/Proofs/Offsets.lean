import GreedyMatch.Matcher.Search
import GreedyMatch.Proofs.Extent

/-!
# Offsets stay inside the input

Runs that keep an offset into the input, cut slices at it and add lengths to it in sixty-four bits.
A slice past the end, a sum past the end and a sum that needs more bits are faults and end the run.
No run ever ends so, and its outcome is the one without offsets.
-/

set_option autoImplicit false

namespace GreedyMatch

inductive Fault where
  | slice (offset size : Nat)
  | overrun (offset length size : Nat)
  | overflow (offset length : Nat)

instance : Reports (Except Fault) where
  report _ := .ok ()

def sliceFrom (input : List Char) (offset : Nat) : Except Fault (List Char) :=
  if offset ≤ input.length then .ok (input.drop offset) else .error (.slice offset input.length)

def advance (size offset length : Nat) : Except Fault { next : Nat // next = offset + length } :=
  if UInt64.size ≤ offset + length then .error (.overflow offset length)
  else if size < offset + length then .error (.overrun offset length size)
  else .ok ⟨offset + length, rfl⟩

/-- The captures cut down, or filled up with `capture`, to `count` of them. -/
def resized (captures : List Capture) (count : Nat) (capture : Capture) : List Capture :=
  captures.take count ++ List.replicate (count - captures.length) capture

def indexedRepeats (quantifier : Quantifier) (attempt : List Char → Except Fault Outcome)
    (input : List Char) (offset : Nat) (captures : List Capture) :
    Except Fault (Nat × List Capture) :=
  if offset < input.length ∧ quantifier.allowsAnother captures.length = true then do
    match ← attempt (← sliceFrom input offset) with
    | .fail => return (offset, captures)
    | .matched 0 capture =>
      return (offset, resized captures (quantifier.fillCount captures.length) capture)
    | .matched (length + 1) capture =>
      let next ← advance input.length offset (length + 1)
      indexedRepeats quantifier attempt input next.val (captures ++ [capture])
  else return (offset, captures)
termination_by input.length - offset
decreasing_by
  rw [next.property]
  omega

def indexedRepeated (quantifier : Quantifier) (attempt : List Char → Except Fault Outcome)
    (input : List Char) : Except Fault Outcome := do
  let (length, captures) ← indexedRepeats quantifier attempt input 0 []
  return .ofRepeats quantifier length captures

def indexedSlots (input : List Char) :
    List (List Char → Except Fault Outcome) → Nat → List Capture → Except Fault Outcome
  | [], offset, captures => return .matched offset (.group captures)
  | step :: steps, offset, captures => do
    match ← step (← sliceFrom input offset) with
    | .fail => return .fail
    | .matched length capture =>
      let next ← advance input.length offset length
      indexedSlots input steps next.val (captures ++ [capture])

mutual

def Matcher.indexed : Matcher → List Char → Except Fault Outcome
  | ⟨attempt, quantifier⟩ => indexedRepeated quantifier attempt.indexed

def Attempt.indexed : Attempt → List Char → Except Fault Outcome
  | .literal text chars => fun input => .ok (literalOutcome text chars input)
  | .char test => fun input => .ok (charOutcome test input)
  | .sequence children => fun input => indexedSlots input (indexedAll children) 0 []
  | .alternation children => firstMatch (indexedAll children)
  | .nested inner => guarded inner.indexed
  | .custom answer => guarded fun input => .ok (answer input)

def indexedAll : List Matcher → List (List Char → Except Fault Outcome)
  | [] => []
  | child :: children => child.indexed :: indexedAll children

end

def indexedSearch (run : List Char → Except Fault Outcome) (input : List Char) (start : Nat) :
    Except Fault (Option Span) :=
  if start < input.length then do
    match ← run (← sliceFrom input start) with
    | .matched (length + 1) capture => return some ⟨start, length + 1, capture⟩
    | _ => indexedSearch run input (start + 1)
  else return none
termination_by input.length - start

def Matcher.indexedFind (matcher : Matcher) (input : List Char) : Except Fault (Option Span) :=
  indexedSearch matcher.indexed input 0

theorem sliceFrom_ok {input : List Char} {offset : Nat} (h : offset ≤ input.length) :
    sliceFrom input offset = .ok (input.drop offset) := if_pos h

theorem advance_ok {size offset length : Nat} (hsize : size < UInt64.size)
    (h : offset + length ≤ size) : advance size offset length = .ok ⟨offset + length, rfl⟩ := by
  have hbits : ¬ UInt64.size ≤ offset + length := by omega
  have hend : ¬ size < offset + length := by omega
  rw [advance, if_neg hbits, if_neg hend]

theorem resized_of_le {captures : List Capture} {count : Nat} (capture : Capture)
    (h : captures.length ≤ count) :
    resized captures count capture =
      captures ++ List.replicate (count - captures.length) capture := by
  rw [resized, List.take_of_length_le h]

/-- On inputs whose size has sixty-four bits, the run ends without a fault and says the same. -/
def Agrees (run : List Char → Except Fault Outcome) (step : List Char → Outcome) : Prop :=
  ∀ input, input.length < UInt64.size → run input = .ok (step input)

section

variable {quantifier : Quantifier} {run : List Char → Except Fault Outcome}
  {step : List Char → Outcome} {input : List Char}

theorem Agrees.drop (h : Agrees run step) (hsize : input.length < UInt64.size) (offset : Nat) :
    run (input.drop offset) = .ok (step (input.drop offset)) := by
  have hlength : (input.drop offset).length = input.length - offset := List.length_drop
  exact h (input.drop offset) (by omega)

theorem indexedRepeats_stop {offset : Nat} {captures : List Capture}
    (h : ¬ (offset < input.length ∧ quantifier.allowsAnother captures.length = true)) :
    indexedRepeats quantifier run input offset captures = .ok (offset, captures) := by
  rw [indexedRepeats, if_neg h]
  rfl

theorem indexedRepeats_step {offset : Nat} {captures : List Capture}
    (hrun : run (input.drop offset) = .ok (step (input.drop offset)))
    (hlt : offset < input.length) (hmore : quantifier.allowsAnother captures.length = true) :
    indexedRepeats quantifier run input offset captures =
      match step (input.drop offset) with
      | .fail => .ok (offset, captures)
      | .matched 0 capture =>
        .ok (offset, resized captures (quantifier.fillCount captures.length) capture)
      | .matched (length + 1) capture =>
        advance input.length offset (length + 1) >>= fun next =>
          indexedRepeats quantifier run input next.val (captures ++ [capture]) := by
  rw [indexedRepeats, if_pos ⟨hlt, hmore⟩, sliceFrom_ok (Nat.le_of_lt hlt)]
  change (run (input.drop offset) >>= _) = _
  rw [hrun]
  rcases step (input.drop offset) with _ | ⟨_ | length, capture⟩ <;> rfl

/-- The loop over offsets goes through the repeats of `rest`, where it stands. -/
theorem Repetition.indexedRepeats_eq_ok (hagrees : Agrees run step) (hwithin : Within step)
    (hsize : input.length < UInt64.size) {recorded total : Nat} {rest : List Char}
    {more : List Capture} (h : Repetition quantifier step recorded rest total more)
    (offset : Nat) (captures : List Capture) (hrest : rest = input.drop offset)
    (hrecorded : recorded = captures.length) :
    indexedRepeats quantifier run input offset captures =
      .ok (offset + total, captures ++ more) := by
  -- On the repeats, as the loop itself could stop anywhere with a fault.
  induction h generalizing offset captures with
  | exhausted =>
    have hend := List.drop_eq_nil_iff.mp hrest.symm
    rw [indexedRepeats_stop (by omega), List.append_nil, Nat.add_zero]
  | enough hfull =>
    subst hrecorded
    rw [indexedRepeats_stop (by simp [hfull]), List.append_nil, Nat.add_zero]
  | failed hstep =>
    subst hrest hrecorded
    by_cases hgoes : offset < input.length ∧ quantifier.allowsAnother captures.length = true
    · rw [indexedRepeats_step (hagrees.drop hsize offset) hgoes.1 hgoes.2, hstep,
        List.append_nil, Nat.add_zero]
    · rw [indexedRepeats_stop hgoes, List.append_nil, Nat.add_zero]
  | @filled recorded rest capture hinput hmore hstep =>
    subst hrest hrecorded
    have hlt : offset < input.length := by simpa using hinput
    have hgrows := lt_fillCount quantifier captures.length hmore
    rw [indexedRepeats_step (hagrees.drop hsize offset) hlt hmore, hstep]
    simp only [resized_of_le capture (Nat.le_of_lt hgrows), Nat.add_zero]
  | @taken recorded rest length capture total more hinput hmore hstep hlater ih =>
    subst hrest hrecorded
    have hlt : offset < input.length := by simpa using hinput
    have hfits : offset + (length + 1) ≤ input.length := by
      have hlength := hwithin _ _ _ hstep
      rw [List.length_drop] at hlength
      omega
    have hnext := ih (offset + (length + 1)) (captures ++ [capture]) (List.drop_drop ..)
      (by rw [List.length_append, List.length_singleton])
    rw [indexedRepeats_step (hagrees.drop hsize offset) hlt hmore, hstep]
    simp only [advance_ok hsize hfits]
    change indexedRepeats quantifier run input _ _ = _
    rw [hnext, List.append_assoc, List.singleton_append, Nat.add_assoc offset]

theorem Agrees.repeated (hagrees : Agrees run step) (hwithin : Within step) :
    Agrees (indexedRepeated quantifier run) fun input =>
      GreedyMatch.repeated (m := Id) quantifier step input := by
  intro input hsize
  have hrepetition := repetition_repeats quantifier step 0 input
  have hloop := hrepetition.indexedRepeats_eq_ok hagrees hwithin hsize 0 [] rfl rfl
  rw [Nat.zero_add, List.nil_append] at hloop
  rw [indexedRepeated, hloop]
  rfl

theorem Agrees.guarded (hagrees : Agrees run step) :
    Agrees (GreedyMatch.guarded run) fun input => GreedyMatch.guarded (m := Id) step input := by
  intro input hsize
  change (run input >>= checked input.length) = .ok (checked (m := Id) input.length (step input))
  rw [hagrees input hsize]
  change checked input.length (step input) = _
  cases step input with
  | fail => rfl
  | matched length capture =>
    rw [checked, checked]
    split <;> rfl

end

theorem indexedAll_eq_map (children : List Matcher) :
    indexedAll children = children.map Matcher.indexed := by
  induction children with
  | nil => rfl
  | cons child children ih => rw [indexedAll, ih, List.map_cons]

theorem indexedSlots_eq_ok {children : List Matcher}
    (hagrees : ∀ child ∈ children, Agrees child.indexed child.outcome) {input : List Char}
    (hsize : input.length < UInt64.size) (offset : Nat) (hoffset : offset ≤ input.length)
    (captures : List Capture) :
    indexedSlots input (children.map Matcher.indexed) offset captures =
      .ok (match slots (m := Id) (children.map Matcher.outcome) (input.drop offset) with
        | none => .fail
        | some (total, more) => .matched (offset + total) (.group (captures ++ more))) := by
  induction children generalizing offset captures with
  | nil =>
    change Except.ok (Outcome.matched offset (.group captures)) =
      .ok (.matched (offset + 0) (.group (captures ++ [])))
    rw [Nat.add_zero, List.append_nil]
  | cons child children ih =>
    have hlater := ih fun other hmem => hagrees other (.tail _ hmem)
    rw [List.map_cons, List.map_cons, slots_cons, indexedSlots, sliceFrom_ok hoffset]
    change (child.indexed (input.drop offset) >>= _) = _
    rw [(hagrees child List.mem_cons_self).drop hsize offset]
    cases hstep : child.outcome (input.drop offset) with
    | fail => rfl
    | matched length capture =>
      have hfits : offset + length ≤ input.length := by
        have hlength := child.within _ _ _ hstep
        rw [List.length_drop] at hlength
        omega
      change (advance input.length offset length >>= _) = _
      rw [advance_ok hsize hfits]
      change indexedSlots input (children.map Matcher.indexed) (offset + length) _ = _
      rw [hlater (offset + length) hfits]
      simp only [List.drop_drop]
      cases slots (m := Id) (children.map Matcher.outcome) (input.drop (offset + length)) with
      | none => rfl
      | some found =>
        simp only [withSlot, Nat.add_assoc, List.append_assoc, List.singleton_append]

theorem indexed_firstMatch {children : List Matcher}
    (hagrees : ∀ child ∈ children, Agrees child.indexed child.outcome) :
    Agrees (firstMatch (children.map Matcher.indexed)) fun input =>
      firstMatch (m := Id) (children.map Matcher.outcome) input := by
  intro input hsize
  induction children with
  | nil => rfl
  | cons child children ih =>
    have hlater := ih fun other hmem => hagrees other (.tail _ hmem)
    simp only [List.map_cons] at hlater ⊢
    rw [firstMatch_cons, firstMatch, hagrees child List.mem_cons_self input hsize]
    change (match child.outcome input with | .fail => _ | .matched length capture => _) = _
    cases child.outcome input with
    | fail => exact hlater
    | matched length capture => rfl

theorem Matcher.agrees_of_attempt {matcher : Matcher}
    (h : Agrees matcher.attempt.indexed matcher.attempt.outcome) :
    Agrees matcher.indexed matcher.outcome := by
  obtain ⟨attempt, quantifier⟩ := matcher
  exact h.repeated attempt.within

theorem Attempt.agrees (attempt : Attempt) : Agrees attempt.indexed attempt.outcome := by
  induction attempt with
  | literal text chars => exact fun _ _ => rfl
  | char test => exact fun _ _ => rfl
  | sequence children ih =>
    intro input hsize
    have hchildren : ∀ child ∈ children, Agrees child.indexed child.outcome :=
      fun child hmem => Matcher.agrees_of_attempt (ih child hmem)
    have hslots := indexedSlots_eq_ok hchildren hsize 0 (Nat.zero_le _) []
    rw [Attempt.outcome_sequence]
    change indexedSlots input (indexedAll children) 0 [] = _
    rw [indexedAll_eq_map, hslots, List.drop_zero]
    cases slots (m := Id) (children.map Matcher.outcome) input with
    | none => rfl
    | some found => simp only [Outcome.ofSlots, Nat.zero_add, List.nil_append]
  | alternation children ih =>
    intro input hsize
    have hchildren : ∀ child ∈ children, Agrees child.indexed child.outcome :=
      fun child hmem => Matcher.agrees_of_attempt (ih child hmem)
    rw [Attempt.outcome_alternation]
    change firstMatch (indexedAll children) input = _
    rw [indexedAll_eq_map]
    exact indexed_firstMatch hchildren input hsize
  | nested inner ih => exact (Matcher.agrees_of_attempt ih).guarded
  | custom answer =>
    have hanswer : Agrees (fun input => .ok (answer input)) answer := fun _ _ => rfl
    exact hanswer.guarded

theorem Matcher.agrees (matcher : Matcher) : Agrees matcher.indexed matcher.outcome :=
  Matcher.agrees_of_attempt matcher.attempt.agrees

theorem indexedSearch_eq_ok {run : List Char → Except Fault Outcome} {step : List Char → Outcome}
    (hagrees : Agrees run step) {input : List Char} (hsize : input.length < UInt64.size)
    (start : Nat) :
    indexedSearch run input start = .ok (searchFrom (m := Id) step start (input.drop start)) := by
  induction start using indexedSearch.induct input with
  | case1 start hlt ih =>
    have hdrop := List.drop_eq_getElem_cons hlt
    rw [indexedSearch, if_pos hlt, sliceFrom_ok (Nat.le_of_lt hlt)]
    change (run (input.drop start) >>= _) = _
    rw [hagrees.drop hsize start, hdrop, searchFrom_cons]
    rcases step (input[start] :: input.drop (start + 1)) with _ | ⟨_ | length, capture⟩
    · exact ih
    · exact ih
    · rfl
  | case2 start hend =>
    rw [indexedSearch, if_neg hend, List.drop_eq_nil_of_le (Nat.le_of_not_lt hend)]
    rfl

/-- Applying and searching never cut or add past the end. The lengths that custom attempts claim
are any numbers. -/
theorem Matcher.indexed_eq_ok (matcher : Matcher) (input : List Char)
    (hsize : input.length < UInt64.size) :
    matcher.indexed input = .ok (matcher.outcome input) ∧
      matcher.indexedFind input = .ok (matcher.find (m := Id) input) ∧
      (∀ length capture, matcher.outcome input = .matched length capture →
        length ≤ input.length) ∧
      ∀ span, matcher.find (m := Id) input = some span →
        span.start + span.length ≤ input.length := by
  have hfind := indexedSearch_eq_ok matcher.agrees hsize 0
  refine ⟨matcher.agrees input hsize, hfind, matcher.within input, fun span hspan => ?_⟩
  have hend := searchFrom_within matcher.within hspan
  rwa [Nat.zero_add] at hend

def overclaimedSigns : Matcher :=
  ⟨.alternation
      [⟨.sequence
          [⟨.char (.ofPredicate fun c => c == '+' || c == '-'), .exactly 1⟩,
            ⟨.custom fun _ => .matched (UInt64.size - 1) (.leaf "?"), .exactly 1⟩], .exactly 1⟩,
        ⟨.nested ⟨.char (.ofPredicate fun c => c == '+' || c == '-'), .between 1 2⟩, .exactly 1⟩],
    .oneOrMore⟩

theorem overclaimedSigns_indexed :
    ['x', '+', '-', 'y'].length < UInt64.size ∧
      overclaimedSigns.indexed ['x', '+', '-', 'y'] = .ok .fail ∧
      overclaimedSigns.indexedFind ['x', '+', '-', 'y'] =
        .ok (some ⟨1, 2, .group [.leaf "+", .leaf "-"]⟩) ∧
      1 + 2 ≤ ['x', '+', '-', 'y'].length := by
  have hsize : ['x', '+', '-', 'y'].length < UInt64.size := by decide
  have hfails : overclaimedSigns.outcome ['x', '+', '-', 'y'] = .fail := by cbv
  have hfinds : overclaimedSigns.find (m := Id) ['x', '+', '-', 'y'] =
      some ⟨1, 2, .group [.leaf "+", .leaf "-"]⟩ := by cbv
  obtain ⟨hindexed, hfound, -, hend⟩ := Matcher.indexed_eq_ok overclaimedSigns _ hsize
  rw [hfails] at hindexed
  rw [hfinds] at hfound
  exact ⟨hsize, hindexed, hfound, hend _ hfinds⟩

end GreedyMatch

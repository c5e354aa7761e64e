import GreedyMatch.Proofs.ExecutedCalls
import GreedyMatch.Proofs.Offsets

/-!
# Bounded progress

A repetition calls its attempt where the calls before it have ended, each time further on, and so no
more often than there are characters or than the maximum allows. What is recorded at once for a
repeat of no characters comes on top of what has been recorded before. The attempt may keep a state
and need not answer twice in the same way.
-/

set_option autoImplicit false

namespace GreedyMatch

/-- The attempt, with its calls written down behind those made before. -/
def noted {σ : Type} (attempt : List Char → StateM σ Outcome) (input : List Char) :
    StateM (σ × List Call) Outcome := fun (state, calls) =>
  let (outcome, next) := attempt input state
  (outcome, next, calls ++ [⟨input, outcome⟩])

def startsOf : Nat → List Call → List Nat
  | _, [] => []
  | start, call :: calls => start :: startsOf (start + call.answer.consumed) calls

def recordedBy (calls : List Call) : List Capture := calls.filterMap (·.answer.capture?)

/-- The calls of a repetition after `recorded` repeats, what they take and what is recorded. -/
inductive Calls (quantifier : Quantifier) : Nat → List Char → List Call → Nat → List Capture → Prop
  | stopped {recorded input} (hstop : input = [] ∨ quantifier.allowsAnother recorded = false) :
      Calls quantifier recorded input [] 0 []
  | failed {recorded input} (hinput : input ≠ [])
      (hmore : quantifier.allowsAnother recorded = true) :
      Calls quantifier recorded input [⟨input, .fail⟩] 0 []
  | filled {recorded input capture} (hinput : input ≠ [])
      (hmore : quantifier.allowsAnother recorded = true) :
      Calls quantifier recorded input [⟨input, .matched 0 capture⟩] 0
        (List.replicate (quantifier.fillCount recorded - recorded) capture)
  | taken {recorded input length capture calls total captures} (hinput : input ≠ [])
      (hmore : quantifier.allowsAnother recorded = true)
      (hrest : Calls quantifier (recorded + 1) (input.drop (length + 1)) calls total captures) :
      Calls quantifier recorded input (⟨input, .matched (length + 1) capture⟩ :: calls)
        (length + 1 + total) (capture :: captures)

section

variable {σ : Type} {quantifier : Quantifier} {recorded : Nat}

theorem repeats_state_stop {input : List Char}
    (hstop : input = [] ∨ quantifier.allowsAnother recorded = false)
    (attempt : List Char → StateM σ Outcome) (state : σ) :
    repeats quantifier attempt recorded input state = ((0, []), state) := by
  cases input with
  | nil =>
    rw [repeats]
    rfl
  | cons c rest =>
    have hfull := hstop.resolve_left (List.cons_ne_nil c rest)
    rw [repeats, if_neg (by simp [hfull])]
    rfl

theorem repeats_state_cons (hmore : quantifier.allowsAnother recorded = true)
    (attempt : List Char → StateM σ Outcome) (c : Char) (rest : List Char) (state : σ) :
    repeats quantifier attempt recorded (c :: rest) state =
      match attempt (c :: rest) state with
      | (.fail, next) => ((0, []), next)
      | (.matched 0 capture, next) =>
        ((0, List.replicate (quantifier.fillCount recorded - recorded) capture), next)
      | (.matched (length + 1) capture, next) =>
        let found := repeats quantifier attempt (recorded + 1) (rest.drop length) next
        ((length + 1 + found.1.1, capture :: found.1.2), found.2) := by
  rw [repeats, if_pos hmore]
  simp only [bind, StateT.bind]
  rcases attempt (c :: rest) state with ⟨_ | ⟨_ | length, capture⟩, next⟩ <;> rfl

/-- The loop makes such calls, and the notes on them change nothing else. -/
theorem exists_calls (quantifier : Quantifier) (attempt : List Char → StateM σ Outcome)
    (recorded : Nat) (input : List Char) (state : σ) (earlier : List Call) :
    ∃ calls final total captures,
      repeats quantifier (noted attempt) recorded input (state, earlier) =
        ((total, captures), final, earlier ++ calls) ∧
      repeats quantifier attempt recorded input state = ((total, captures), final) ∧
      Calls quantifier recorded input calls total captures ∧
      ∀ call ∈ calls, ∃ before, (attempt call.given before).1 = call.answer := by
  induction recorded, input using repeats.induct quantifier generalizing state earlier with
  | case1 recorded =>
    refine ⟨[], state, 0, [], ?_, repeats_state_stop (.inl rfl) attempt state, .stopped (.inl rfl),
      List.forall_mem_nil _⟩
    rw [List.append_nil]
    exact repeats_state_stop (.inl rfl) _ _
  | case2 recorded c rest hmore ih =>
    have hinput : c :: rest ≠ [] := List.cons_ne_nil c rest
    rw [repeats_state_cons hmore, repeats_state_cons hmore, noted]
    cases hcall : attempt (c :: rest) state with
    | mk outcome next =>
      have hanswer : ∃ before, (attempt (c :: rest) before).1 = outcome := ⟨state, by rw [hcall]⟩
      rcases outcome with _ | ⟨_ | length, capture⟩
      · exact ⟨_, next, 0, [], rfl, rfl, .failed hinput hmore,
          List.forall_mem_singleton.mpr hanswer⟩
      · exact ⟨_, next, 0, _, rfl, rfl, .filled hinput hmore,
          List.forall_mem_singleton.mpr hanswer⟩
      · obtain ⟨calls, final, total, captures, hnoted, hplain, hcalls, hanswers⟩ :=
          ih length next (earlier ++ [⟨c :: rest, .matched (length + 1) capture⟩])
        refine ⟨⟨c :: rest, .matched (length + 1) capture⟩ :: calls, final, length + 1 + total,
          capture :: captures, ?_, ?_, .taken hinput hmore hcalls,
          List.forall_mem_cons.mpr ⟨hanswer, hanswers⟩⟩
        · simp only [hnoted, List.append_assoc, List.singleton_append]
        · simp only [hplain]
  | case3 recorded c rest hmore =>
    have hfull : quantifier.allowsAnother recorded = false := by simpa using hmore
    refine ⟨[], state, 0, [], ?_, repeats_state_stop (.inr hfull) attempt state,
      .stopped (.inr hfull), List.forall_mem_nil _⟩
    rw [List.append_nil]
    exact repeats_state_stop (.inr hfull) _ _

end

theorem Quantifier.lt_of_allowsAnother {quantifier : Quantifier} {limit count : Nat}
    (hmax : quantifier.maxCount? = some limit) (hmore : quantifier.allowsAnother count = true) :
    count < limit := by
  simpa only [Quantifier.allowsAnother, hmax, decide_eq_true_eq] using hmore

namespace Calls

variable {quantifier : Quantifier} {recorded total : Nat} {input : List Char} {calls : List Call}
  {captures : List Capture}

theorem length_le (h : Calls quantifier recorded input calls total captures) :
    calls.length ≤ input.length := by
  induction h with
  | stopped => exact Nat.zero_le _
  | failed hinput | filled hinput => exact List.length_pos_iff.mpr hinput
  | taken hinput hmore hrest ih =>
    have hpos := List.length_pos_iff.mpr hinput
    rw [List.length_drop] at ih
    rw [List.length_cons]
    omega

theorem length_le_max (h : Calls quantifier recorded input calls total captures) {limit : Nat}
    (hmax : quantifier.maxCount? = some limit) : calls.length ≤ limit - recorded := by
  induction h with
  | stopped => exact Nat.zero_le _
  | failed hinput hmore | filled hinput hmore =>
    have hlt := Quantifier.lt_of_allowsAnother hmax hmore
    rw [List.length_singleton]
    omega
  | taken hinput hmore hrest ih =>
    have hlt := Quantifier.lt_of_allowsAnother hmax hmore
    rw [List.length_cons]
    omega

theorem given_eq (h : Calls quantifier recorded input calls total captures) {whole : List Char}
    {start : Nat} (hinput : input = whole.drop start) :
    calls.map Call.given = (startsOf start calls).map whole.drop := by
  induction h generalizing start with
  | stopped => rfl
  | failed | filled =>
    subst hinput
    rfl
  | @taken recorded input length capture calls total captures hne hmore hrest ih =>
    subst hinput
    have hlater : calls.map Call.given = (startsOf (start + (length + 1)) calls).map whole.drop :=
      ih (List.drop_drop ..)
    rw [List.map_cons, hlater]
    rfl

theorem mem_startsOf (h : Calls quantifier recorded input calls total captures)
    (hfits : ∀ call ∈ calls, call.answer.consumed ≤ call.given.length) {start : Nat} :
    ∀ offset ∈ startsOf start calls, start ≤ offset ∧ offset < start + input.length := by
  induction h generalizing start with
  | stopped => exact fun _ h => nomatch h
  | failed hinput | filled hinput =>
    have hpos := List.length_pos_iff.mpr hinput
    intro offset hmem
    obtain rfl := List.mem_singleton.mp hmem
    omega
  | @taken recorded input length capture calls total captures hinput hmore hrest ih =>
    obtain ⟨hown, hlater⟩ := List.forall_mem_cons.mp hfits
    have hlength : length + 1 ≤ input.length := hown
    intro offset hmem
    rcases List.mem_cons.mp hmem with rfl | hmem
    · omega
    · have hinside := ih hlater offset hmem
      rw [List.length_drop] at hinside
      change start + (length + 1) ≤ offset ∧ offset < start + (length + 1) + _ at hinside
      omega

theorem pairwise_startsOf (h : Calls quantifier recorded input calls total captures)
    (hfits : ∀ call ∈ calls, call.answer.consumed ≤ call.given.length) (start : Nat) :
    (startsOf start calls).Pairwise (· < ·) := by
  induction h generalizing start with
  | stopped => exact .nil
  | failed | filled => exact List.pairwise_singleton _ _
  | @taken recorded input length capture calls total captures hinput hmore hrest ih =>
    have hlater := (List.forall_mem_cons.mp hfits).2
    refine .cons (fun offset hmem => ?_) (ih hlater _)
    have hle : start + (length + 1) ≤ offset := (hrest.mem_startsOf hlater offset hmem).1
    omega

theorem total_le (h : Calls quantifier recorded input calls total captures)
    (hfits : ∀ call ∈ calls, call.answer.consumed ≤ call.given.length) :
    total ≤ input.length := by
  induction h with
  | stopped | failed | filled => exact Nat.zero_le _
  | @taken recorded input length capture calls total captures hinput hmore hrest ih =>
    obtain ⟨hown, hlater⟩ := List.forall_mem_cons.mp hfits
    have hlength : length + 1 ≤ input.length := hown
    have htotal := ih hlater
    rw [List.length_drop] at htotal
    omega

theorem recordedBy_isPrefix (h : Calls quantifier recorded input calls total captures) :
    recordedBy calls <+: captures := by
  induction h with
  | stopped | failed => exact List.nil_prefix
  | @filled recorded input capture hinput hmore =>
    have hgrows := lt_fillCount quantifier recorded hmore
    obtain ⟨more, hfill⟩ := Nat.exists_eq_add_of_lt hgrows
    have hcount : quantifier.fillCount recorded - recorded = more + 1 := by omega
    rw [hcount, List.replicate_succ]
    exact List.prefix_append [capture] _
  | taken hinput hmore hrest ih => exact (List.prefix_cons_inj _).mpr ih

/-- Behind the call that has taken nothing there is no other, and every call before it has been
recorded. -/
theorem filled_eq (h : Calls quantifier recorded input calls total captures) {earlier : List Call}
    {given : List Char} {capture : Capture}
    (hcalls : calls = earlier ++ [⟨given, .matched 0 capture⟩]) :
    quantifier.allowsAnother (recorded + (recordedBy earlier).length) = true ∧
      captures = recordedBy earlier ++
        List.replicate (quantifier.fillCount (recorded + (recordedBy earlier).length) -
          (recorded + (recordedBy earlier).length)) capture := by
  induction h generalizing earlier with
  | stopped => simp at hcalls
  | failed => cases earlier <;> simp at hcalls
  | @filled recorded input own hinput hmore =>
    cases earlier with
    | nil =>
      cases hcalls
      exact ⟨hmore, rfl⟩
    | cons call earlier => simp at hcalls
  | @taken recorded input length own calls total captures hinput hmore hrest ih =>
    cases earlier with
    | nil => cases hcalls
    | cons call earlier =>
      obtain ⟨rfl, rfl⟩ := List.cons.inj hcalls
      obtain ⟨hlast, hcaptures⟩ := ih rfl
      have hcons : recordedBy (⟨input, .matched (length + 1) own⟩ :: earlier) =
          own :: recordedBy earlier := rfl
      have hcount : recorded + ((recordedBy earlier).length + 1) =
          recorded + 1 + (recordedBy earlier).length := by omega
      rw [hcons, List.length_cons, hcount, List.cons_append, ← hcaptures]
      exact ⟨hlast, rfl⟩

end Calls

structure BoundedProgress (quantifier : Quantifier) (input : List Char) (calls : List Call)
    (total : Nat) (captures : List Capture) : Prop where
  count_le : calls.length ≤ input.length
  count_le_max : ∀ max, quantifier.maxCount? = some max → calls.length ≤ max
  given : calls.map Call.given = (startsOf 0 calls).map input.drop
  increasing : (startsOf 0 calls).Pairwise (· < ·)
  inside : ∀ start ∈ startsOf 0 calls, start < input.length
  total_le : total ≤ input.length
  kept : recordedBy calls <+: captures
  -- The captures are resized to the target, and a smaller target would drop some of them.
  filled : ∀ earlier given capture, calls = earlier ++ [⟨given, .matched 0 capture⟩] →
    (recordedBy earlier).length + 1 ≤ quantifier.fillCount (recordedBy earlier).length ∧
      captures =
        resized (recordedBy earlier) (quantifier.fillCount (recordedBy earlier).length) capture

theorem Calls.boundedProgress {quantifier : Quantifier} {input : List Char} {calls : List Call}
    {total : Nat} {captures : List Capture} (h : Calls quantifier 0 input calls total captures)
    (hfits : ∀ call ∈ calls, call.answer.consumed ≤ call.given.length) :
    BoundedProgress quantifier input calls total captures where
  count_le := h.length_le
  count_le_max limit hmax := h.length_le_max hmax
  given := h.given_eq List.drop_zero.symm
  increasing := h.pairwise_startsOf hfits 0
  inside start hmem := by
    have hinside := (h.mem_startsOf hfits start hmem).2
    rwa [Nat.zero_add] at hinside
  total_le := h.total_le hfits
  kept := h.recordedBy_isPrefix
  filled earlier given capture hcalls := by
    obtain ⟨hmore, hcaptures⟩ := h.filled_eq hcalls
    rw [Nat.zero_add] at hmore hcaptures
    have hgrows := lt_fillCount quantifier _ hmore
    rw [resized_of_le capture (Nat.le_of_lt hgrows)]
    exact ⟨hgrows, hcaptures⟩

/-- Whatever the quantifier, and whatever an attempt that keeps to its input answers from call to
call, the loop goes on by progress only. -/
theorem repeated_progress (quantifier : Quantifier) {σ : Type}
    (attempt : List Char → StateM σ Outcome)
    (hfits : ∀ input state, (attempt input state).1.consumed ≤ input.length) (input : List Char)
    (state : σ) :
    ∃ calls final total captures,
      repeats quantifier (noted attempt) 0 input (state, []) =
        ((total, captures), final, calls) ∧
      repeated quantifier attempt input state = (.ofRepeats quantifier total captures, final) ∧
      BoundedProgress quantifier input calls total captures := by
  obtain ⟨calls, final, total, captures, hnoted, hplain, hcalls, hanswers⟩ :=
    exists_calls quantifier attempt 0 input state []
  refine ⟨calls, final, total, captures, hnoted, ?_, hcalls.boundedProgress fun call hmem => ?_⟩
  · rw [repeated]
    simp only [bind, StateT.bind, hplain]
    rfl
  · obtain ⟨before, hanswer⟩ := hanswers call hmem
    rw [← hanswer]
    exact hfits call.given before

def countdown (input : List Char) : StateM Nat Outcome := fun left =>
  if input = [] ∨ left = 0 then (.matched 0 .empty, left) else (.matched 1 (.leaf "x"), left - 1)

theorem countdown_fits (input : List Char) (left : Nat) :
    (countdown input left).1.consumed ≤ input.length := by
  rw [countdown]
  split
  · exact Nat.zero_le _
  · rename_i h
    exact List.length_pos_iff.mpr (not_or.mp h).1

/-- Three calls, of which the last takes nothing and is recorded three times. -/
theorem countdown_repeated_progress :
    (∀ input left, (countdown input left).1.consumed ≤ input.length) ∧
      BoundedProgress (.between 1 5) ['a', 'b', 'c', 'd']
        [⟨['a', 'b', 'c', 'd'], .matched 1 (.leaf "x")⟩, ⟨['b', 'c', 'd'], .matched 1 (.leaf "x")⟩,
          ⟨['c', 'd'], .matched 0 .empty⟩]
        2 [.leaf "x", .leaf "x", .empty, .empty, .empty] := by
  have hrun : repeats (.between 1 5) (noted countdown) 0 ['a', 'b', 'c', 'd'] (2, []) =
      ((2, [.leaf "x", .leaf "x", .empty, .empty, .empty]), 0,
        [⟨['a', 'b', 'c', 'd'], .matched 1 (.leaf "x")⟩, ⟨['b', 'c', 'd'], .matched 1 (.leaf "x")⟩,
          ⟨['c', 'd'], .matched 0 .empty⟩]) := by
    simp [repeats_state_cons, noted, countdown, Quantifier.allowsAnother, Quantifier.maxCount?,
      Quantifier.fillCount, List.replicate_succ]
  obtain ⟨calls, final, total, captures, hnoted, -, hprogress⟩ :=
    repeated_progress (.between 1 5) countdown countdown_fits ['a', 'b', 'c', 'd'] 2
  rw [hrun] at hnoted
  cases hnoted
  exact ⟨countdown_fits, hprogress⟩

end GreedyMatch

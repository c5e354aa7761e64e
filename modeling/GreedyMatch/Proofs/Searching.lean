import GreedyMatch.Matcher.Lemmas
import GreedyMatch.Proofs.CapturedText

set_option autoImplicit false

namespace GreedyMatch

/-- The step takes characters from `start` on, and none from any place before. -/
structure Leftmost (step : List Char → Outcome) (input : List Char) (start length : Nat)
    (capture : Capture) : Prop where
  inside : start < input.length
  matched : step (input.drop start) = .matched length capture
  pos : 0 < length
  first : ∀ earlier < start, (step (input.drop earlier)).consumed = 0

section

variable {step : List Char → Outcome} {input : List Char} {start length : Nat} {capture : Capture}

theorem Leftmost.drop (h : Leftmost step input start length capture) {skipped : Nat}
    (hskipped : skipped ≤ start) :
    Leftmost step (input.drop skipped) (start - skipped) length capture where
  inside := by
    have hinside := h.inside
    rw [List.length_drop]
    omega
  matched := by
    rw [List.drop_drop, Nat.add_sub_cancel' hskipped]
    exact h.matched
  pos := h.pos
  first earlier hearlier := by
    rw [List.drop_drop]
    exact h.first (skipped + earlier) (by omega)

theorem leftmost_zero_iff {c : Char} {rest : List Char} :
    Leftmost step (c :: rest) 0 length capture ↔
      step (c :: rest) = .matched length capture ∧ 0 < length :=
  ⟨fun h => ⟨h.matched, h.pos⟩, fun h => ⟨Nat.succ_pos _, h.1, h.2, fun _ hlt => by omega⟩⟩

theorem leftmost_succ_iff {c : Char} {rest : List Char} :
    Leftmost step (c :: rest) (start + 1) length capture ↔
      (step (c :: rest)).consumed = 0 ∧ Leftmost step rest start length capture := by
  constructor
  · intro h
    exact ⟨h.first 0 (Nat.succ_pos start), h.drop (Nat.le_add_left 1 start)⟩
  · rintro ⟨hzero, h⟩
    refine ⟨Nat.succ_lt_succ h.inside, h.matched, h.pos, fun earlier hearlier => ?_⟩
    cases earlier with
    | zero => exact hzero
    | succ earlier => exact h.first earlier (by omega)

theorem searchFrom_of_consumed_eq_zero {c : Char} {rest : List Char}
    (h : (step (c :: rest)).consumed = 0) (offset : Nat) :
    searchFrom (m := Id) step offset (c :: rest) = searchFrom (m := Id) step (offset + 1) rest := by
  rw [searchFrom_cons]
  rcases Outcome.of_consumed_eq_zero h with hstep | ⟨capture, hstep⟩
  · rw [hstep]
  · rw [hstep]

theorem searchFrom_eq_some_iff {offset : Nat} {span : Span} :
    searchFrom (m := Id) step offset input = some span ↔
      ∃ start, span.start = offset + start ∧
        Leftmost step input start span.length span.capture := by
  induction input generalizing offset with
  | nil =>
    refine ⟨fun h => (nomatch h), ?_⟩
    rintro ⟨start, -, h⟩
    cases h.inside
  | cons c rest ih =>
    -- The first place is passed over or it is the one that is found.
    rcases Nat.eq_zero_or_pos (step (c :: rest)).consumed with hzero | hpos
    · rw [searchFrom_of_consumed_eq_zero hzero, ih]
      constructor
      · rintro ⟨start, hstart, h⟩
        exact ⟨start + 1, by omega, leftmost_succ_iff.mpr ⟨hzero, h⟩⟩
      · rintro ⟨start, hstart, h⟩
        cases start with
        | zero =>
          obtain ⟨hstep, hpos⟩ := leftmost_zero_iff.mp h
          rw [hstep] at hzero
          exact absurd hzero (Nat.ne_of_gt hpos)
        | succ start => exact ⟨start, by omega, (leftmost_succ_iff.mp h).2⟩
    · obtain ⟨shorter, capture, hstep⟩ := Outcome.of_consumed_pos hpos
      rw [searchFrom_cons, hstep]
      constructor
      · intro h
        cases h
        exact ⟨0, rfl, leftmost_zero_iff.mpr ⟨hstep, Nat.succ_pos shorter⟩⟩
      · rintro ⟨start, hstart, h⟩
        cases start with
        | zero =>
          obtain ⟨place, length, found⟩ := span
          obtain rfl : place = offset := hstart
          cases hstep.symm.trans h.matched
          rfl
        | succ start => exact absurd (leftmost_succ_iff.mp h).1 (Nat.ne_of_gt hpos)

theorem searchFrom_eq_none_iff {offset : Nat} :
    searchFrom (m := Id) step offset input = none ↔
      ∀ start < input.length, (step (input.drop start)).consumed = 0 := by
  induction input generalizing offset with
  | nil => exact ⟨fun _ _ hlt => absurd hlt (Nat.not_lt_zero _), fun _ => rfl⟩
  | cons c rest ih =>
    rcases Nat.eq_zero_or_pos (step (c :: rest)).consumed with hzero | hpos
    · rw [searchFrom_of_consumed_eq_zero hzero, ih]
      constructor
      · intro h start hstart
        cases start with
        | zero => exact hzero
        | succ start => exact h start (Nat.lt_of_succ_lt_succ hstart)
      · exact fun h start hstart => h (start + 1) (Nat.succ_lt_succ hstart)
    · obtain ⟨shorter, capture, hstep⟩ := Outcome.of_consumed_pos hpos
      rw [searchFrom_cons, hstep]
      refine ⟨fun h => (nomatch h), fun h => ?_⟩
      exact absurd (h 0 (Nat.succ_pos _)) (Nat.ne_of_gt hpos)

theorem searchFrom_value {logged : List Char → Logged Outcome}
    (h : SameOutcome logged step) (offset : Nat) :
    (searchFrom logged offset input).value = searchFrom (m := Id) step offset input := by
  induction input generalizing offset with
  | nil => rfl
  | cons c rest ih =>
    rw [searchFrom, searchFrom_cons, Logged.value_bind, h]
    rcases step (c :: rest) with _ | ⟨_ | length, capture⟩
    · exact ih (offset + 1)
    · exact ih (offset + 1)
    · rfl

end

theorem Matcher.find_eq_some_iff {matcher : Matcher} {input : List Char} {span : Span} :
    matcher.find (m := Id) input = some span ↔
      Leftmost matcher.outcome input span.start span.length span.capture := by
  have hfound : searchFrom (m := Id) matcher.outcome 0 input = some span ↔
      ∃ start, span.start = 0 + start ∧
        Leftmost matcher.outcome input start span.length span.capture := searchFrom_eq_some_iff
  constructor
  · intro h
    obtain ⟨start, hstart, hleftmost⟩ := hfound.mp h
    rw [hstart, Nat.zero_add]
    exact hleftmost
  · exact fun h => hfound.mpr ⟨span.start, (Nat.zero_add _).symm, h⟩

/-- A search tells where the leftmost match that takes a character stands, how far it goes and what
it captures. The log does not change what is found. -/
theorem Matcher.find_leftmost (matcher : Matcher) (input : List Char) :
    (matcher.find input : Logged (Option Span)).value = matcher.find (m := Id) input ∧
      (∀ start length capture,
        matcher.find (m := Id) input = some ⟨start, length, capture⟩ ↔
          Leftmost matcher.outcome input start length capture) ∧
      (matcher.find (m := Id) input = none ↔
        ∀ start < input.length, (matcher.outcome (input.drop start)).consumed = 0) ∧
      ∀ start length capture,
        matcher.find (m := Id) input = some ⟨start, length, capture⟩ →
          start + length ≤ input.length ∧
            (matcher.Built Honest →
              capture.text = String.ofList ((input.drop start).take length)) ∧
            ∀ skipped ≤ start,
              matcher.find (m := Id) (input.drop skipped) =
                some ⟨start - skipped, length, capture⟩ := by
  refine ⟨searchFrom_value matcher.value_run 0, fun _ _ _ => Matcher.find_eq_some_iff,
    searchFrom_eq_none_iff, fun start length capture hfound => ?_⟩
  have hleftmost : Leftmost matcher.outcome input start length capture :=
    Matcher.find_eq_some_iff.mp hfound
  refine ⟨?_, fun hbuilt => ?_, fun skipped hskipped => ?_⟩
  · have hlength := matcher.within _ _ _ hleftmost.matched
    have hinside := hleftmost.inside
    rw [List.length_drop] at hlength
    omega
  · exact Matcher.capturesText_of_attempt hbuilt.wellFormed.2.capturesText _ _ _ hleftmost.matched
  · exact Matcher.find_eq_some_iff.mpr (hleftmost.drop hskipped)

def anyPairs : Matcher := ⟨.custom pairAnswer, .zeroOrMore⟩

theorem anyPairs_built : anyPairs.Built Honest :=
  .custom pairAnswer_honest (Matcher.build_of_ordered trivial rfl)

theorem anyPairs_find_leftmost :
    (Leftmost anyPairs.outcome ['x', 'y', 'a', 'a', 'é', 'é', 'x'] 2 4
        (.group [.leaf "aa", .leaf "éé"]) ∧
      anyPairs.find (m := Id) ['x', 'y', 'a', 'a', 'é', 'é', 'x'] =
        some ⟨2, 4, .group [.leaf "aa", .leaf "éé"]⟩ ∧
      2 + 4 ≤ ['x', 'y', 'a', 'a', 'é', 'é', 'x'].length ∧
      anyPairs.Built Honest ∧
      Capture.text (.group [.leaf "aa", .leaf "éé"]) = String.ofList ['a', 'a', 'é', 'é'] ∧
      1 ≤ 2 ∧
      anyPairs.find (m := Id) ['y', 'a', 'a', 'é', 'é', 'x'] =
        some ⟨1, 4, .group [.leaf "aa", .leaf "éé"]⟩) ∧
      (∀ start < ['x', 'y'].length, (anyPairs.outcome (['x', 'y'].drop start)).consumed = 0) ∧
        anyPairs.find (m := Id) ['x', 'y'] = none := by
  have hmatched : anyPairs.outcome ['a', 'a', 'é', 'é', 'x'] =
      .matched 4 (.group [.leaf "aa", .leaf "éé"]) := by cbv
  have hfirst : ∀ earlier < 2,
      (anyPairs.outcome (['x', 'y', 'a', 'a', 'é', 'é', 'x'].drop earlier)).consumed = 0 := by
    decide +kernel
  have hnone : ∀ start < ['x', 'y'].length,
      (anyPairs.outcome (['x', 'y'].drop start)).consumed = 0 := by decide +kernel
  have hleftmost : Leftmost anyPairs.outcome ['x', 'y', 'a', 'a', 'é', 'é', 'x'] 2 4
      (.group [.leaf "aa", .leaf "éé"]) := ⟨by decide, hmatched, by decide, hfirst⟩
  obtain ⟨-, hiff, -, hspan⟩ := Matcher.find_leftmost anyPairs ['x', 'y', 'a', 'a', 'é', 'é', 'x']
  obtain ⟨-, -, hnothing, -⟩ := Matcher.find_leftmost anyPairs ['x', 'y']
  have hfound := (hiff 2 4 _).mpr hleftmost
  obtain ⟨hend, htext, hcut⟩ := hspan 2 4 _ hfound
  exact ⟨⟨hleftmost, hfound, hend, anyPairs_built, htext anyPairs_built, by decide,
    hcut 1 (by decide)⟩, hnone, hnothing.mpr hnone⟩

end GreedyMatch

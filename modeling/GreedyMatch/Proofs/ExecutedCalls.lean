import GreedyMatch.Proofs.Construction
import GreedyMatch.Proofs.Extent

set_option autoImplicit false

namespace GreedyMatch

structure Call where
  given : List Char
  answer : Outcome

/-- The offsets from which a repetition runs its attempt, where `recorded` repeats have ended at
`offset`. A failure takes nothing, and neither it nor a repeat of no characters has another attempt
behind it. -/
inductive Starts (quantifier : Quantifier) (step : List Char → Outcome) (input : List Char) :
    Nat → Nat → List Nat → Prop
  | stopped {recorded offset}
      (hstop : ¬ (offset < input.length ∧ quantifier.allowsAnother recorded = true)) :
      Starts quantifier step input recorded offset []
  | last {recorded offset} (hinput : offset < input.length)
      (hmore : quantifier.allowsAnother recorded = true)
      (hstep : (step (input.drop offset)).consumed = 0) :
      Starts quantifier step input recorded offset [offset]
  | next {recorded offset starts} (hinput : offset < input.length)
      (hmore : quantifier.allowsAnother recorded = true)
      (hstep : 0 < (step (input.drop offset)).consumed)
      (hrest : Starts quantifier step input (recorded + 1)
        (offset + (step (input.drop offset)).consumed) starts) :
      Starts quantifier step input recorded offset (offset :: starts)

mutual

/-- The custom attempts that a run of the matcher calls, in their order, said without a log. -/
inductive Matcher.Executes : Matcher → List Char → List Call → Prop
  | repeats {attempt quantifier input starts calls}
      (hstarts : Starts quantifier attempt.outcome input 0 0 starts)
      (hruns : Attempt.ExecutesAt attempt input starts calls) :
      Matcher.Executes ⟨attempt, quantifier⟩ input calls

inductive Attempt.ExecutesAt : Attempt → List Char → List Nat → List Call → Prop
  | nil {attempt input} : Attempt.ExecutesAt attempt input [] []
  | cons {attempt input start starts first later}
      (hrun : Attempt.Executes attempt (input.drop start) first)
      (hruns : Attempt.ExecutesAt attempt input starts later) :
      Attempt.ExecutesAt attempt input (start :: starts) (first ++ later)

/-- A nested matcher is called like any other custom attempt, and its answer comes after the calls
that have led to it. -/
inductive Attempt.Executes : Attempt → List Char → List Call → Prop
  | literal {text chars input} : Attempt.Executes (.literal text chars) input []
  | char {test input} : Attempt.Executes (.char test) input []
  | sequence {children input calls} (hchildren : ExecutesInOrder children input calls) :
      Attempt.Executes (.sequence children) input calls
  | alternation {children input calls} (hchildren : ExecutesUntilMatch children input calls) :
      Attempt.Executes (.alternation children) input calls
  | nested {inner input calls} (hinner : Matcher.Executes inner input calls) :
      Attempt.Executes (.nested inner) input (calls ++ [⟨input, inner.outcome input⟩])
  | custom {answer input} : Attempt.Executes (.custom answer) input [⟨input, answer input⟩]

inductive ExecutesInOrder : List Matcher → List Char → List Call → Prop
  | done {input} : ExecutesInOrder [] input []
  | failed {child children input calls} (hrun : Matcher.Executes child input calls)
      (hfail : child.outcome input = .fail) : ExecutesInOrder (child :: children) input calls
  | matched {child children input length capture first later}
      (hrun : Matcher.Executes child input first)
      (hmatched : child.outcome input = .matched length capture)
      (hrest : ExecutesInOrder children (input.drop length) later) :
      ExecutesInOrder (child :: children) input (first ++ later)

inductive ExecutesUntilMatch : List Matcher → List Char → List Call → Prop
  | done {input} : ExecutesUntilMatch [] input []
  | matched {child children input length capture calls}
      (hrun : Matcher.Executes child input calls)
      (hmatched : child.outcome input = .matched length capture) :
      ExecutesUntilMatch (child :: children) input calls
  | failed {child children input first later} (hrun : Matcher.Executes child input first)
      (hfail : child.outcome input = .fail) (hrest : ExecutesUntilMatch children input later) :
      ExecutesUntilMatch (child :: children) input (first ++ later)

end

section

variable {quantifier : Quantifier} {step : List Char → Outcome} {input : List Char}

theorem exists_starts (quantifier : Quantifier) (step : List Char → Outcome) (input : List Char)
    (recorded offset : Nat) : ∃ starts, Starts quantifier step input recorded offset starts := by
  -- On the characters behind the offset, of which each further attempt finds fewer.
  induction hleft : input.length - offset using Nat.strongRecOn
    generalizing recorded offset with
  | ind left ih =>
    by_cases hgoes : offset < input.length ∧ quantifier.allowsAnother recorded = true
    · obtain ⟨hinput, hmore⟩ := hgoes
      rcases Nat.eq_zero_or_pos (step (input.drop offset)).consumed with hzero | hpos
      · exact ⟨_, .last hinput hmore hzero⟩
      · obtain ⟨starts, hstarts⟩ := ih _ (by omega) (recorded + 1)
          (offset + (step (input.drop offset)).consumed) rfl
        exact ⟨_, .next hinput hmore hpos hstarts⟩
    · exact ⟨_, .stopped hgoes⟩

end

def Runs (executes : List Char → List Call → Prop) : Prop := ∀ input, ∃ calls, executes input calls

theorem Matcher.runs_of_attempt {matcher : Matcher} (h : Runs matcher.attempt.Executes) :
    Runs matcher.Executes := by
  obtain ⟨attempt, quantifier⟩ := matcher
  intro input
  obtain ⟨starts, hstarts⟩ := exists_starts quantifier attempt.outcome input 0 0
  have hruns : ∃ calls, attempt.ExecutesAt input starts calls := by
    clear hstarts
    induction starts with
    | nil => exact ⟨_, .nil⟩
    | cons start starts ih =>
      obtain ⟨first, hfirst⟩ := h (input.drop start)
      obtain ⟨later, hlater⟩ := ih
      exact ⟨_, .cons hfirst hlater⟩
  obtain ⟨calls, hcalls⟩ := hruns
  exact ⟨calls, .repeats hstarts hcalls⟩

theorem runs_inOrder {children : List Matcher} (h : ∀ child ∈ children, Runs child.Executes) :
    Runs (ExecutesInOrder children) := by
  induction children with
  | nil => exact fun _ => ⟨_, .done⟩
  | cons child children ih =>
    intro input
    obtain ⟨first, hfirst⟩ := h child List.mem_cons_self input
    cases hchild : child.outcome input with
    | fail => exact ⟨_, .failed hfirst hchild⟩
    | matched length capture =>
      obtain ⟨later, hlater⟩ := ih (fun other hmem => h other (.tail _ hmem)) (input.drop length)
      exact ⟨_, .matched hfirst hchild hlater⟩

theorem runs_untilMatch {children : List Matcher} (h : ∀ child ∈ children, Runs child.Executes) :
    Runs (ExecutesUntilMatch children) := by
  induction children with
  | nil => exact fun _ => ⟨_, .done⟩
  | cons child children ih =>
    intro input
    obtain ⟨first, hfirst⟩ := h child List.mem_cons_self input
    cases hchild : child.outcome input with
    | fail =>
      obtain ⟨later, hlater⟩ := ih (fun other hmem => h other (.tail _ hmem)) input
      exact ⟨_, .failed hfirst hchild hlater⟩
    | matched length capture => exact ⟨_, .matched hfirst hchild⟩

theorem Attempt.runs (attempt : Attempt) : Runs attempt.Executes := by
  induction attempt with
  | literal text chars => exact fun _ => ⟨_, .literal⟩
  | char test => exact fun _ => ⟨_, .char⟩
  | sequence children ih =>
    intro input
    obtain ⟨calls, hcalls⟩ :=
      runs_inOrder (fun child hmem => Matcher.runs_of_attempt (ih child hmem)) input
    exact ⟨calls, .sequence hcalls⟩
  | alternation children ih =>
    intro input
    obtain ⟨calls, hcalls⟩ :=
      runs_untilMatch (fun child hmem => Matcher.runs_of_attempt (ih child hmem)) input
    exact ⟨calls, .alternation hcalls⟩
  | nested inner ih =>
    intro input
    obtain ⟨calls, hcalls⟩ := Matcher.runs_of_attempt ih input
    exact ⟨_, .nested hcalls⟩
  | custom answer => exact fun _ => ⟨_, .custom⟩

section

variable {P : Call → Prop}

end

end GreedyMatch

import GreedyMatch.Proofs.CapturedText
import Mathlib.Data.List.Forall2

set_option autoImplicit false

namespace GreedyMatch

mutual

/-- A single repeat stands for itself, so the level of the repeats may be missing. -/
inductive Matcher.Conforms : Matcher → Capture → Prop
  | repeats {attempt quantifier captures}
      (henough : quantifier.minCount ≤ captures.length)
      (hlimit : ∀ limit, quantifier.maxCount? = some limit → captures.length ≤ limit)
      (hcaptures : ∀ capture ∈ captures, Attempt.Conforms attempt capture) :
      Matcher.Conforms ⟨attempt, quantifier⟩ (.ofRepeats captures)

/-- The capture of one attempt. A caller's own attempt may capture whatever it answers with a length
that fits into the input it is given. -/
inductive Attempt.Conforms : Attempt → Capture → Prop
  | literal {text chars} : Attempt.Conforms (.literal text chars) (.leaf text)
  | char {test : CharTest} {c} (haccepts : test.accepts c = true) :
      Attempt.Conforms (.char test) (.ofChar c)
  | sequence {children slots} (hslots : List.Forall₂ Matcher.Conforms children slots) :
      Attempt.Conforms (.sequence children) (.group slots)
  | alternation {children child capture} (hmem : child ∈ children)
      (hchild : Matcher.Conforms child capture) : Attempt.Conforms (.alternation children) capture
  | nested {inner capture} (hinner : Matcher.Conforms inner capture) :
      Attempt.Conforms (.nested inner) capture
  | custom {answer input length capture} (hanswer : answer input = .matched length capture)
      (hfits : length ≤ input.length) : Attempt.Conforms (.custom answer) capture

end

def CapturesOnly (P : Capture → Prop) (step : List Char → Outcome) : Prop :=
  ∀ input length capture, step input = .matched length capture → P capture

theorem Matcher.conforms_of_attempt {matcher : Matcher}
    (h : CapturesOnly matcher.attempt.Conforms matcher.attempt.outcome) :
    CapturesOnly matcher.Conforms matcher.outcome := by
  intro input length capture hmatched
  obtain ⟨captures, rfl, henough, hrepetition⟩ := Matcher.repetition_of_matched hmatched
  obtain ⟨attempt, quantifier⟩ := matcher
  refine .repeats henough (fun limit hmax => ?_) fun capture hmem => ?_
  · have hcount := hrepetition.count_le hmax (Nat.zero_le limit)
    omega
  · obtain ⟨step, hstep, rest, taken, hmatched⟩ := hrepetition.inTurn.exists_matched capture hmem
    rw [List.eq_of_mem_replicate hstep] at hmatched
    exact h rest taken capture hmatched

theorem slots_conform {children : List Matcher} {input : List Char} {total : Nat}
    {slots : List Capture} (h : InTurn (children.map Matcher.outcome) input total slots)
    (hchildren : ∀ child ∈ children, CapturesOnly child.Conforms child.outcome) :
    List.Forall₂ Matcher.Conforms children slots := by
  induction children generalizing input total slots with
  | nil =>
    cases h
    exact .nil
  | cons child children ih =>
    cases h with
    | cons hstep hrest =>
      have hchild := hchildren child List.mem_cons_self _ _ _ hstep
      exact .cons hchild (ih hrest fun other hmem => hchildren other (.tail _ hmem))

theorem Attempt.capturesOnly_conforms (attempt : Attempt) :
    CapturesOnly attempt.Conforms attempt.outcome := by
  induction attempt with
  | literal text chars =>
    intro input length capture h
    obtain ⟨-, -, rfl⟩ := literalOutcome_eq_matched h
    exact .literal
  | char test =>
    intro input length capture h
    obtain ⟨c, rest, -, haccepts, -, rfl⟩ := charOutcome_eq_matched h
    exact .char haccepts
  | sequence children ih =>
    intro input length capture h
    obtain ⟨slots, rfl, hturn⟩ := Attempt.inTurn_of_matched h
    exact .sequence (slots_conform hturn fun child hmem =>
      Matcher.conforms_of_attempt (ih child hmem))
  | alternation children ih =>
    intro input length capture h
    obtain ⟨child, hmem, hmatched⟩ := Attempt.child_of_matched h
    exact .alternation hmem
      (Matcher.conforms_of_attempt (ih child hmem) input length capture hmatched)
  | nested inner ih =>
    intro input length capture h
    have hinner := (guarded_eq_matched h).1
    exact .nested (Matcher.conforms_of_attempt ih input length capture hinner)
  | custom answer =>
    intro input length capture h
    obtain ⟨hanswer, hfits⟩ := guarded_eq_matched h
    exact .custom hanswer hfits

namespace Capture

def FullLeaves (capture : Capture) : Prop := ∀ text ∈ capture.leaves, text ≠ ""

theorem fullLeaves_group {items : List Capture} (h : ∀ item ∈ items, item.FullLeaves) :
    (group items).FullLeaves := by
  intro text hmem
  rw [leaves, leavesOfAll_eq_flatMap, List.mem_flatMap] at hmem
  obtain ⟨item, hitem, htext⟩ := hmem
  exact h item hitem text htext

theorem fullLeaves_ofRepeats {captures : List Capture}
    (h : ∀ capture ∈ captures, capture.FullLeaves) : (ofRepeats captures).FullLeaves := by
  match captures, h with
  | [], h => exact fullLeaves_group h
  | [capture], h => exact h capture List.mem_cons_self
  | _ :: _ :: _, h => exact fullLeaves_group h

theorem leaves_eq_nil_of_text {capture : Capture} (hfull : capture.FullLeaves)
    (htext : capture.text = "") : capture.leaves = [] := by
  cases hleaves : capture.leaves with
  | nil => rfl
  | cons text rest =>
    have hjoin : String.join (text :: rest) = "" := by rw [← hleaves, join_leaves, htext]
    rw [String.join_cons, String.append_eq_empty_iff] at hjoin
    exact absurd hjoin.1 (hfull text (hleaves ▸ List.mem_cons_self))

end Capture

theorem Matcher.fullLeaves_of_attempt {matcher : Matcher}
    (h : ∀ capture, matcher.attempt.Conforms capture → capture.FullLeaves) {capture : Capture}
    (hconforms : matcher.Conforms capture) : capture.FullLeaves := by
  cases hconforms with
  | repeats henough hlimit hcaptures =>
    exact Capture.fullLeaves_ofRepeats fun capture hmem => h capture (hcaptures capture hmem)

theorem slots_fullLeaves {children : List Matcher} {slots : List Capture}
    (hslots : List.Forall₂ Matcher.Conforms children slots)
    (h : ∀ child ∈ children, ∀ capture, child.Conforms capture → capture.FullLeaves) :
    ∀ slot ∈ slots, slot.FullLeaves := by
  induction hslots with
  | nil => exact fun _ h => nomatch h
  | @cons child slot children slots hchild hrest ih =>
    intro other hmem
    rcases List.mem_cons.mp hmem with rfl | hmem
    · exact h child List.mem_cons_self other hchild
    · exact ih (fun later hlater => h later (.tail _ hlater)) other hmem

theorem Attempt.WellFormed.fullLeaves {attempt : Attempt} (h : attempt.WellFormed NoAnswer)
    {capture : Capture} (hconforms : attempt.Conforms capture) : capture.FullLeaves := by
  induction h generalizing capture with
  | literal htext =>
    cases hconforms
    intro text hmem
    rw [List.mem_singleton.mp hmem]
    exact htext
  | char =>
    cases hconforms
    intro text hmem
    rw [List.mem_singleton.mp hmem]
    exact String.singleton_ne_empty
  | sequence hnonempty hordered hchildren ih =>
    cases hconforms with
    | sequence hslots =>
      exact Capture.fullLeaves_group (slots_fullLeaves hslots fun child hmem capture hchild =>
        Matcher.fullLeaves_of_attempt (fun _ => ih child hmem) hchild)
  | alternation hnonempty hordered hchildren ih =>
    cases hconforms with
    | alternation hmem hchild =>
      exact Matcher.fullLeaves_of_attempt (fun _ => ih _ hmem) hchild
  | nested hordered hinner ih =>
    cases hconforms with
    | nested hinner => exact Matcher.fullLeaves_of_attempt (fun _ => ih) hinner
  | custom hanswer => exact hanswer.elim

theorem Matcher.capture_conforms (matcher : Matcher) (input : List Char) (length : Nat)
    (capture : Capture) (h : matcher.outcome input = .matched length capture) :
    matcher.Conforms capture ∧
      (matcher.Built NoAnswer →
        (∀ text ∈ capture.leaves, text ≠ "") ∧ (length = 0 → capture.leaves = [])) := by
  have hconforms := Matcher.conforms_of_attempt matcher.attempt.capturesOnly_conforms
    input length capture h
  refine ⟨hconforms, fun hbuilt => ?_⟩
  have hfull : capture.FullLeaves :=
    Matcher.fullLeaves_of_attempt (fun _ => hbuilt.wellFormed.2.fullLeaves) hconforms
  refine ⟨hfull, ?_⟩
  -- A match of no characters captures the empty text, which no full leaf would leave empty.
  rintro rfl
  have hhonest : matcher.Built Honest := hbuilt.mono fun _ => False.elim
  have htext := Matcher.capturesText_of_attempt hhonest.wellFormed.2.capturesText input 0 capture h
  exact Capture.leaves_eq_nil_of_text hfull htext

def markedSigns : Matcher :=
  ⟨.sequence [⟨.char (.ofPredicate fun c => c == '+' || c == '-'), .optional⟩,
    ⟨.literal "ab" ['a', 'b'], .zeroOrMore⟩], .between 2 3⟩

theorem markedSigns_built : markedSigns.Built NoAnswer := by
  have hsign : Matcher.Built NoAnswer
      ⟨.char (.ofPredicate fun c => c == '+' || c == '-'), .optional⟩ :=
    .predicate (Matcher.build_of_ordered (by decide) rfl)
  have hmarks : Matcher.Built NoAnswer ⟨.literal "ab" ['a', 'b'], .zeroOrMore⟩ :=
    .literal (Matcher.build_of_ordered trivial rfl)
  refine .sequence (fun child hmem => ?_) (Matcher.build_of_ordered (by decide) rfl)
  rcases List.mem_cons.mp hmem with rfl | hmem
  · exact hsign
  · rw [List.mem_singleton.mp hmem]
    exact hmarks

theorem markedSigns_capture_conforms :
    markedSigns.Conforms (.group [.group [.leaf "+", .group [.leaf "ab", .leaf "ab"]],
      .group [.empty, .empty], .group [.empty, .empty]]) ∧
      markedSigns.outcome ['x'] = .matched 0 (.group [.group [.empty, .empty],
        .group [.empty, .empty], .group [.empty, .empty]]) ∧
      Capture.leaves (.group [.group [.empty, .empty], .group [.empty, .empty],
        .group [.empty, .empty]]) = [] := by
  have htaken : markedSigns.outcome ['+', 'a', 'b', 'a', 'b', 'x'] = .matched 5
      (.group [.group [.leaf "+", .group [.leaf "ab", .leaf "ab"]], .group [.empty, .empty],
        .group [.empty, .empty]]) := by cbv
  have hnone : markedSigns.outcome ['x'] = .matched 0 (.group [.group [.empty, .empty],
      .group [.empty, .empty], .group [.empty, .empty]]) := by cbv
  have hconforms := (Matcher.capture_conforms markedSigns _ _ _ htaken).1
  have hleaves := (Matcher.capture_conforms markedSigns _ _ _ hnone).2 markedSigns_built
  exact ⟨hconforms, hnone, hleaves.2 rfl⟩

end GreedyMatch

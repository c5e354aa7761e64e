import GreedyMatch.Matcher.Build
import GreedyMatch.Proofs.Attempts

set_option autoImplicit false

namespace GreedyMatch

variable {Allowed : (List Char → Outcome) → Prop}

def NoAnswer (_ : List Char → Outcome) : Prop := False

/-- The matcher has been built, and callers have written only answers that are allowed. -/
inductive Matcher.Built (Allowed : (List Char → Outcome) → Prop) : Matcher → Prop
  | literal {text quantifier matcher}
      (hbuild : Matcher.literal (m := Id) text quantifier = .ok matcher) : Built Allowed matcher
  | charSet {set quantifier matcher}
      (hbuild : Matcher.charSet (m := Id) set quantifier = .ok matcher) : Built Allowed matcher
  | predicate {accepts quantifier matcher}
      (hbuild : Matcher.predicate (m := Id) accepts quantifier = .ok matcher) :
      Built Allowed matcher
  | sequence {children quantifier matcher} (hchildren : ∀ child ∈ children, Built Allowed child)
      (hbuild : Matcher.sequence (m := Id) children quantifier = .ok matcher) :
      Built Allowed matcher
  | alternation {children quantifier matcher}
      (hchildren : ∀ child ∈ children, Built Allowed child)
      (hbuild : Matcher.alternation (m := Id) children quantifier = .ok matcher) :
      Built Allowed matcher
  | nested {inner quantifier matcher} (hinner : Built Allowed inner)
      (hbuild : Matcher.nested (m := Id) inner quantifier = .ok matcher) : Built Allowed matcher
  | custom {answer quantifier matcher} (hanswer : Allowed answer)
      (hbuild : Matcher.custom (m := Id) answer quantifier = .ok matcher) : Built Allowed matcher

/-- No node below has its counts the wrong way round or nothing to match, and every literal keeps
the characters of its text. -/
inductive Attempt.WellFormed (Allowed : (List Char → Outcome) → Prop) : Attempt → Prop
  | literal {text} (htext : text ≠ "") : WellFormed Allowed (.literal text text.toList)
  | char {test} : WellFormed Allowed (.char test)
  | sequence {children} (hnonempty : children ≠ [])
      (hordered : ∀ child ∈ children, child.quantifier.Ordered)
      (hchildren : ∀ child ∈ children, WellFormed Allowed child.attempt) :
      WellFormed Allowed (.sequence children)
  | alternation {children} (hnonempty : children ≠ [])
      (hordered : ∀ child ∈ children, child.quantifier.Ordered)
      (hchildren : ∀ child ∈ children, WellFormed Allowed child.attempt) :
      WellFormed Allowed (.alternation children)
  | nested {inner} (hordered : inner.quantifier.Ordered)
      (hinner : WellFormed Allowed inner.attempt) : WellFormed Allowed (.nested inner)
  | custom {answer} (hanswer : Allowed answer) : WellFormed Allowed (.custom answer)

theorem Quantifier.validate_eq_ok {quantifier validated : Quantifier}
    (h : quantifier.validate = .ok validated) : quantifier.Ordered ∧ validated = quantifier := by
  by_cases hordered : quantifier.Ordered
  · rw [validate_of_ordered hordered] at h
    cases h
    exact ⟨hordered, rfl⟩
  · obtain ⟨min, max, rfl, herror⟩ := validate_of_not_ordered hordered
    rw [herror] at h
    cases h

theorem Matcher.build_of_ordered {attempt : Attempt} {quantifier : Quantifier}
    (hordered : quantifier.Ordered) (hvacuity : attempt.vacuity? = none) :
    Matcher.build (m := Id) attempt quantifier = .ok ⟨attempt, quantifier⟩ := by
  rw [Matcher.build, Quantifier.validate_of_ordered hordered, hvacuity]
  rfl

theorem Matcher.build_eq_ok {attempt : Attempt} {quantifier : Quantifier} {matcher : Matcher}
    (h : Matcher.build (m := Id) attempt quantifier = .ok matcher) :
    quantifier.Ordered ∧ attempt.vacuity? = none ∧ matcher = ⟨attempt, quantifier⟩ := by
  rw [Matcher.build] at h
  cases hvalidate : quantifier.validate with
  | error error =>
    rw [hvalidate] at h
    cases h
  | ok validated =>
    obtain ⟨hordered, rfl⟩ := Quantifier.validate_eq_ok hvalidate
    rw [hvalidate] at h
    cases hvacuity : attempt.vacuity? with
    | some reason =>
      rw [hvacuity] at h
      cases h
    | none =>
      rw [hvacuity] at h
      cases h
      exact ⟨hordered, rfl, rfl⟩

theorem Attempt.vacuity?_literal {text : String} {chars : List Char}
    (h : (Attempt.literal text chars).vacuity? = none) : text ≠ "" := by
  intro hempty
  rw [Attempt.vacuity?, if_pos hempty] at h
  cases h

theorem Attempt.vacuity?_sequence {children : List Matcher}
    (h : (Attempt.sequence children).vacuity? = none) : children ≠ [] := by
  rintro rfl
  cases h

theorem Attempt.vacuity?_alternation {children : List Matcher}
    (h : (Attempt.alternation children).vacuity? = none) : children ≠ [] := by
  rintro rfl
  cases h

theorem Matcher.Built.wellFormed {matcher : Matcher} (h : matcher.Built Allowed) :
    matcher.quantifier.Ordered ∧ matcher.attempt.WellFormed Allowed := by
  induction h with
  | literal hbuild =>
    obtain ⟨hordered, hvacuity, rfl⟩ := Matcher.build_eq_ok hbuild
    exact ⟨hordered, .literal (Attempt.vacuity?_literal hvacuity)⟩
  | charSet hbuild =>
    obtain ⟨hordered, -, rfl⟩ := Matcher.build_eq_ok hbuild
    exact ⟨hordered, .char⟩
  | predicate hbuild =>
    obtain ⟨hordered, -, rfl⟩ := Matcher.build_eq_ok hbuild
    exact ⟨hordered, .char⟩
  | sequence hchildren hbuild ih =>
    obtain ⟨hordered, hvacuity, rfl⟩ := Matcher.build_eq_ok hbuild
    exact ⟨hordered, .sequence (Attempt.vacuity?_sequence hvacuity)
      (fun child hmem => (ih child hmem).1) fun child hmem => (ih child hmem).2⟩
  | alternation hchildren hbuild ih =>
    obtain ⟨hordered, hvacuity, rfl⟩ := Matcher.build_eq_ok hbuild
    exact ⟨hordered, .alternation (Attempt.vacuity?_alternation hvacuity)
      (fun child hmem => (ih child hmem).1) fun child hmem => (ih child hmem).2⟩
  | nested hinner hbuild ih =>
    obtain ⟨hordered, -, rfl⟩ := Matcher.build_eq_ok hbuild
    exact ⟨hordered, .nested ih.1 ih.2⟩
  | custom hanswer hbuild =>
    obtain ⟨hordered, -, rfl⟩ := Matcher.build_eq_ok hbuild
    exact ⟨hordered, .custom hanswer⟩

theorem Matcher.Built.mono {Other : (List Char → Outcome) → Prop} {matcher : Matcher}
    (h : matcher.Built Allowed) (himp : ∀ answer, Allowed answer → Other answer) :
    matcher.Built Other := by
  induction h with
  | literal hbuild => exact .literal hbuild
  | charSet hbuild => exact .charSet hbuild
  | predicate hbuild => exact .predicate hbuild
  | sequence hchildren hbuild ih => exact .sequence ih hbuild
  | alternation hchildren hbuild ih => exact .alternation ih hbuild
  | nested hinner hbuild ih => exact .nested ih hbuild
  | custom hanswer hbuild => exact .custom (himp _ hanswer) hbuild

end GreedyMatch

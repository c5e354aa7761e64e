import GreedyMatch.Proofs.CapturedText
import GreedyMatch.Proofs.Construction
import GreedyMatch.Proofs.SingleChild

set_option autoImplicit false

namespace GreedyMatch

def AnyAnswer (_ : List Char → Outcome) : Prop := True

/-- The node is the matcher itself or stands somewhere below it, also in a nested matcher. -/
inductive Matcher.HasNode : Matcher → Matcher → Prop
  | self {matcher} : HasNode matcher matcher
  | sequence {children quantifier child node} (hchild : child ∈ children)
      (hnode : HasNode child node) : HasNode ⟨.sequence children, quantifier⟩ node
  | alternation {children quantifier child node} (hchild : child ∈ children)
      (hnode : HasNode child node) : HasNode ⟨.alternation children, quantifier⟩ node
  | nested {inner quantifier node} (hnode : HasNode inner node) :
      HasNode ⟨.nested inner, quantifier⟩ node

structure Matcher.Sound (node : Matcher) : Prop where
  ordered : ∀ min max, node.quantifier = .between min max → min ≤ max
  literal : ∀ text chars, node.attempt = .literal text chars → text ≠ "" ∧ chars = text.toList
  sequence : ∀ children, node.attempt = .sequence children → children ≠ []
  alternation : ∀ children, node.attempt = .alternation children → children ≠ []

inductive Attempt.Vacuous : Attempt → Vacuity → Prop
  | literal {chars} : Vacuous (.literal "" chars) .literal
  | sequence : Vacuous (.sequence []) .sequence
  | alternation : Vacuous (.alternation []) .alternation

/-- How building ends: with the matcher if nothing is wrong at its node, and otherwise refused.
Counts the wrong way round are refused before anything else is looked at, and are not reported. -/
structure Matcher.Ending (attempt : Attempt) (quantifier : Quantifier)
    (built : Logged (Except BuildError Matcher)) : Prop where
  accepts_iff : (∃ matcher, built.value = .ok matcher) ↔ Matcher.Sound ⟨attempt, quantifier⟩
  accepted : Matcher.Sound ⟨attempt, quantifier⟩ → built = ⟨.ok ⟨attempt, quantifier⟩, []⟩
  inverted : ∀ min max, quantifier = .between min max → max < min →
    built = ⟨.error (.quantifier (.minExceedsMax min max)), []⟩
  vacuous : quantifier.Ordered → ∀ reason, attempt.Vacuous reason →
    built = ⟨.error (.vacuous reason), [.rejected reason]⟩

theorem Attempt.vacuity?_eq_some_iff {attempt : Attempt} {reason : Vacuity} :
    attempt.vacuity? = some reason ↔ attempt.Vacuous reason := by
  constructor
  · intro h
    unfold Attempt.vacuity? at h
    split at h
    · split at h
      · rename_i htext
        cases h
        subst htext
        exact .literal
      · cases h
    · cases h
      exact .sequence
    · cases h
      exact .alternation
    · cases h
  · rintro (_ | _ | _) <;> rfl

theorem Quantifier.ordered_iff {quantifier : Quantifier} :
    quantifier.Ordered ↔ ∀ min max, quantifier = .between min max → min ≤ max := by
  cases quantifier <;> simp [Quantifier.Ordered]

section

variable {attempt : Attempt} {quantifier : Quantifier}

theorem Matcher.sound_iff :
    Matcher.Sound ⟨attempt, quantifier⟩ ↔
      quantifier.Ordered ∧ attempt.vacuity? = none ∧
        ∀ text chars, attempt = .literal text chars → chars = text.toList := by
  constructor
  · intro hsound
    refine ⟨Quantifier.ordered_iff.mpr hsound.ordered, ?_,
      fun text chars h => (hsound.literal text chars h).2⟩
    cases hvacuity : attempt.vacuity? with
    | none => rfl
    | some reason =>
      cases Attempt.vacuity?_eq_some_iff.mp hvacuity with
      | literal => exact absurd rfl (hsound.literal _ _ rfl).1
      | sequence => exact absurd rfl (hsound.sequence _ rfl)
      | alternation => exact absurd rfl (hsound.alternation _ rfl)
  · rintro ⟨hordered, hvacuity, hchars⟩
    refine ⟨Quantifier.ordered_iff.mp hordered, fun text chars h => ?_, fun children h => ?_,
      fun children h => ?_⟩
    · obtain rfl : attempt = .literal text chars := h
      exact ⟨Attempt.vacuity?_literal hvacuity, hchars text chars rfl⟩
    · obtain rfl : attempt = .sequence children := h
      exact Attempt.vacuity?_sequence hvacuity
    · obtain rfl : attempt = .alternation children := h
      exact Attempt.vacuity?_alternation hvacuity

theorem Matcher.build_inverted {min max : Nat} (hinverted : max < min) (attempt : Attempt) :
    Matcher.build (m := Logged) attempt (.between min max) =
      ⟨.error (.quantifier (.minExceedsMax min max)), []⟩ := by
  rw [Matcher.build, Quantifier.validate, Quantifier.ofCounts, if_pos hinverted]
  rfl

theorem Matcher.build_vacuous {reason : Vacuity} (hordered : quantifier.Ordered)
    (hvacuous : attempt.Vacuous reason) :
    Matcher.build (m := Logged) attempt quantifier =
      ⟨.error (.vacuous reason), [.rejected reason]⟩ := by
  rw [Matcher.build, Quantifier.validate_of_ordered hordered,
    Attempt.vacuity?_eq_some_iff.mpr hvacuous]
  rfl

theorem Matcher.value_build (attempt : Attempt) (quantifier : Quantifier) :
    (Matcher.build (m := Logged) attempt quantifier).value =
      Matcher.build (m := Id) attempt quantifier := by
  rw [Matcher.build, Matcher.build]
  cases quantifier.validate with
  | error error => rfl
  | ok validated => cases attempt.vacuity? <;> rfl

/-- The checks are those of a sound node, the quantifier before the attempt. -/
theorem Matcher.ending_build
    (hchars : ∀ text chars, attempt = .literal text chars → chars = text.toList) :
    Matcher.Ending attempt quantifier (Matcher.build attempt quantifier) := by
  have haccepted (h : Matcher.Sound ⟨attempt, quantifier⟩) :
      Matcher.build (m := Logged) attempt quantifier = ⟨.ok ⟨attempt, quantifier⟩, []⟩ := by
    obtain ⟨hordered, hvacuity, -⟩ := Matcher.sound_iff.mp h
    exact Matcher.build_eq_pure hordered hvacuity
  refine ⟨⟨fun ⟨matcher, hbuilt⟩ => ?_, fun h => ?_⟩, haccepted, fun min max h hinverted => ?_,
    fun hordered reason => Matcher.build_vacuous hordered⟩
  · rw [Matcher.value_build] at hbuilt
    obtain ⟨hordered, hvacuity, -⟩ := Matcher.build_eq_ok hbuilt
    exact Matcher.sound_iff.mpr ⟨hordered, hvacuity, hchars⟩
  · exact ⟨_, congrArg Logged.value (haccepted h)⟩
  · subst h
    exact Matcher.build_inverted hinverted attempt

end

section

variable {Allowed : (List Char → Outcome) → Prop}

theorem Attempt.WellFormed.sound {attempt : Attempt} (h : attempt.WellFormed Allowed)
    {quantifier : Quantifier} (hordered : quantifier.Ordered) :
    Matcher.Sound ⟨attempt, quantifier⟩ where
  ordered := Quantifier.ordered_iff.mp hordered
  literal text chars hattempt := by
    obtain rfl : attempt = .literal text chars := hattempt
    cases h with
    | literal htext => exact ⟨htext, rfl⟩
  sequence children hattempt := by
    obtain rfl : attempt = .sequence children := hattempt
    cases h with
    | sequence hnonempty => exact hnonempty
  alternation children hattempt := by
    obtain rfl : attempt = .alternation children := hattempt
    cases h with
    | alternation hnonempty => exact hnonempty

theorem Matcher.HasNode.sound {matcher node : Matcher} (hnode : matcher.HasNode node)
    (hordered : matcher.quantifier.Ordered) (h : matcher.attempt.WellFormed Allowed) :
    node.Sound := by
  induction hnode with
  | @self matcher =>
    obtain ⟨attempt, quantifier⟩ := matcher
    exact h.sound hordered
  | sequence hchild hnode ih =>
    cases h with
    | sequence hnonempty hbelow hchildren => exact ih (hbelow _ hchild) (hchildren _ hchild)
  | alternation hchild hnode ih =>
    cases h with
    | alternation hnonempty hbelow hchildren => exact ih (hbelow _ hchild) (hchildren _ hchild)
  | nested hnode ih =>
    cases h with
    | nested hbelow hinner => exact ih hbelow hinner

end

theorem Matcher.built_of_sound_nodes {matcher : Matcher}
    (h : ∀ node, matcher.HasNode node → node.Sound) : matcher.Built AnyAnswer := by
  induction matcher with
  | literal text chars quantifier =>
    obtain ⟨hordered, hvacuity, hchars⟩ := Matcher.sound_iff.mp (h _ .self)
    obtain rfl := hchars text chars rfl
    exact .literal (Matcher.build_of_ordered hordered hvacuity)
  | char test quantifier =>
    obtain ⟨hordered, hvacuity, -⟩ := Matcher.sound_iff.mp (h _ .self)
    have hbuild := Matcher.build_of_ordered hordered hvacuity
    cases test with
    | ofSet set => exact .charSet hbuild
    | ofPredicate accepts => exact .predicate hbuild
  | sequence children quantifier ih =>
    obtain ⟨hordered, hvacuity, -⟩ := Matcher.sound_iff.mp (h _ .self)
    refine .sequence (fun child hmem => ?_) (Matcher.build_of_ordered hordered hvacuity)
    exact ih child hmem fun node hnode => h node (.sequence hmem hnode)
  | alternation children quantifier ih =>
    obtain ⟨hordered, hvacuity, -⟩ := Matcher.sound_iff.mp (h _ .self)
    refine .alternation (fun child hmem => ?_) (Matcher.build_of_ordered hordered hvacuity)
    exact ih child hmem fun node hnode => h node (.alternation hmem hnode)
  | nested inner quantifier ih =>
    obtain ⟨hordered, hvacuity, -⟩ := Matcher.sound_iff.mp (h _ .self)
    refine .nested (ih fun node hnode => ?_) (Matcher.build_of_ordered hordered hvacuity)
    exact h node (.nested hnode)
  | custom answer quantifier =>
    obtain ⟨hordered, hvacuity, -⟩ := Matcher.sound_iff.mp (h _ .self)
    exact .custom trivial (Matcher.build_of_ordered hordered hvacuity)

theorem Matcher.built_iff (matcher : Matcher) :
    matcher.Built AnyAnswer ↔ ∀ node, matcher.HasNode node → node.Sound := by
  refine ⟨fun hbuilt node hnode => ?_, Matcher.built_of_sound_nodes⟩
  obtain ⟨hordered, hformed⟩ := hbuilt.wellFormed
  exact hnode.sound hordered hformed

/-- A matcher can be built exactly when nothing is wrong at any of its nodes, and each way of
building refuses exactly what would be wrong at the new node. -/
theorem Matcher.built_iff_sound_nodes :
    (∀ matcher : Matcher,
      matcher.Built AnyAnswer ↔ ∀ node, matcher.HasNode node → node.Sound) ∧
    (∀ quantifier : Quantifier,
      (∀ text, Matcher.Ending (.literal text text.toList) quantifier
        (Matcher.literal text quantifier)) ∧
      (∀ set, Matcher.Ending (.char (.ofSet set)) quantifier (Matcher.charSet set quantifier)) ∧
      (∀ accepts, Matcher.Ending (.char (.ofPredicate accepts)) quantifier
        (Matcher.predicate accepts quantifier)) ∧
      (∀ answer, Matcher.Ending (.custom answer) quantifier (Matcher.custom answer quantifier)) ∧
      (∀ inner, Matcher.Ending (.nested inner) quantifier (Matcher.nested inner quantifier)) ∧
      (∀ children, Matcher.Ending (.sequence children) quantifier
        (Matcher.sequence children quantifier)) ∧
      ∀ children, Matcher.Ending (.alternation children) quantifier
        (Matcher.alternation children quantifier)) ∧
    ∀ reason, (Event.rejected reason).level = .debug := by
  refine ⟨Matcher.built_iff, fun quantifier => ⟨fun text => Matcher.ending_build ?_,
    fun set => Matcher.ending_build ?_, fun accepts => Matcher.ending_build ?_,
    fun answer => Matcher.ending_build ?_, fun inner => Matcher.ending_build ?_,
    fun children => Matcher.ending_build ?_, fun children => Matcher.ending_build ?_⟩,
    fun reason => rfl⟩
  · rintro own chars ⟨⟩
    rfl
  all_goals rintro own chars ⟨⟩

/-- A wrong quantifier hides that there is nothing to match; without it that is reported. Nothing
can be built around a sequence of no children. -/
theorem emptyText_built_iff_sound_nodes :
    (Matcher.literal (m := Logged) "" (.between 2 1) =
        ⟨.error (.quantifier (.minExceedsMax 2 1)), []⟩) ∧
      (Matcher.literal (m := Logged) "" (.between 1 2) =
        ⟨.error (.vacuous .literal), [.rejected .literal]⟩) ∧
      (nestedMarks.Built AnyAnswer ∧ nestedMarks.HasNode ⟨.literal "é!" ['é', '!'], .optional⟩ ∧
        Matcher.Sound ⟨.literal "é!" ['é', '!'], .optional⟩) ∧
      ¬ Matcher.Built AnyAnswer ⟨.nested ⟨.sequence [], .oneOrMore⟩, .exactly 1⟩ := by
  obtain ⟨hnodes, hways, -⟩ := Matcher.built_iff_sound_nodes
  have hbuilt : nestedMarks.Built AnyAnswer := nestedMarks_built.mono fun _ => False.elim
  have hnode : nestedMarks.HasNode ⟨.literal "é!" ['é', '!'], .optional⟩ := .nested .self
  refine ⟨((hways (.between 2 1)).1 "").inverted 2 1 rfl (by decide),
    ((hways (.between 1 2)).1 "").vacuous (by decide) .literal .literal,
    ⟨hbuilt, hnode, (hnodes nestedMarks).mp hbuilt _ hnode⟩, fun hempty => ?_⟩
  exact ((hnodes _).mp hempty _ (.nested .self)).sequence [] rfl rfl

end GreedyMatch

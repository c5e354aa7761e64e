import GreedyMatch.Proofs.ReadingErrors

set_option autoImplicit false

namespace GreedyMatch.CharSet

/-- Between the two texts no `^`, `]`, `:` or `-` comes to mean something else than in its own list.
A dash that is a whole text stands for itself on either side. -/
structure Seam (first second : List Char) : Prop where
  plainFirst : first.head? ≠ some '^'
  plainSecond : second.head? ≠ some '^'
  noBracket : second.head? ≠ some ']'
  noColon : second.head? ≠ some ':'
  noDashBefore : first = ['-'] ∨ first.getLast? ≠ some '-'
  noDashAfter : second = ['-'] ∨ second.head? ≠ some '-'

theorem SpellsItem.ne_nil {text : List Char} {item : Item} (h : SpellsItem text item) :
    text ≠ [] := by
  cases h with
  | simple hsimple =>
    obtain ⟨c, tail, rfl, -⟩ := hsimple.exists_cons
    exact List.cons_ne_nil c tail
  | range hlo hhi hlast hle => simp

theorem SpellsList.exists_concat {leading : Bool} {text : List Char} {items : List Item}
    (h : SpellsList leading text items) : ∃ body, text = body ++ [']'] := by
  induction h with
  | close => exact ⟨[], rfl⟩
  | @item leading own item rest items hitem hstart hends hrest ih =>
    obtain ⟨body, rfl⟩ := ih
    exact ⟨own ++ body, by simp⟩

/-- A bracket alone would have to be the first item and the end of the list. -/
theorem SpellsList.ne_close {text : List Char} {items : List Item}
    (h : SpellsList true text items) : text ≠ [']'] := by
  cases h with
  | item hitem hstart hends hrest =>
    obtain ⟨body, rfl⟩ := hrest.exists_concat
    intro hclose
    rw [← List.append_assoc] at hclose
    have hnone : _ ++ body = [] := List.append_cancel_right hclose
    exact hitem.ne_nil (List.append_eq_nil_iff.mp hnone).1

theorem SpellsList.any_leading {text : List Char} {items : List Item}
    (h : SpellsList true text items) (hopen : text.head? ≠ some ']') :
    SpellsList false text items := by
  cases h with
  | item hitem hstart hends hrest =>
    rw [hitem.head?_append] at hopen
    exact .item hitem (.inr hopen) hends hrest

theorem EndsBefore.of_append {own rest : List Char} {item : Item} (more : List Char)
    (h : EndsBefore own item (rest ++ more)) : EndsBefore own item rest := by
  constructor
  · intro hbracket hcolon
    exact h.1 hbracket (by simp [hcolon])
  · intro c next tail hsingle hrest
    exact h.2 c next (tail ++ more) hsingle (by simp [hrest])

theorem Seam.endsBefore {first second : List Char} (h : Seam first second) (hsecond : second ≠ [])
    (own : List Char) (item : Item) : EndsBefore own item (second ++ [']']) := by
  obtain ⟨c, tail, rfl⟩ := List.exists_cons_of_ne_nil hsecond
  refine ⟨fun _ => h.noColon, fun _ next after _ hdash => ?_⟩
  rcases h.noDashAfter with hwhole | hnone
  · cases hwhole
    cases hdash
    rfl
  · obtain ⟨rfl, -⟩ := List.cons.inj hdash
    exact absurd rfl hnone

/-- The items of the second list take the place of the bracket that closes the first. -/
theorem SpellsList.join {leading : Bool} {text first more : List Char} {items others : List Item}
    (h : SpellsList leading text items) (htext : text = first ++ [']'])
    (hdash : first = ['-'] ∨ first.getLast? ≠ some '-')
    (hends : ∀ own item, EndsBefore own item more) (hmore : SpellsList false more others) :
    SpellsList leading (first ++ more) (items ++ others) := by
  induction h generalizing first with
  | close =>
    obtain rfl : first = [] := by simpa using htext.symm
    exact hmore
  | @item leading own item rest items hitem hstart hown hrest ih =>
    obtain ⟨later, rfl⟩ := hrest.exists_concat
    rw [← List.append_assoc] at htext
    obtain rfl : own ++ later = first := List.append_cancel_right htext
    -- A dash at the end would be the whole text, but the first item comes before it.
    have hlast : later.getLast? ≠ some '-' := by
      intro hlater
      rcases hdash with hwhole | hnone
      · obtain ⟨init, rfl⟩ := List.getLast?_eq_some_iff.mp hlater
        rw [← List.append_assoc] at hwhole
        have hnone : own ++ init = [] := List.append_cancel_right hwhole
        exact hitem.ne_nil (List.append_eq_nil_iff.mp hnone).1
      · exact hnone (by simp [hlater])
    have hnext : EndsBefore own item (later ++ more) := by
      by_cases hlater : later = []
      · subst hlater
        exact hends own item
      · have hopen : later ≠ ['-'] := by
          rintro rfl
          exact hlast rfl
        exact (hown.of_append [']']).append hlater hopen more
    rw [List.append_assoc]
    exact .item hitem hstart hnext (ih rfl (.inr hlast))

theorem head?_append_ne {text more : List Char} {c : Char} (htext : text.head? ≠ some c)
    (hmore : more.head? ≠ some c) : (text ++ more).head? ≠ some c := by
  cases text with
  | nil => exact hmore
  | cons own tail => exact htext

theorem Seam.spellsList {first second : List Char} {items others : List Item}
    (h : Seam first second) (hfirst : SpellsList true (first ++ [']']) items)
    (hsecond : SpellsList true (second ++ [']']) others) :
    SpellsList true (first ++ (second ++ [']'])) (items ++ others) := by
  have hnonempty : second ≠ [] := by
    rintro rfl
    exact hsecond.ne_close rfl
  have hhead : (second ++ [']']).head? ≠ some ']' := by
    obtain ⟨c, tail, rfl⟩ := List.exists_cons_of_ne_nil hnonempty
    exact h.noBracket
  exact hfirst.join rfl h.noDashBefore (h.endsBefore hnonempty) (hsecond.any_leading hhead)

theorem readChars_list_eq_ok_iff {text : List Char} {set : CharSet}
    (hcaret : text.head? ≠ some '^') :
    readChars ('[' :: text) = .ok set ↔
      ∃ items, SpellsList true text items ∧ set = ⟨false, items⟩ := by
  rw [readChars_eq_ok_iff, stripSlashes_of_head_ne (by simp), ← readList_eq_ok_iff,
    ← readBracket_of_head_ne hcaret]
  rfl

theorem readChars_negatedList_eq_ok_iff {text : List Char} {set : CharSet} :
    readChars ('[' :: '^' :: text) = .ok set ↔
      ∃ items, SpellsList true text items ∧ set = ⟨true, items⟩ := by
  rw [readChars_eq_ok_iff, stripSlashes_of_head_ne (by simp), ← readList_eq_ok_iff]
  rfl

theorem Seam.exists_readChars {first second : List Char} (h : Seam first second)
    {firstSet secondSet : CharSet} (hfirst : readChars ('[' :: (first ++ [']'])) = .ok firstSet)
    (hsecond : readChars ('[' :: (second ++ [']'])) = .ok secondSet) :
    ∃ items others, firstSet = ⟨false, items⟩ ∧ secondSet = ⟨false, others⟩ ∧
      readChars ('[' :: (first ++ (second ++ [']']))) = .ok ⟨false, items ++ others⟩ ∧
      readChars ('[' :: '^' :: (first ++ (second ++ [']']))) = .ok ⟨true, items ++ others⟩ := by
  have hclose : [']'].head? ≠ some '^' := by decide
  have hsecondCaret := head?_append_ne h.plainSecond hclose
  rw [readChars_list_eq_ok_iff (head?_append_ne h.plainFirst hclose)] at hfirst
  rw [readChars_list_eq_ok_iff hsecondCaret] at hsecond
  obtain ⟨items, hitems, rfl⟩ := hfirst
  obtain ⟨others, hothers, rfl⟩ := hsecond
  have hlist := h.spellsList hitems hothers
  have hcaret := head?_append_ne h.plainFirst hsecondCaret
  exact ⟨items, others, rfl, rfl, (readChars_list_eq_ok_iff hcaret).mpr ⟨_, hlist, rfl⟩,
    readChars_negatedList_eq_ok_iff.mpr ⟨_, hlist, rfl⟩⟩

/-- Both lists in one pair of brackets have the items of both, and a set of these items holds what
either of the sets holds. Negated, it holds what neither does. -/
theorem read_union (first second : String) (hseam : Seam first.toList second.toList)
    (firstSet secondSet : CharSet) (hfirst : read ("[" ++ first ++ "]") = .ok firstSet)
    (hsecond : read ("[" ++ second ++ "]") = .ok secondSet) :
    read ("[" ++ first ++ second ++ "]") = .ok ⟨false, firstSet.items ++ secondSet.items⟩ ∧
      read ("[^" ++ first ++ second ++ "]") = .ok ⟨true, firstSet.items ++ secondSet.items⟩ ∧
      ∀ c, (accepts ⟨false, firstSet.items ++ secondSet.items⟩ c = true ↔
          firstSet.accepts c = true ∨ secondSet.accepts c = true) ∧
        (accepts ⟨true, firstSet.items ++ secondSet.items⟩ c = true ↔
          ¬ (firstSet.accepts c = true ∨ secondSet.accepts c = true)) := by
  simp only [read, String.toList_append, List.append_assoc] at hfirst hsecond ⊢
  obtain ⟨items, others, rfl, rfl, hread, hnegated⟩ := hseam.exists_readChars hfirst hsecond
  refine ⟨hread, hnegated, fun c => ?_⟩
  have hunion := accepts_ofItems_append items others c
  have hnone := accepts_negate (ofItems (items ++ others)) c
  rw [hunion] at hnone
  simp only [ofItems, negate, Bool.not_false] at hunion hnone
  simp only [hunion, hnone, Bool.or_eq_true, Bool.not_eq_true', Bool.or_eq_false_iff, not_or,
    Bool.not_eq_true, true_and, iff_self]

/-- The bracket at the start of the first list and the one at its end stand for themselves, and so
does the dash, which is all of the second. -/
theorem bracketsAndDash_read_union :
    Seam "]-_[".toList "-".toList ∧
      read "[]-_[]" = .ok ⟨false, [.range ']' '_', .single '[']⟩ ∧
      read "[-]" = .ok ⟨false, [.single '-']⟩ ∧
      read "[]-_[-]" = .ok ⟨false, [.range ']' '_', .single '[', .single '-']⟩ ∧
      read "[^]-_[-]" = .ok ⟨true, [.range ']' '_', .single '[', .single '-']⟩ ∧
      accepts ⟨false, [.range ']' '_', .single '[', .single '-']⟩ '^' = true := by
  have hseam : Seam "]-_[".toList "-".toList :=
    ⟨by decide, by decide, by decide, by decide, by decide, by decide⟩
  have hfirst : read "[]-_[]" = .ok ⟨false, [.range ']' '_', .single '[']⟩ := by cbv
  have hsecond : read "[-]" = .ok ⟨false, [.single '-']⟩ := by cbv
  obtain ⟨hread, hnegated, haccepts⟩ := read_union "]-_[" "-" hseam _ _ hfirst hsecond
  exact ⟨hseam, hfirst, hsecond, hread, hnegated, (haccepts '^').1.mpr (.inl (by decide))⟩

end GreedyMatch.CharSet

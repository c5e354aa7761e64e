import GreedyMatch.Proofs.SetReading

set_option autoImplicit false

namespace GreedyMatch

namespace CharSet

def writtenChar (c : Char) : List Char :=
  if Text.isPunctuation c = true then ['\\', c] else [c]

def Item.written : Item → List Char
  | .single c => writtenChar c
  | .range lo hi => writtenChar lo ++ '-' :: writtenChar hi
  | .named category => '[' :: ':' :: category.name.toList ++ [':', ']']

def written (set : CharSet) : List Char :=
  '[' :: (if set.negated then ['^'] else []) ++ set.items.flatMap Item.written ++ [']']

def dot : CharSet := ⟨false, [.named .any]⟩

/-- There are items, no range has its ends the wrong way round, and the category without a name
comes from a dot only. -/
structure Readable (set : CharSet) : Prop where
  nonempty : set.items ≠ []
  ordered : ∀ lo hi, .range lo hi ∈ set.items → lo ≤ hi
  named : .named .any ∉ set.items ∨ set = dot

def Item.Listable : Item → Prop
  | .single _ => True
  | .range lo hi => lo ≤ hi
  | .named category => category ≠ .any

instance : DecidablePred Item.Listable
  | .single _ => isTrue trivial
  | .range lo hi => inferInstanceAs (Decidable (lo ≤ hi))
  | .named category => inferInstanceAs (Decidable (category ≠ .any))

theorem readable_of_listable {negated : Bool} {items : List Item} (hnonempty : items ≠ [])
    (h : ∀ item ∈ items, item.Listable) : Readable ⟨negated, items⟩ where
  nonempty := hnonempty
  ordered lo hi hmem := h (.range lo hi) hmem
  named := .inl fun hmem => h (.named .any) hmem rfl

theorem Readable.listable {set : CharSet} (h : set.Readable) (hdot : set ≠ dot) :
    ∀ item ∈ set.items, item.Listable := by
  intro item hmem
  cases item with
  | single c => trivial
  | range lo hi => exact h.ordered lo hi hmem
  | named category =>
    rintro rfl
    exact h.named.resolve_right hdot hmem

theorem Escapes.listable {letter : Char} {item : Item} (h : Escapes letter (.item item)) :
    item.Listable := by
  cases h <;> simp [Item.Listable]

theorem Escapes.ne_any {letter own : Char} {category : Category}
    (h : Escapes letter (.negated category own)) : category ≠ .any := by
  cases h <;> decide

theorem SpellsItem.listable {text : List Char} {item : Item} (h : SpellsItem text item) :
    item.Listable := by
  cases h with
  | simple hsimple =>
    cases hsimple with
    | raw hraw => trivial
    | escaped hescapes => exact hescapes.listable
    | named hname => exact hname
  | range hlo hhi hlast hle => exact hle

theorem SpellsList.listable {leading : Bool} {text : List Char} {items : List Item}
    (h : SpellsList leading text items) : ∀ item ∈ items, item.Listable := by
  induction h with
  | close => exact fun _ h => nomatch h
  | item hitem hstart hends hrest ih => exact List.forall_mem_cons.mpr ⟨hitem.listable, ih⟩

theorem SpellsList.ne_nil {text : List Char} {items : List Item} (h : SpellsList true text items) :
    items ≠ [] := by
  cases h
  exact List.cons_ne_nil _ _

theorem SpellsSet.readable {body : List Char} {set : CharSet} (h : SpellsSet body set) :
    set.Readable := by
  cases h with
  | any => exact ⟨List.cons_ne_nil _ _, by simp, .inr rfl⟩
  | escaped hescapes =>
    exact readable_of_listable (List.cons_ne_nil _ _)
      (List.forall_mem_singleton.mpr hescapes.listable)
  | negated hescapes =>
    exact readable_of_listable (List.cons_ne_nil _ _) (List.forall_mem_singleton.mpr hescapes.ne_any)
  | single =>
    exact readable_of_listable (List.cons_ne_nil _ _) (List.forall_mem_singleton.mpr trivial)
  | list hlist hcaret => exact readable_of_listable hlist.ne_nil hlist.listable
  | negatedList hlist => exact readable_of_listable hlist.ne_nil hlist.listable

theorem spellsSimple_writtenChar (c : Char) : SpellsSimple (writtenChar c) (.single c) := by
  unfold writtenChar
  split
  · rename_i hmark
    exact .escaped (.itself (.inl hmark))
  · rename_i hmark
    refine .raw ?_
    rintro rfl
    exact hmark (by decide)

def Opens (c : Char) : Prop := c = '\\' ∨ c = '[' ∨ Text.isPunctuation c = false

instance : DecidablePred Opens := fun c =>
  inferInstanceAs (Decidable (c = '\\' ∨ c = '[' ∨ Text.isPunctuation c = false))

theorem exists_writtenChar (c : Char) : ∃ start tail, writtenChar c = start :: tail ∧ Opens start := by
  unfold writtenChar
  split
  · exact ⟨'\\', [c], rfl, .inl rfl⟩
  · rename_i hmark
    exact ⟨c, [], rfl, .inr (.inr (by simpa using hmark))⟩

theorem Item.exists_written (item : Item) :
    ∃ start tail, item.written = start :: tail ∧ Opens start := by
  cases item with
  | single c => exact exists_writtenChar c
  | range lo hi =>
    obtain ⟨start, tail, hwritten, hopens⟩ := exists_writtenChar lo
    exact ⟨start, tail ++ '-' :: writtenChar hi, by rw [Item.written, hwritten, List.cons_append],
      hopens⟩
  | named category => exact ⟨'[', _, rfl, .inr (.inl rfl)⟩

theorem Item.Listable.spellsItem {item : Item} (h : item.Listable) :
    SpellsItem item.written item := by
  cases item with
  | single c => exact .simple (spellsSimple_writtenChar c)
  | range lo hi =>
    refine .range (spellsSimple_writtenChar lo) (spellsSimple_writtenChar hi) ?_ h
    intro hlast
    obtain ⟨start, tail, hwritten, hopens⟩ := exists_writtenChar hi
    rw [hwritten] at hlast
    cases hlast
    exact absurd hopens (by decide)
  | named category => exact .simple (.named h)

theorem opens_of_head_written {items : List Item} {c : Char}
    (h : (items.flatMap Item.written ++ [']']).head? = some c) : c = ']' ∨ Opens c := by
  cases items with
  | nil =>
    cases h
    exact .inl rfl
  | cons item items =>
    obtain ⟨start, tail, hwritten, hopens⟩ := item.exists_written
    rw [List.flatMap_cons, hwritten] at h
    cases h
    exact .inr hopens

theorem spellsList_written {leading : Bool} {items : List Item}
    (hlistable : ∀ item ∈ items, item.Listable) (hitems : leading = false ∨ items ≠ []) :
    SpellsList leading (items.flatMap Item.written ++ [']']) items := by
  induction items generalizing leading with
  | nil =>
    obtain rfl := hitems.resolve_right (· rfl)
    exact .close
  | cons item items ih =>
    obtain ⟨hitem, hlater⟩ := List.forall_mem_cons.mp hlistable
    -- What follows starts with neither a colon nor a dash, so the item cannot go on.
    rw [List.flatMap_cons, List.append_assoc]
    refine .item hitem.spellsItem (.inr ?_) ⟨fun _ hcolon => ?_, fun c next tail _ hdash => ?_⟩
      (ih hlater (.inl rfl))
    · obtain ⟨start, tail, hwritten, hopens⟩ := item.exists_written
      rw [hwritten]
      intro hstart
      cases hstart
      exact absurd hopens (by decide)
    · exact absurd (opens_of_head_written hcolon) (by decide)
    · have hhead : (items.flatMap Item.written ++ [']']).head? = some '-' := by rw [hdash]; rfl
      exact absurd (opens_of_head_written hhead) (by decide)

theorem Readable.spellsSet_written {set : CharSet} (h : set.Readable) (hdot : set ≠ dot) :
    SpellsSet set.written set := by
  have hlist : SpellsList true (set.items.flatMap Item.written ++ [']']) set.items :=
    spellsList_written (h.listable hdot) (.inr h.nonempty)
  obtain ⟨negated, items⟩ := set
  cases negated with
  | true => exact .negatedList hlist
  | false =>
    refine .list hlist fun hcaret => ?_
    exact absurd (opens_of_head_written hcaret) (by decide)

/-- What can be read is what `Readable` says, and the written form of a set is read as that set. -/
theorem exists_read_eq_ok_iff :
    (∀ set : CharSet, (∃ text, read text = .ok set) ↔ set.Readable) ∧
      ∀ set : CharSet, set.Readable → set ≠ dot → read (String.ofList set.written) = .ok set := by
  have hwritten : ∀ set : CharSet, set.Readable → set ≠ dot →
      read (String.ofList set.written) = .ok set := by
    intro set hreadable hdot
    rw [read, String.toList_ofList, readChars_eq_ok_iff]
    exact readSet_complete (hreadable.spellsSet_written hdot)
  refine ⟨fun set => ⟨?_, fun hreadable => ?_⟩, hwritten⟩
  · rintro ⟨text, hread⟩
    rw [read, readChars_eq_ok_iff] at hread
    exact (readSet_sound hread).readable
  · by_cases hdot : set = dot
    · exact ⟨".", hdot ▸ by cbv⟩
    · exact ⟨_, hwritten set hreadable hdot⟩

def mixedSet : CharSet :=
  ⟨true, [.single ']', .single '^', .range '*' '-', .named .alpha, .single '-', .range '0' 'é',
    .single '\n', .named .word, .range '[' ']']⟩

theorem mixedSet_readable : mixedSet.Readable :=
  readable_of_listable (List.cons_ne_nil _ _) (by decide)

theorem read_mixedSet_written :
    mixedSet.Readable ∧ mixedSet ≠ dot ∧
      read "[^\\]\\^\\*-\\-[:alpha:]\\-0-é\n[:word:]\\[-\\]]" = .ok mixedSet := by
  have hdot : mixedSet ≠ dot := by decide
  have hread := exists_read_eq_ok_iff.2 mixedSet mixedSet_readable hdot
  have htext : String.ofList mixedSet.written =
      "[^\\]\\^\\*-\\-[:alpha:]\\-0-é\n[:word:]\\[-\\]]" := by decide
  rw [htext] at hread
  exact ⟨mixedSet_readable, hdot, hread⟩

end CharSet

end GreedyMatch

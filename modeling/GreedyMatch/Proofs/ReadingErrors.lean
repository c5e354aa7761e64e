import GreedyMatch.Proofs.SetReading

set_option autoImplicit false

namespace GreedyMatch.CharSet

/-- The error is about what stands in the text, not about what is missing at its end. -/
def Error.IsFinal : Error → Prop
  | .unknownEscape _ | .unknownName _ | .invalidRange _ _ | .invalidRangeEnd
  | .negatedEscapeInBracket _ | .trailing _ => True
  | .empty | .unclosedBracket | .unclosedName | .danglingEscape => False

/-- More text behind `text` is only added to what is left, and it changes no final error. -/
structure Steady {α : Type} (reader : List Char → Except Error (α × List Char))
    (text : List Char) : Prop where
  ok : ∀ {a rest} more, reader text = .ok (a, rest) →
    reader (text ++ more) = .ok (a, rest ++ more)
  error : ∀ {e} more, reader text = .error e → e.IsFinal → reader (text ++ more) = .error e

section

variable {α : Type} {reader : List Char → Except Error (α × List Char)} {text : List Char}

theorem steady_of_ok {a : α} {rest : List Char}
    (h : ∀ more, reader (text ++ more) = .ok (a, rest ++ more)) : Steady reader text := by
  have hown := h []
  rw [List.append_nil, List.append_nil] at hown
  constructor
  · intro other left more hok
    cases hown.symm.trans hok
    exact h more
  · intro e more herror
    cases hown.symm.trans herror

theorem steady_of_not_final {e : Error} (h : reader text = .error e) (hfinal : ¬ e.IsFinal) :
    Steady reader text := by
  constructor
  · intro other left more hok
    cases h.symm.trans hok
  · intro other more herror hother
    cases h.symm.trans herror
    exact absurd hother hfinal

theorem Steady.of_eq {other : List Char → Except Error (α × List Char)} {tail : List Char}
    (h : Steady other tail) (heq : ∀ more, reader (text ++ more) = other (tail ++ more)) :
    Steady reader text := by
  have hown := heq []
  rw [List.append_nil, List.append_nil] at hown
  constructor
  · intro a rest more hok
    rw [heq]
    exact h.ok more (hown.symm.trans hok)
  · intro e more herror hfinal
    rw [heq]
    exact h.error more (hown.symm.trans herror) hfinal

end

theorem bind_eq_error_iff {α β : Type} {step : Except Error α} {next : α → Except Error β}
    {e : Error} :
    (step >>= next) = .error e ↔ step = .error e ∨ ∃ a, step = .ok a ∧ next a = .error e := by
  cases step with
  | error own => simp [bind, Except.bind]
  | ok a => simp [bind, Except.bind]

theorem steady_readEscape (text : List Char) : Steady readEscape text where
  ok more h := by
    obtain ⟨c, rfl, hescapes⟩ := readEscape_eq_ok_iff.mp h
    exact readEscape_eq_ok_iff.mpr ⟨c, rfl, hescapes⟩
  error more h hfinal := by
    cases text with
    | nil =>
      cases h
      exact hfinal.elim
    | cons c tail =>
      rcases bind_eq_error_iff.mp h with hunknown | ⟨escape, -, hpair⟩
      · exact bind_eq_error_iff.mpr (.inl hunknown)
      · cases hpair

theorem steady_readName (text : List Char) : Steady readName text where
  ok more h := by
    obtain ⟨hname, rfl⟩ := readName_eq_ok_iff.mp h
    exact readName_eq_ok_iff.mpr ⟨hname, by simp⟩
  error more h hfinal := by
    unfold readName at h
    split at h
    · rename_i rest hdrop
      have hsplit := congrArg List.length
        (List.takeWhile_append_dropWhile (p := (· != ':')) (l := text))
      have hcolon : (text.takeWhile (· != ':')).length ≠ text.length := by
        rw [List.length_append, hdrop, List.length_cons] at hsplit
        omega
      have hname : (text ++ more).takeWhile (· != ':') = text.takeWhile (· != ':') := by
        rw [List.takeWhile_append, if_neg hcolon]
      have hrest : (text ++ more).dropWhile (· != ':') = ':' :: ']' :: (rest ++ more) := by
        rw [List.dropWhile_append, hdrop]
        rfl
      rcases bind_eq_error_iff.mp h with hunknown | ⟨category, -, hpair⟩
      · unfold readName
        rw [hrest, hname]
        exact bind_eq_error_iff.mpr (.inl hunknown)
      · cases hpair
    · cases h
      exact hfinal.elim

theorem steady_readRangeEnd (text : List Char) : Steady readRangeEnd text where
  ok more h := by
    obtain ⟨own, rfl, hspells⟩ := readRangeEnd_eq_ok_iff.mp h
    exact readRangeEnd_eq_ok_iff.mpr ⟨own, List.append_assoc .., hspells⟩
  error more h hfinal := by
    unfold readRangeEnd at h
    split at h
    · cases h
      exact hfinal.elim
    · rename_i tail
      rcases bind_eq_error_iff.mp h with hescape | ⟨⟨escape, left⟩, hescape, hend⟩
      · exact bind_eq_error_iff.mpr (.inl ((steady_readEscape tail).error more hescape hfinal))
      · refine bind_eq_error_iff.mpr (.inr ⟨_, (steady_readEscape tail).ok more hescape, ?_⟩)
        -- Whether the escape is a single character does not depend on what is left.
        split at hend
        · cases hend
        · rename_i hother
          split
          · rename_i heq
            cases heq
            exact absurd rfl (hother _ _)
          · exact hend
    · cases h

theorem readSimpleItem_append_of_error {text : List Char} {e : Error} (more : List Char)
    (h : readSimpleItem text = .error e) (hfinal : e.IsFinal) :
    readSimpleItem (text ++ more) = .error e := by
  unfold readSimpleItem at h
  split at h
  · cases h
    exact hfinal.elim
  · rename_i tail
    rcases bind_eq_error_iff.mp h with hname | ⟨found, -, hpair⟩
    · exact bind_eq_error_iff.mpr (.inl ((steady_readName tail).error more hname hfinal))
    · cases hpair
  · rename_i tail
    rcases bind_eq_error_iff.mp h with hescape | ⟨⟨escape, left⟩, hescape, hpair⟩
    · exact bind_eq_error_iff.mpr (.inl ((steady_readEscape tail).error more hescape hfinal))
    · refine bind_eq_error_iff.mpr (.inr ⟨_, (steady_readEscape tail).ok more hescape, ?_⟩)
      cases escape with
      | item item => cases hpair
      | negated category letter => exact hpair
  · cases h

/-- Only a `[` at the end of the text can become the start of a name. -/
theorem readSimpleItem_append {text rest : List Char} {item : Item} (more : List Char)
    (h : readSimpleItem text = .ok (item, rest)) (hrest : rest ≠ []) :
    readSimpleItem (text ++ more) = .ok (item, rest ++ more) := by
  obtain ⟨own, rfl, hspells, hname⟩ := readSimpleItem_sound h
  obtain ⟨c, rest, rfl⟩ := List.exists_cons_of_ne_nil hrest
  rw [List.append_assoc]
  exact readSimpleItem_complete hspells hname

theorem extendItem_append_of_error {item : Item} {text : List Char} {e : Error} (more : List Char)
    (h : extendItem item text = .error e) (hfinal : e.IsFinal) :
    text ≠ [] ∧ extendItem item (text ++ more) = .error e := by
  unfold extendItem at h
  split at h
  · rename_i lo tail htail
    obtain ⟨next, after, rfl, hnext, rfl⟩ := rangeTail_eq_some_iff.mp htail
    have hmore : rangeTail? ('-' :: next :: after ++ more) = some (next :: after ++ more) :=
      rangeTail_eq_some_iff.mpr ⟨next, after ++ more, rfl, hnext, rfl⟩
    refine ⟨List.cons_ne_nil _ _, ?_⟩
    simp only [extendItem, hmore]
    rcases bind_eq_error_iff.mp h with hend | ⟨⟨hi, left⟩, hend, hrange⟩
    · exact bind_eq_error_iff.mpr (.inl ((steady_readRangeEnd _).error more hend hfinal))
    · refine bind_eq_error_iff.mpr (.inr ⟨_, (steady_readRangeEnd _).ok more hend, ?_⟩)
      by_cases hlt : hi < lo
      · simp only [if_pos hlt] at hrange ⊢
        exact hrange
      · simp only [if_neg hlt] at hrange
        cases hrange
  · cases h

theorem readItem_append_of_error {text : List Char} {e : Error} (more : List Char)
    (h : readItem text = .error e) (hfinal : e.IsFinal) :
    readItem (text ++ more) = .error e := by
  rcases bind_eq_error_iff.mp h with hsimple | ⟨⟨item, rest⟩, hsimple, hextend⟩
  · exact bind_eq_error_iff.mpr (.inl (readSimpleItem_append_of_error more hsimple hfinal))
  · obtain ⟨hrest, hmore⟩ := extendItem_append_of_error more hextend hfinal
    exact bind_eq_error_iff.mpr (.inr ⟨_, readSimpleItem_append more hsimple hrest, hmore⟩)

theorem EndsBefore.append {own rest : List Char} {item : Item} (h : EndsBefore own item rest)
    (hrest : rest ≠ []) (hdash : rest ≠ ['-']) (more : List Char) :
    EndsBefore own item (rest ++ more) := by
  obtain ⟨first, rest, rfl⟩ := List.exists_cons_of_ne_nil hrest
  refine ⟨h.1, fun c next tail hsingle hrange => ?_⟩
  cases rest with
  | nil =>
    cases hrange
    exact absurd rfl hdash
  | cons second rest =>
    cases hrange
    exact h.2 c next rest hsingle rfl

theorem readItems_nil : readItems [] = .error .unclosedBracket := by
  rw [readItems_of_head_ne (by decide)]
  rfl

theorem readItems_dash : readItems ['-'] = .error .unclosedBracket := by
  have hdash : readItem ['-'] = .ok (.single '-', []) := rfl
  rw [readItems_of_head_ne (by decide), hdash]
  exact bind_eq_error_iff.mpr (.inr ⟨_, rfl, bind_eq_error_iff.mpr (.inl readItems_nil)⟩)

theorem readItem_append {text rest : List Char} {item : Item} (more : List Char)
    (h : readItem text = .ok (item, rest)) (hlater : readItems rest ≠ .error .unclosedBracket) :
    readItem (text ++ more) = .ok (item, rest ++ more) := by
  have hrest : rest ≠ [] := by
    rintro rfl
    exact hlater readItems_nil
  have hdash : rest ≠ ['-'] := by
    rintro rfl
    exact hlater readItems_dash
  obtain ⟨own, rfl, hspells, hends⟩ := readItem_eq_ok_iff.mp h
  exact readItem_eq_ok_iff.mpr
    ⟨own, List.append_assoc .., hspells, hends.append hrest hdash more⟩

/-- Whatever follows the text, the reader takes one item and then the items behind it. -/
def ReadsItems {α : Type} (combine : Item → List Item → α)
    (reader : List Char → Except Error (α × List Char)) (text : List Char) : Prop :=
  ∀ more, reader (text ++ more) = (do
    let (item, rest) ← readItem (text ++ more)
    let (items, rest) ← readItems rest
    return (combine item items, rest))

section

variable {α : Type} {combine : Item → List Item → α}
  {reader : List Char → Except Error (α × List Char)} {text : List Char}

theorem ReadsItems.eq_ok_iff (h : ReadsItems combine reader text) {more rest : List Char} {a : α} :
    reader (text ++ more) = .ok (a, rest) ↔
      ∃ item left items, readItem (text ++ more) = .ok (item, left) ∧
        readItems left = .ok (items, rest) ∧ a = combine item items := by
  rw [h, bind_eq_ok_iff]
  constructor
  · rintro ⟨⟨item, left⟩, hitem, hitems⟩
    obtain ⟨⟨items, after⟩, hitems, hpair⟩ := bind_eq_ok_iff.mp hitems
    cases hpair
    exact ⟨item, left, items, hitem, hitems, rfl⟩
  · rintro ⟨item, left, items, hitem, hitems, rfl⟩
    exact ⟨_, hitem, bind_eq_ok_iff.mpr ⟨_, hitems, rfl⟩⟩

theorem ReadsItems.eq_error_iff (h : ReadsItems combine reader text) {more : List Char}
    {e : Error} :
    reader (text ++ more) = .error e ↔
      readItem (text ++ more) = .error e ∨
        ∃ item left, readItem (text ++ more) = .ok (item, left) ∧ readItems left = .error e := by
  rw [h, bind_eq_error_iff]
  refine or_congr_right ⟨?_, ?_⟩
  · rintro ⟨⟨item, left⟩, hitem, hitems⟩
    rcases bind_eq_error_iff.mp hitems with hitems | ⟨found, -, hpair⟩
    · exact ⟨item, left, hitem, hitems⟩
    · cases hpair
  · rintro ⟨item, left, hitem, hitems⟩
    exact ⟨_, hitem, bind_eq_error_iff.mpr (.inl hitems)⟩

theorem ReadsItems.steady (h : ReadsItems combine reader text)
    (hlater : ∀ item rest, readItem text = .ok (item, rest) → Steady readItems rest) :
    Steady reader text := by
  constructor
  · intro a rest more hread
    rw [← List.append_nil text, h.eq_ok_iff, List.append_nil] at hread
    obtain ⟨item, left, items, hitem, hitems, rfl⟩ := hread
    have hmore := readItem_append more hitem (by simp [hitems])
    exact h.eq_ok_iff.mpr ⟨_, _, _, hmore, (hlater item left hitem).ok more hitems, rfl⟩
  · intro e more hread hfinal
    rw [← List.append_nil text, h.eq_error_iff, List.append_nil] at hread
    refine h.eq_error_iff.mpr ?_
    rcases hread with hitem | ⟨item, left, hitem, hitems⟩
    · exact .inl (readItem_append_of_error more hitem hfinal)
    · have hmore := readItem_append more hitem (by
        rw [hitems]
        rintro ⟨⟩
        exact hfinal)
      exact .inr ⟨_, _, hmore, (hlater item left hitem).error more hitems hfinal⟩

end

theorem readsItems_of_open {text : List Char} (htext : text ≠ [])
    (hopen : ∀ rest, text = ']' :: rest → False) : ReadsItems List.cons readItems text := by
  intro more
  obtain ⟨c, tail, rfl⟩ := List.exists_cons_of_ne_nil htext
  refine readItems_of_head_ne fun hhead => ?_
  cases hhead
  exact hopen tail rfl

theorem readsItems_readList (negated : Bool) (text : List Char) :
    ReadsItems (fun first items => ⟨negated, first :: items⟩) (readList negated) text :=
  fun _ => rfl

theorem steady_readItems (text : List Char) : Steady readItems text := by
  have hitems {text : List Char} (hopen : ∀ rest, text = ']' :: rest → False)
      (hlater : ∀ item rest, readItem text = .ok (item, rest) → Steady readItems rest) :
      Steady readItems text := by
    by_cases htext : text = []
    · subst htext
      exact steady_of_not_final readItems_nil id
    · exact (readsItems_of_open htext hopen).steady hlater
  -- On the reading of the text itself, which no character behind it changes before the last item.
  induction text using readItems.induct with
  | case1 rest => exact steady_of_ok fun more => readItems.eq_1 (rest ++ more)
  | case2 text hopen e hitem =>
    refine hitems hopen fun item rest hok => ?_
    cases hitem.symm.trans hok
  | case3 text hopen item rest hitem ih =>
    refine hitems hopen fun other left hok => ?_
    cases hitem.symm.trans hok
    exact ih

theorem steady_readList (negated : Bool) (text : List Char) : Steady (readList negated) text :=
  (readsItems_readList negated text).steady fun _ rest _ => steady_readItems rest

theorem readBracket_of_head_ne {text : List Char} (h : text.head? ≠ some '^') :
    readBracket text = readList false text := by
  unfold readBracket
  split
  · exact absurd rfl h
  · rfl

theorem steady_readBracket (text : List Char) : Steady readBracket text := by
  cases text with
  | nil => exact steady_of_not_final (e := .unclosedBracket) rfl id
  | cons c tail =>
    by_cases hcaret : c = '^'
    · subst hcaret
      exact (steady_readList true tail).of_eq fun _ => rfl
    · exact (steady_readList false (c :: tail)).of_eq fun _ =>
        readBracket_of_head_ne fun hhead => hcaret (Option.some.inj hhead)

theorem readSet_of_single {c : Char} (hdot : c ≠ '.') (hbracket : c ≠ '[') (hbackslash : c ≠ '\\')
    (rest : List Char) : readSet (c :: rest) = .ok (ofItems [.single c], rest) := by
  rw [readSet]
  · exact hdot
  · exact hbracket
  · exact hbackslash

theorem steady_readSet (text : List Char) : Steady readSet text := by
  cases text with
  | nil => exact steady_of_not_final (e := .empty) rfl id
  | cons c rest =>
    by_cases hdot : c = '.'
    · subst hdot
      exact steady_of_ok fun _ => rfl
    by_cases hbracket : c = '['
    · subst hbracket
      exact (steady_readBracket rest).of_eq fun _ => rfl
    by_cases hbackslash : c = '\\'
    · subst hbackslash
      constructor
      · intro set left more h
        obtain ⟨⟨escape, after⟩, hescape, hpair⟩ := bind_eq_ok_iff.mp h
        refine bind_eq_ok_iff.mpr ⟨_, (steady_readEscape rest).ok more hescape, ?_⟩
        cases escape <;> cases hpair <;> rfl
      · intro e more h hfinal
        rcases bind_eq_error_iff.mp h with hescape | ⟨⟨escape, after⟩, -, hpair⟩
        · exact bind_eq_error_iff.mpr (.inl ((steady_readEscape rest).error more hescape hfinal))
        · cases escape <;> cases hpair
    · exact steady_of_ok fun more => readSet_of_single hdot hbracket hbackslash (rest ++ more)

theorem stripSlashes_of_head_ne {text : List Char} (h : text.head? ≠ some '/') :
    stripSlashes text = text := by
  unfold stripSlashes
  split
  · exact absurd rfl h
  · rfl

theorem readChars_eq_error_iff {text : List Char} {e : Error} :
    readChars text = .error e ↔ readSet (stripSlashes text) = .error e ∨
      ∃ set c rest, readSet (stripSlashes text) = .ok (set, c :: rest) ∧ e = .trailing c := by
  rw [readChars, bind_eq_error_iff]
  refine or_congr_right ⟨?_, ?_⟩
  · rintro ⟨⟨set, rest⟩, hread, hrest⟩
    cases rest with
    | nil => cases hrest
    | cons c rest =>
      cases hrest
      exact ⟨set, c, rest, hread, rfl⟩
  · rintro ⟨set, c, rest, hread, rfl⟩
    exact ⟨_, hread, rfl⟩

theorem readChars_append_of_error {text : List Char} {e : Error} (more : List Char)
    (hslash : text.head? ≠ some '/') (h : readChars text = .error e) (hfinal : e.IsFinal) :
    readChars (text ++ more) = .error e := by
  have hmore : (text ++ more).head? ≠ some '/' := by
    cases text with
    | nil =>
      cases h
      exact hfinal.elim
    | cons c rest => exact hslash
  rw [readChars_eq_error_iff, stripSlashes_of_head_ne hslash] at h
  rw [readChars_eq_error_iff, stripSlashes_of_head_ne hmore]
  rcases h with hread | ⟨set, c, rest, hread, rfl⟩
  · exact .inl ((steady_readSet text).error more hread hfinal)
  · exact .inr ⟨set, c, rest ++ more, (steady_readSet text).ok more hread, rfl⟩

theorem ofChar_eq_error {c : Char} {e : Error} (h : Escape.ofChar c = .error e) :
    e = .unknownEscape c := by
  unfold Escape.ofChar at h
  split at h
  · cases h
  · cases h
  · cases h
  · split at h
    · cases h
    · cases h
      rfl

theorem readEscape_eq_error {text : List Char} {e : Error} (h : readEscape text = .error e) :
    e = .danglingEscape ∨ ∃ c, e = .unknownEscape c := by
  cases text with
  | nil =>
    cases h
    exact .inl rfl
  | cons c rest =>
    rcases bind_eq_error_iff.mp h with hunknown | ⟨escape, -, hpair⟩
    · exact .inr ⟨c, ofChar_eq_error hunknown⟩
    · cases hpair

theorem readName_eq_error {text : List Char} {e : Error} (h : readName text = .error e) :
    e = .unclosedName ∨ ∃ name, e = .unknownName name := by
  unfold readName at h
  split at h
  · rcases bind_eq_error_iff.mp h with hunknown | ⟨category, -, hpair⟩
    · unfold categoryNamed at hunknown
      split at hunknown
      · cases hunknown
      · cases hunknown
        exact .inr ⟨_, rfl⟩
    · cases hpair
  · cases h
    exact .inl rfl

theorem readSimpleItem_unclosed {text : List Char}
    (h : readSimpleItem text = .error .unclosedBracket) : text = [] := by
  unfold readSimpleItem at h
  split at h
  · rfl
  · rcases bind_eq_error_iff.mp h with hname | ⟨found, -, hpair⟩
    · have hkind := readName_eq_error hname
      simp at hkind
    · cases hpair
  · rcases bind_eq_error_iff.mp h with hescape | ⟨⟨escape, left⟩, -, hpair⟩
    · have hkind := readEscape_eq_error hescape
      simp at hkind
    · cases escape <;> cases hpair
  · cases h

theorem readRangeEnd_unclosed {text : List Char}
    (h : readRangeEnd text = .error .unclosedBracket) : text = [] := by
  unfold readRangeEnd at h
  split at h
  · rfl
  · rcases bind_eq_error_iff.mp h with hescape | ⟨found, -, hend⟩
    · have hkind := readEscape_eq_error hescape
      simp at hkind
    · split at hend <;> cases hend
  · cases h

/-- A range is begun only where its end is there. -/
theorem extendItem_ne_unclosed (item : Item) (text : List Char) :
    extendItem item text ≠ .error .unclosedBracket := by
  intro h
  unfold extendItem at h
  split at h
  · rename_i lo tail htail
    obtain ⟨next, rest, rfl, -, -⟩ := rangeTail_eq_some_iff.mp htail
    rcases bind_eq_error_iff.mp h with hend | ⟨⟨hi, left⟩, -, hrange⟩
    · cases readRangeEnd_unclosed hend
    · by_cases hlt : hi < lo
      · simp only [if_pos hlt] at hrange
        cases hrange
      · simp only [if_neg hlt] at hrange
        cases hrange
  · cases h

theorem readItem_unclosed {text : List Char} (h : readItem text = .error .unclosedBracket) :
    text = [] := by
  rcases bind_eq_error_iff.mp h with hsimple | ⟨⟨item, rest⟩, -, hextend⟩
  · exact readSimpleItem_unclosed hsimple
  · exact absurd hextend (extendItem_ne_unclosed item rest)

theorem EndsBefore.append_close {own rest : List Char} {item : Item}
    (h : EndsBefore own item rest) : EndsBefore own item (rest ++ [']']) := by
  by_cases hnone : rest = []
  · subst hnone
    exact ⟨fun _ => by decide, fun c next tail _ hrange => by simp at hrange⟩
  by_cases hdash : rest = ['-']
  · subst hdash
    refine ⟨fun _ => by decide, fun c next tail _ hrange => ?_⟩
    cases hrange
    rfl
  exact h.append hnone hdash [']']

/-- Behind the first item, a bracket closes the list. -/
theorem ReadsItems.exists_close {α : Type} {combine : Item → List Item → α}
    {reader : List Char → Except Error (α × List Char)} {text : List Char}
    (hreads : ReadsItems combine reader text)
    (hlater : ∀ item rest, readItem text = .ok (item, rest) →
      readItems rest = .error .unclosedBracket →
        ∃ items, readItems (rest ++ [']']) = .ok (items, []))
    (htext : text ≠ []) (h : reader text = .error .unclosedBracket) :
    ∃ a, reader (text ++ [']']) = .ok (a, []) := by
  rw [← List.append_nil text, hreads.eq_error_iff, List.append_nil] at h
  rcases h with hitem | ⟨item, rest, hitem, hitems⟩
  · exact absurd (readItem_unclosed hitem) htext
  · obtain ⟨items, hclosed⟩ := hlater item rest hitem hitems
    obtain ⟨own, rfl, hspells, hends⟩ := readItem_eq_ok_iff.mp hitem
    have hmore : readItem (own ++ rest ++ [']']) = .ok (item, rest ++ [']']) :=
      readItem_eq_ok_iff.mpr ⟨own, List.append_assoc .., hspells, hends.append_close⟩
    exact ⟨combine item items, hreads.eq_ok_iff.mpr ⟨_, _, _, hmore, hclosed, rfl⟩⟩

theorem exists_readItems_close {text : List Char} (h : readItems text = .error .unclosedBracket) :
    ∃ items, readItems (text ++ [']']) = .ok (items, []) := by
  have hitems {text : List Char} (h : readItems text = .error .unclosedBracket)
      (hopen : ∀ rest, text = ']' :: rest → False)
      (hlater : ∀ item rest, readItem text = .ok (item, rest) →
        readItems rest = .error .unclosedBracket →
          ∃ items, readItems (rest ++ [']']) = .ok (items, [])) :
      ∃ items, readItems (text ++ [']']) = .ok (items, []) := by
    by_cases htext : text = []
    · subst htext
      exact ⟨[], readItems.eq_1 []⟩
    · exact (readsItems_of_open htext hopen).exists_close hlater htext h
  induction text using readItems.induct with
  | case1 rest =>
    rw [readItems] at h
    cases h
  | case2 text hopen e hitem =>
    refine hitems h hopen fun item rest hok => ?_
    cases hitem.symm.trans hok
  | case3 text hopen item rest hitem ih =>
    refine hitems h hopen fun other left hok => ?_
    cases hitem.symm.trans hok
    exact ih

theorem exists_readList_close {negated : Bool} {text : List Char} (htext : text ≠ [])
    (h : readList negated text = .error .unclosedBracket) :
    ∃ set, readList negated (text ++ [']']) = .ok (set, []) :=
  (readsItems_readList negated text).exists_close (fun _ _ _ => exists_readItems_close) htext h

theorem readSet_unclosed {text : List Char} (h : readSet text = .error .unclosedBracket) :
    ∃ list, text = '[' :: list := by
  unfold readSet at h
  split at h
  · cases h
  · cases h
  · exact ⟨_, rfl⟩
  · rcases bind_eq_error_iff.mp h with hescape | ⟨⟨escape, left⟩, -, hpair⟩
    · have hkind := readEscape_eq_error hescape
      simp at hkind
    · cases escape <;> cases hpair
  · cases h

/-- Only where not even a first item has been read, the bracket is that item. -/
theorem exists_readSet_close {text : List Char} (hopen : text ≠ ['[']) (hcaret : text ≠ ['[', '^'])
    (h : readSet text = .error .unclosedBracket) :
    ∃ set, readSet (text ++ [']']) = .ok (set, []) := by
  obtain ⟨list, rfl⟩ := readSet_unclosed h
  have hlist : list ≠ [] := fun hnil => hopen (by rw [hnil])
  obtain ⟨c, rest, rfl⟩ := List.exists_cons_of_ne_nil hlist
  by_cases hnegated : c = '^'
  · subst hnegated
    have hrest : rest ≠ [] := fun hnil => hcaret (by rw [hnil])
    exact exists_readList_close hrest h
  · have hplain (more : List Char) :
        readBracket (c :: rest ++ more) = readList false (c :: rest ++ more) :=
      readBracket_of_head_ne fun hhead => hnegated (Option.some.inj hhead)
    have hown := hplain []
    rw [List.append_nil] at hown
    obtain ⟨set, hclosed⟩ := exists_readList_close hlist (hown.symm.trans h)
    exact ⟨set, (hplain [']']).trans hclosed⟩

theorem exists_readChars_close {text : List Char} (hslash : text.head? ≠ some '/')
    (hopen : text ≠ ['[']) (hcaret : text ≠ ['[', '^'])
    (h : readChars text = .error .unclosedBracket) :
    ∃ set, readChars (text ++ [']']) = .ok set := by
  rw [readChars_eq_error_iff, stripSlashes_of_head_ne hslash] at h
  obtain hread | ⟨set, c, rest, -, hkind⟩ := h
  · obtain ⟨set, hclosed⟩ := exists_readSet_close hopen hcaret hread
    obtain ⟨list, rfl⟩ := readSet_unclosed hread
    refine ⟨set, readChars_eq_ok_iff.mpr ?_⟩
    rw [stripSlashes_of_head_ne (by simp)]
    exact hclosed
  · cases hkind

/-- An error is final or not by its kind. Of the others, an unclosed list is closed by a bracket, or
by two where the first of them is its only item. -/
theorem read_append_of_error (text : String) (hslash : text.toList.head? ≠ some '/') :
    (∀ e, read text = .error e → e.IsFinal → ∀ more, read (text ++ more) = .error e) ∧
      (read text = .error .unclosedBracket →
        (text ≠ "[" → text ≠ "[^" → ∃ set, read (text ++ "]") = .ok set) ∧
          (text = "[" ∨ text = "[^" →
            read (text ++ "]") = .error .unclosedBracket ∧
              ∃ set, read (text ++ "]]") = .ok set)) := by
  refine ⟨fun e h hfinal more => ?_, fun h => ⟨fun hopen hcaret => ?_, ?_⟩⟩
  · rw [read, String.toList_append]
    exact readChars_append_of_error more.toList hslash h hfinal
  · have hopen : text.toList ≠ ['['] := fun hlist => hopen (String.toList_inj.mp hlist)
    have hcaret : text.toList ≠ ['[', '^'] := fun hlist => hcaret (String.toList_inj.mp hlist)
    simp only [read, String.toList_append]
    exact exists_readChars_close hslash hopen hcaret h
  · rintro (rfl | rfl)
    · exact ⟨by cbv, ⟨false, [.single ']']⟩, by cbv⟩
    · exact ⟨by cbv, ⟨true, [.single ']']⟩, by cbv⟩

/-- The range is refused although its list goes on; a dash at the end waits for what follows. -/
theorem read_append_of_error_kinds :
    ("[z-a".toList.head? ≠ some '/' ∧ read "[z-a" = .error (.invalidRange 'z' 'a') ∧
      (Error.invalidRange 'z' 'a').IsFinal ∧
      read ("[z-a" ++ "]/b") = .error (.invalidRange 'z' 'a')) ∧
      ("[^]a-".toList.head? ≠ some '/' ∧
        read "[^]a-" = .error .unclosedBracket ∧
        "[^]a-" ≠ "[" ∧ "[^]a-" ≠ "[^" ∧
        ∃ set, read ("[^]a-" ++ "]") = .ok set) ∧
      "[".toList.head? ≠ some '/' ∧ read "[" = .error .unclosedBracket ∧
        ∃ set, read ("[" ++ "]]") = .ok set := by
  have hrange : read "[z-a" = .error (.invalidRange 'z' 'a') := rfl
  have hdash : read "[^]a-" = .error .unclosedBracket := by cbv
  have hbare : read "[" = .error .unclosedBracket := rfl
  have hdashOpen : "[^]a-" ≠ "[" := by decide
  have hdashCaret : "[^]a-" ≠ "[^" := by decide
  have hfinal := (read_append_of_error "[z-a" (by decide)).1 _ hrange trivial "]/b"
  have hclosed :=
    ((read_append_of_error "[^]a-" (by decide)).2 hdash).1 hdashOpen hdashCaret
  have htwice := (((read_append_of_error "[" (by decide)).2 hbare).2 (.inl rfl)).2
  exact ⟨⟨by decide, hrange, trivial, hfinal⟩,
    ⟨by decide, hdash, hdashOpen, hdashCaret, hclosed⟩, by decide, hbare, htwice⟩

end GreedyMatch.CharSet

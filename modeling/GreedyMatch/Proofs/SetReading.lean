import GreedyMatch.Proofs.SetGrammar

set_option autoImplicit false

namespace GreedyMatch.CharSet

theorem eq_of_toLower {c lower : Char} (upper : Char) (hcase : upper.toNat + 32 = lower.toNat)
    (h : c.toLower = lower) : c = lower ∨ c = upper := by
  unfold Char.toLower at h
  split at h
  · rename_i hupper
    right
    have hval : (c.val + 32).toNat = lower.toNat := congrArg Char.toNat h
    have hlast : c.val.toNat ≤ 90 := UInt32.le_iff_toNat_le.mp hupper.2
    have hsize : c.val.toNat + 32 < 2 ^ 32 := by omega
    rw [UInt32.toNat_add] at hval
    change (c.val.toNat + 32) % 2 ^ 32 = lower.toNat at hval
    rw [Nat.mod_eq_of_lt hsize] at hval
    refine Char.ext (UInt32.toNat_inj.mp ?_)
    change c.val.toNat = upper.toNat
    omega
  · exact .inl h

theorem escapedCategory_eq_some {c : Char} {category : Category}
    (h : escapedCategory c = some category) : Escapes c (.item (.named category)) := by
  unfold escapedCategory at h
  split at h
  · cases h
    exact .digit
  · cases h
    exact .space
  · cases h
    exact .word
  · cases h

theorem escapedCategory_toLower_eq_some {c : Char} {category : Category}
    (h : escapedCategory c.toLower = some category) :
    Escapes c (.item (.named category)) ∨ Escapes c (.negated category c) := by
  unfold escapedCategory at h
  split at h
  · rename_i hlower
    cases h
    rcases eq_of_toLower 'D' rfl hlower with rfl | rfl
    · exact .inl .digit
    · exact .inr .noDigit
  · rename_i hlower
    cases h
    rcases eq_of_toLower 'S' rfl hlower with rfl | rfl
    · exact .inl .space
    · exact .inr .noSpace
  · rename_i hlower
    cases h
    rcases eq_of_toLower 'W' rfl hlower with rfl | rfl
    · exact .inl .word
    · exact .inr .noWord
  · cases h

theorem escapedControl_eq_some {c control : Char} (h : escapedControl c = some control) :
    Escapes c (.item (.single control)) := by
  unfold escapedControl at h
  split at h
  · cases h
    exact .null
  · cases h
    exact .lineFeed
  · cases h
    exact .carriageReturn
  · cases h
    exact .tab
  · cases h

theorem escapes_of_ofChar {c : Char} {escape : Escape} (h : Escape.ofChar c = .ok escape) :
    Escapes c escape := by
  unfold Escape.ofChar at h
  split at h
  · rename_i category hcategory
    cases h
    exact escapedCategory_eq_some hcategory
  · rename_i category hcategory hlower
    cases h
    rcases escapedCategory_toLower_eq_some hlower with hsame | hnegated
    · cases hsame <;> cases hcategory
    · exact hnegated
  · rename_i control hcontrol
    cases h
    exact escapedControl_eq_some hcontrol
  · split at h
    · rename_i hmark
      cases h
      exact .itself (by simpa using hmark)
    · cases h

theorem ofChar_of_mark {c : Char} (hmark : Text.isPunctuation c = true ∨ c = ' ') :
    Escape.ofChar c = .ok (.item (.single c)) := by
  -- Marks come last in the reader, so every case before them has to be excluded.
  have hcategory : escapedCategory c = none := by
    cases hsome : escapedCategory c with
    | none => rfl
    | some category => cases (escapedCategory_eq_some hsome).eq_single_of_mark hmark
  have hlower : escapedCategory c.toLower = none := by
    cases hsome : escapedCategory c.toLower with
    | none => rfl
    | some category =>
      rcases escapedCategory_toLower_eq_some hsome with hitem | hnegated
      · cases hitem.eq_single_of_mark hmark
      · cases hnegated.eq_single_of_mark hmark
  rw [Escape.ofChar, hcategory, hlower]
  cases hcontrol : escapedControl c with
  | none => simp [hmark]
  | some control =>
    have hsame := (escapedControl_eq_some hcontrol).eq_single_of_mark hmark
    exact congrArg Except.ok hsame

theorem Escapes.ofChar_eq_ok {c : Char} {escape : Escape} (h : Escapes c escape) :
    Escape.ofChar c = .ok escape := by
  cases h with
  | itself hmark => exact ofChar_of_mark hmark
  | _ => rfl

theorem ofChar_eq_ok_iff {c : Char} {escape : Escape} :
    Escape.ofChar c = .ok escape ↔ Escapes c escape := by
  constructor
  · exact escapes_of_ofChar
  · exact Escapes.ofChar_eq_ok

theorem readEscape_eq_ok_iff {text rest : List Char} {escape : Escape} :
    readEscape text = .ok (escape, rest) ↔ ∃ c, text = c :: rest ∧ Escapes c escape := by
  cases text with
  | nil => simp [readEscape]
  | cons c tail =>
    rw [readEscape, bind_eq_ok_iff]
    constructor
    · rintro ⟨found, hfound, hpair⟩
      cases hpair
      exact ⟨c, rfl, ofChar_eq_ok_iff.mp hfound⟩
    · rintro ⟨own, htext, hescapes⟩
      cases htext
      exact ⟨escape, ofChar_eq_ok_iff.mpr hescapes, rfl⟩

theorem categoryNamed_eq_ok_iff {name : String} {category : Category} :
    categoryNamed name = .ok category ↔ category ≠ .any ∧ name = category.name := by
  constructor
  · intro h
    unfold categoryNamed at h
    split at h
    · rename_i found hfound
      cases h
      obtain ⟨before, after, hsplit, -⟩ := List.lookup_eq_some_iff.mp hfound
      have hmem : (name, category) ∈ namedCategories := by
        rw [hsplit]
        exact List.mem_append_right before List.mem_cons_self
      simp only [namedCategories, List.mem_cons, Prod.mk.injEq, List.not_mem_nil, or_false] at hmem
      rcases hmem with ⟨rfl, rfl⟩ | ⟨rfl, rfl⟩ | ⟨rfl, rfl⟩ | ⟨rfl, rfl⟩ | ⟨rfl, rfl⟩ |
        ⟨rfl, rfl⟩ | ⟨rfl, rfl⟩ | ⟨rfl, rfl⟩ | ⟨rfl, rfl⟩ <;> exact ⟨by decide, rfl⟩
    · cases h
  · rintro ⟨hname, rfl⟩
    cases category with
    | any => exact absurd rfl hname
    | _ => rfl

theorem readName_eq_ok_iff {text rest : List Char} {category : Category} :
    readName text = .ok (category, rest) ↔
      category ≠ .any ∧ text = category.name.toList ++ ':' :: ']' :: rest := by
  constructor
  · intro h
    unfold readName at h
    split at h
    · rename_i tail hdrop
      obtain ⟨found, hfound, hpair⟩ := bind_eq_ok_iff.mp h
      cases hpair
      obtain ⟨hname, hnamed⟩ := categoryNamed_eq_ok_iff.mp hfound
      refine ⟨hname, ?_⟩
      rw [← hnamed, String.toList_ofList, ← hdrop, List.takeWhile_append_dropWhile]
    · cases h
  · rintro ⟨hname, rfl⟩
    have hdrop : (category.name.toList ++ ':' :: ']' :: rest).dropWhile (· != ':') =
        ':' :: ']' :: rest := by
      rw [List.dropWhile_append_of_pos category.name_noColon]
      rfl
    have htake : (category.name.toList ++ ':' :: ']' :: rest).takeWhile (· != ':') =
        category.name.toList := by
      rw [List.takeWhile_append_of_pos category.name_noColon]
      exact List.append_nil _
    have hnamed : categoryNamed (String.ofList category.name.toList) = .ok category :=
      categoryNamed_eq_ok_iff.mpr ⟨hname, String.ofList_toList⟩
    unfold readName
    rw [hdrop, htake]
    exact bind_eq_ok_iff.mpr ⟨category, hnamed, rfl⟩

theorem readSimpleItem_sound {text rest : List Char} {item : Item}
    (h : readSimpleItem text = .ok (item, rest)) :
    ∃ own, text = own ++ rest ∧ SpellsSimple own item ∧ (own = ['['] → rest.head? ≠ some ':') := by
  unfold readSimpleItem at h
  split at h
  · cases h
  · obtain ⟨⟨category, left⟩, hname, hpair⟩ := bind_eq_ok_iff.mp h
    cases hpair
    obtain ⟨hnamed, rfl⟩ := readName_eq_ok_iff.mp hname
    exact ⟨_, by simp, .named hnamed, fun h => nomatch h⟩
  · obtain ⟨⟨escape, left⟩, hescape, hpair⟩ := bind_eq_ok_iff.mp h
    obtain ⟨letter, rfl, hescapes⟩ := readEscape_eq_ok_iff.mp hescape
    cases escape with
    | item item =>
      cases hpair
      exact ⟨['\\', letter], rfl, .escaped hescapes, fun h => nomatch h⟩
    | negated category letter => cases hpair
  · rename_i c tail hname hescape
    cases h
    refine ⟨[c], rfl, .raw hescape, fun hbracket hcolon => ?_⟩
    cases hbracket
    obtain ⟨left, rfl⟩ := List.head?_eq_some_iff.mp hcolon
    exact hname left rfl rfl

theorem readSimpleItem_complete {own rest : List Char} {item : Item} (h : SpellsSimple own item)
    (hname : own = ['['] → rest.head? ≠ some ':') :
    readSimpleItem (own ++ rest) = .ok (item, rest) := by
  cases h with
  | raw hraw =>
    rw [List.singleton_append, readSimpleItem]
    · rintro tail rfl rfl
      exact hname rfl rfl
    · exact hraw
  | @escaped letter item hescapes =>
    have hread : readEscape (letter :: rest) = .ok (.item item, rest) :=
      readEscape_eq_ok_iff.mpr ⟨letter, rfl, hescapes⟩
    exact bind_eq_ok_iff.mpr ⟨_, hread, rfl⟩
  | @named category hnamed =>
    have hread : readName (category.name.toList ++ [':', ']'] ++ rest) = .ok (category, rest) :=
      readName_eq_ok_iff.mpr ⟨hnamed, by simp⟩
    exact bind_eq_ok_iff.mpr ⟨_, hread, rfl⟩

theorem readRangeEnd_eq_ok_iff {text rest : List Char} {c : Char} :
    readRangeEnd text = .ok (c, rest) ↔ ∃ own, text = own ++ rest ∧ SpellsSimple own (.single c) := by
  constructor
  · intro h
    unfold readRangeEnd at h
    split at h
    · cases h
    · obtain ⟨⟨escape, left⟩, hescape, hpair⟩ := bind_eq_ok_iff.mp h
      obtain ⟨letter, rfl, hescapes⟩ := readEscape_eq_ok_iff.mp hescape
      split at hpair
      · rename_i heq
        cases heq
        cases hpair
        exact ⟨['\\', letter], rfl, .escaped hescapes⟩
      · cases hpair
    · rename_i hraw
      cases h
      exact ⟨[c], rfl, .raw hraw⟩
  · rintro ⟨own, rfl, h⟩
    cases h with
    | raw hraw =>
      rw [List.singleton_append, readRangeEnd]
      exact hraw
    | @escaped letter item hescapes =>
      have hread : readEscape (letter :: rest) = .ok (.item (.single c), rest) :=
        readEscape_eq_ok_iff.mpr ⟨letter, rfl, hescapes⟩
      exact bind_eq_ok_iff.mpr ⟨_, hread, rfl⟩

theorem rangeTail_eq_some_iff {text tail : List Char} :
    rangeTail? text = some tail ↔
      ∃ next rest, tail = next :: rest ∧ next ≠ ']' ∧ text = '-' :: next :: rest := by
  constructor
  · intro h
    unfold rangeTail? at h
    split at h
    · split at h
      · cases h
      · rename_i next rest hnext
        cases h
        exact ⟨next, rest, rfl, hnext, rfl⟩
    · cases h
  · rintro ⟨next, rest, rfl, hnext, rfl⟩
    rw [rangeTail?, if_neg hnext]

theorem rangeTail_eq_none_iff {text : List Char} :
    rangeTail? text = none ↔ ∀ next tail, text = '-' :: next :: tail → next = ']' := by
  rw [Option.eq_none_iff_forall_ne_some]
  constructor
  · intro h next tail htext
    by_cases hnext : next = ']'
    · exact hnext
    · exact absurd (rangeTail_eq_some_iff.mpr ⟨next, tail, rfl, hnext, htext⟩) (h _)
  · intro h tail hsome
    obtain ⟨next, rest, -, hnext, htext⟩ := rangeTail_eq_some_iff.mp hsome
    exact hnext (h next rest htext)

theorem extendItem_eq_ok_iff {simple item : Item} {left rest : List Char} :
    extendItem simple left = .ok (item, rest) ↔
      (item = simple ∧ rest = left ∧ ∀ lo, simple = .single lo → rangeTail? left = none) ∨
        ∃ lo hi tail, simple = .single lo ∧ rangeTail? left = some tail ∧
          readRangeEnd tail = .ok (hi, rest) ∧ lo ≤ hi ∧ item = .range lo hi := by
  unfold extendItem
  split
  · rename_i lo tail htail
    rw [bind_eq_ok_iff]
    constructor
    · rintro ⟨⟨hi, after⟩, hend, hpair⟩
      dsimp only at hpair
      split at hpair
      · cases hpair
      · rename_i hle
        cases hpair
        exact .inr ⟨lo, hi, tail, rfl, htail, hend, Char.not_lt.mp hle, rfl⟩
    · rintro (⟨-, -, hnone⟩ | ⟨own, hi, other, hsame, hother, hend, hle, rfl⟩)
      · rw [hnone lo rfl] at htail
        cases htail
      · cases hsame
        cases htail.symm.trans hother
        refine ⟨(hi, rest), hend, ?_⟩
        dsimp only
        rw [if_neg (Char.not_lt.mpr hle)]
        rfl
  · rename_i hnot
    constructor
    · intro h
      cases h
      refine .inl ⟨rfl, rfl, fun lo hlo => ?_⟩
      rw [Option.eq_none_iff_forall_ne_some]
      exact fun tail htail => hnot lo tail hlo htail
    · rintro (⟨rfl, rfl, -⟩ | ⟨lo, hi, tail, hlo, htail, -⟩)
      · rfl
      · exact absurd htail (hnot lo tail hlo)

theorem readItem_eq_ok_iff {text rest : List Char} {item : Item} :
    readItem text = .ok (item, rest) ↔
      ∃ own, text = own ++ rest ∧ SpellsItem own item ∧ EndsBefore own item rest := by
  rw [readItem, bind_eq_ok_iff]
  constructor
  · rintro ⟨⟨simple, left⟩, hsimple, hextend⟩
    obtain ⟨own, rfl, hspells, hname⟩ := readSimpleItem_sound hsimple
    rcases extendItem_eq_ok_iff.mp hextend with
      ⟨rfl, rfl, hnone⟩ | ⟨lo, hi, tail, rfl, htail, hend, hle, rfl⟩
    · exact ⟨own, rfl, .simple hspells, hname,
        fun c next tail hsingle => rangeTail_eq_none_iff.mp (hnone c hsingle) next tail⟩
    · obtain ⟨next, after, rfl, hnext, rfl⟩ := rangeTail_eq_some_iff.mp htail
      obtain ⟨last, hlast, hspellsLast⟩ := readRangeEnd_eq_ok_iff.mp hend
      -- The character after the dash is the first of the end's spelling.
      have hraw : last ≠ [']'] := by
        rintro rfl
        cases hlast
        exact hnext rfl
      refine ⟨own ++ '-' :: last, by simp [hlast], .range hspells hspellsLast hraw hle, ?_, ?_⟩
      · intro hbracket
        obtain ⟨c, tail, rfl, -⟩ := hspells.exists_cons
        simp at hbracket
      · exact fun c next tail h => nomatch h
  · rintro ⟨own, rfl, hspells, hname, hdash⟩
    cases hspells with
    | simple hspells =>
      refine ⟨(item, rest), readSimpleItem_complete hspells hname, extendItem_eq_ok_iff.mpr (.inl ?_)⟩
      exact ⟨rfl, rfl, fun lo hlo => rangeTail_eq_none_iff.mpr fun next tail => hdash lo next tail hlo⟩
    | @range first last lo hi hlo hhi hlast hle =>
      obtain ⟨next, after, rfl, hnext⟩ := hhi.exists_cons
      have hsimple : readSimpleItem (first ++ '-' :: (next :: after ++ rest)) =
          .ok (.single lo, '-' :: (next :: after ++ rest)) :=
        readSimpleItem_complete hlo fun _ => by simp
      have htail : rangeTail? ('-' :: (next :: after ++ rest)) = some (next :: after ++ rest) :=
        rangeTail_eq_some_iff.mpr ⟨next, after ++ rest, rfl, fun h => hlast (hnext h), rfl⟩
      have hend : readRangeEnd (next :: after ++ rest) = .ok (hi, rest) :=
        readRangeEnd_eq_ok_iff.mpr ⟨_, rfl, hhi⟩
      rw [List.append_assoc, List.cons_append]
      exact ⟨_, hsimple, extendItem_eq_ok_iff.mpr (.inr ⟨lo, hi, _, rfl, htail, hend, hle, rfl⟩)⟩

theorem readItems_of_head_ne {text : List Char} (h : text.head? ≠ some ']') :
    readItems text = (do
      let (item, rest) ← readItem text
      let (items, rest) ← readItems rest
      return (item :: items, rest)) := by
  rw [readItems]
  · cases readItem text with
    | error e => rfl
    | ok found => rfl
  · rintro rest rfl
    exact h rfl

theorem readItems_sound {text : List Char} {items : List Item}
    (h : readItems text = .ok (items, [])) : SpellsList false text items := by
  -- An item takes any number of characters but never none, so the induction is on the length.
  induction hsize : text.length using Nat.strongRecOn generalizing text items with
  | ind size ih =>
    subst hsize
    by_cases hclose : text.head? = some ']'
    · obtain ⟨rest, rfl⟩ := List.head?_eq_some_iff.mp hclose
      rw [readItems] at h
      cases h
      exact .close
    · rw [readItems_of_head_ne hclose, bind_eq_ok_iff] at h
      obtain ⟨⟨item, left⟩, hitem, hlater⟩ := h
      obtain ⟨⟨later, rest⟩, hitems, hpair⟩ := bind_eq_ok_iff.mp hlater
      cases hpair
      have hlist := ih left.length (readItem_length_lt hitem) hitems rfl
      obtain ⟨own, rfl, hspells, hends⟩ := readItem_eq_ok_iff.mp hitem
      refine .item hspells (.inr fun hstart => hclose ?_) hends hlist
      rw [List.head?_append, hstart]
      rfl

theorem readItems_complete {leading : Bool} {text : List Char} {items : List Item}
    (h : SpellsList leading text items) (hleading : leading = false) :
    readItems text = .ok (items, []) := by
  induction h with
  | close =>
    rw [readItems]
  | @item leading own item rest items hitem hstart hends hrest ih =>
    have hhead : (own ++ rest).head? ≠ some ']' := by
      rw [hitem.head?_append]
      exact hstart.resolve_left (by simp [hleading])
    have hfirst : readItem (own ++ rest) = .ok (item, rest) :=
      readItem_eq_ok_iff.mpr ⟨own, rfl, hitem, hends⟩
    rw [readItems_of_head_ne hhead]
    exact bind_eq_ok_iff.mpr ⟨_, hfirst, bind_eq_ok_iff.mpr ⟨_, ih rfl, rfl⟩⟩

theorem readList_eq_ok_iff {negated : Bool} {text : List Char} {set : CharSet} :
    readList negated text = .ok (set, []) ↔
      ∃ items, SpellsList true text items ∧ set = ⟨negated, items⟩ := by
  rw [readList, bind_eq_ok_iff]
  constructor
  · rintro ⟨⟨first, left⟩, hfirst, hlater⟩
    obtain ⟨⟨later, rest⟩, hitems, hpair⟩ := bind_eq_ok_iff.mp hlater
    cases hpair
    obtain ⟨own, rfl, hspells, hends⟩ := readItem_eq_ok_iff.mp hfirst
    exact ⟨first :: later, .item hspells (.inl rfl) hends (readItems_sound hitems), rfl⟩
  · rintro ⟨items, hlist, rfl⟩
    cases hlist with
    | item hitem hstart hends hrest =>
      refine ⟨_, readItem_eq_ok_iff.mpr ⟨_, rfl, hitem, hends⟩, ?_⟩
      exact bind_eq_ok_iff.mpr ⟨_, readItems_complete hrest rfl, rfl⟩

theorem readSet_sound {body : List Char} {set : CharSet} (h : readSet body = .ok (set, [])) :
    SpellsSet body set := by
  unfold readSet at h
  split at h
  · cases h
  · cases h
    exact .any
  · unfold readBracket at h
    split at h
    · obtain ⟨items, hlist, rfl⟩ := readList_eq_ok_iff.mp h
      exact .negatedList hlist
    · rename_i hcaret
      obtain ⟨items, hlist, rfl⟩ := readList_eq_ok_iff.mp h
      refine .list hlist fun hhead => ?_
      obtain ⟨rest, rfl⟩ := List.head?_eq_some_iff.mp hhead
      exact hcaret rest rfl
  · obtain ⟨⟨escape, left⟩, hescape, hpair⟩ := bind_eq_ok_iff.mp h
    obtain ⟨letter, rfl, hescapes⟩ := readEscape_eq_ok_iff.mp hescape
    cases escape with
    | item item =>
      cases hpair
      exact .escaped hescapes
    | negated category own =>
      cases hpair
      exact .negated hescapes
  · rename_i c tail hdot hbracket hbackslash
    cases h
    exact .single hdot hbracket hbackslash

theorem readSet_complete {body : List Char} {set : CharSet} (h : SpellsSet body set) :
    readSet body = .ok (set, []) := by
  cases h with
  | any => rfl
  | @escaped letter item hescapes =>
    have hread : readEscape [letter] = .ok (.item item, []) :=
      readEscape_eq_ok_iff.mpr ⟨letter, rfl, hescapes⟩
    exact bind_eq_ok_iff.mpr ⟨_, hread, rfl⟩
  | @negated letter own category hescapes =>
    have hread : readEscape [letter] = .ok (.negated category own, []) :=
      readEscape_eq_ok_iff.mpr ⟨letter, rfl, hescapes⟩
    exact bind_eq_ok_iff.mpr ⟨_, hread, rfl⟩
  | single hdot hbracket hbackslash =>
    rw [readSet]
    · rfl
    · exact hdot
    · exact hbracket
    · exact hbackslash
  | @list text items hlist hcaret =>
    have hread : readBracket text = readList false text := by
      unfold readBracket
      split
      · exact absurd rfl hcaret
      · rfl
    exact hread.trans (readList_eq_ok_iff.mpr ⟨items, hlist, rfl⟩)
  | @negatedList text items hlist => exact readList_eq_ok_iff.mpr ⟨items, hlist, rfl⟩

theorem stripSlashes_slashes {body : List Char} (hbody : body ≠ []) :
    stripSlashes ('/' :: body ++ ['/']) = body := by
  have hlength : 2 ≤ (body ++ ['/']).length := by
    have hpos := List.length_pos_iff.mpr hbody
    rw [List.length_append, List.length_singleton]
    omega
  rw [List.cons_append, stripSlashes, if_pos ⟨hlength, by simp⟩, List.dropLast_concat]

theorem stripSlashes_bare {text : List Char}
    (hbare : ∀ body, body ≠ [] → text ≠ '/' :: body ++ ['/']) : stripSlashes text = text := by
  unfold stripSlashes
  split
  · rename_i rest
    rw [if_neg]
    rintro ⟨hlength, hlast⟩
    obtain ⟨body, rfl⟩ := List.getLast?_eq_some_iff.mp hlast
    refine hbare body ?_ rfl
    rintro rfl
    simp at hlength
  · rfl

theorem strips_iff {text body : List Char} : Strips text body ↔ body = stripSlashes text := by
  constructor
  · intro h
    cases h with
    | slashes hbody => exact (stripSlashes_slashes hbody).symm
    | bare hbare => exact (stripSlashes_bare hbare).symm
  · rintro rfl
    by_cases h : ∃ body, body ≠ [] ∧ text = '/' :: body ++ ['/']
    · obtain ⟨body, hbody, rfl⟩ := h
      rw [stripSlashes_slashes hbody]
      exact .slashes hbody
    · have hbare : ∀ body, body ≠ [] → text ≠ '/' :: body ++ ['/'] :=
        fun body hbody htext => h ⟨body, hbody, htext⟩
      rw [stripSlashes_bare hbare]
      exact .bare hbare

theorem readChars_eq_ok_iff {text : List Char} {set : CharSet} :
    readChars text = .ok set ↔ readSet (stripSlashes text) = .ok (set, []) := by
  rw [readChars, bind_eq_ok_iff]
  constructor
  · rintro ⟨⟨found, rest⟩, hread, hpair⟩
    cases rest with
    | nil =>
      cases hpair
      exact hread
    | cons c rest => cases hpair
  · intro hread
    exact ⟨_, hread, rfl⟩

/-- Reading succeeds on the texts of the grammar alone, and gives the set that each of them spells. -/
theorem read_eq_ok_iff (text : String) (set : CharSet) :
    read text = .ok set ↔ ∃ body, Strips text.toList body ∧ SpellsSet body set := by
  rw [read, readChars_eq_ok_iff]
  constructor
  · intro h
    exact ⟨_, strips_iff.mpr rfl, readSet_sound h⟩
  · rintro ⟨body, hstrips, hspells⟩
    rw [← strips_iff.mp hstrips]
    exact readSet_complete hspells

/-- The first `]` and the last `-` stand for themselves, and the slashes are gone. -/
example : read "/[]-a^[:digit:]-]/" =
    .ok ⟨false, [.range ']' 'a', .single '^', .named .digit, .single '-']⟩ := by cbv

end GreedyMatch.CharSet

import Mathlib.Data.List.Basic
import GreedyMatch.Capture.Display

/-!
# Written captures can be told apart

Every part of a written capture tells where it ends (`Delimits`), whatever follows it: digits end
before their bracket, an escaped character with its last digit or letter, a quoted text with the quote
that is not escaped, a group with the bracket that no item has opened. So no two captures are written
alike.
-/

set_option autoImplicit false

namespace GreedyMatch

/-- No other code starts as `code a` does, so what follows `code a` can be told from it. -/
def Delimits {α : Type} (code : α → List Char) (a : α) : Prop :=
  ∀ b rest more, code a ++ rest = code b ++ more → a = b ∧ rest = more

/-- Codes in a row can be told apart if none of them starts like the end of the row. -/
theorem delimits_flatMap {α : Type} {code : α → List Char} {stop : Char}
    (hstop : ∀ a, ∃ c tail, code a = c :: tail ∧ c ≠ stop) {row : List α}
    (h : ∀ a ∈ row, Delimits code a) : Delimits (fun row => row.flatMap code ++ [stop]) row := by
  intro other rest more heq
  simp only [List.append_assoc, List.singleton_append] at heq
  induction row generalizing other with
  | nil =>
    cases other with
    | nil =>
      obtain ⟨-, hrest⟩ := List.cons.inj heq
      exact ⟨rfl, hrest⟩
    | cons b other =>
      obtain ⟨c, tail, hcode, hc⟩ := hstop b
      rw [List.flatMap_cons, hcode] at heq
      exact absurd (List.cons.inj heq).1.symm hc
  | cons a row ih =>
    obtain ⟨ha, hrow⟩ := List.forall_mem_cons.mp h
    cases other with
    | nil =>
      obtain ⟨c, tail, hcode, hc⟩ := hstop a
      rw [List.flatMap_cons, hcode] at heq
      exact absurd (List.cons.inj heq).1 hc
    | cons b other =>
      rw [List.flatMap_cons, List.flatMap_cons, List.append_assoc, List.append_assoc] at heq
      obtain ⟨rfl, hlater⟩ := ha b _ _ heq
      obtain ⟨rfl, hrest⟩ := ih hrow other hlater
      exact ⟨rfl, hrest⟩

namespace Text.Quoted

theorem digitChar_inj : ∀ first < 16, ∀ second < 16,
    Nat.digitChar first = Nat.digitChar second → first = second := by decide

theorem digitChar_ne_close : ∀ digit < 16, Nat.digitChar digit ≠ '\x7d' := by decide

theorem close_not_mem_toDigits (code : Nat) : '\x7d' ∉ Nat.toDigits 16 code := by
  induction code using Nat.strongRecOn with
  | ind code ih =>
    by_cases hlt : code < 16
    · rw [Nat.toDigits_of_lt_base hlt, List.mem_singleton]
      exact (digitChar_ne_close code hlt).symm
    · rw [Nat.toDigits_of_base_le (by decide) (by omega), List.mem_append, List.mem_singleton]
      have hlast := digitChar_ne_close (code % 16) (by omega)
      exact fun hmem => hmem.elim (ih (code / 16) (by omega)) hlast.symm

theorem toDigits_inj {first second : Nat} (h : Nat.toDigits 16 first = Nat.toDigits 16 second) :
    first = second := by
  have hsmall (code : Nat) : (Nat.toDigits 16 code).length ≤ 1 ↔ code < 16 :=
    Nat.length_toDigits_le_iff (by decide) (by decide)
  induction first using Nat.strongRecOn generalizing second with
  | ind first ih =>
    have hsame : first < 16 ↔ second < 16 := by rw [← hsmall, ← hsmall, h]
    by_cases hlt : first < 16
    · have hother := hsame.mp hlt
      rw [Nat.toDigits_of_lt_base hlt, Nat.toDigits_of_lt_base hother] at h
      exact digitChar_inj first hlt second hother (List.cons.inj h).1
    · rw [Nat.toDigits_of_base_le (by decide) (by omega),
        Nat.toDigits_of_base_le (n := second) (by decide) (by omega)] at h
      obtain ⟨hhigh, hlow⟩ := List.append_inj' h rfl
      have hquotient := ih (first / 16) (by omega) hhigh
      have hremainder := digitChar_inj (first % 16) (by omega) (second % 16) (by omega)
        (List.cons.inj hlow).1
      omega

theorem takeWhile_toDigits (code : Nat) (rest : List Char) :
    (Nat.toDigits 16 code ++ '\x7d' :: rest).takeWhile (· != '\x7d') = Nat.toDigits 16 code := by
  have hdigits : ∀ c ∈ Nat.toDigits 16 code, (c != '\x7d') = true := by
    intro c hmem
    exact bne_iff_ne.mpr fun hclose => close_not_mem_toDigits code (hclose ▸ hmem)
  rw [List.takeWhile_append_of_pos hdigits, List.takeWhile_cons_of_neg (by decide),
    List.append_nil]

theorem delimits_codePoint (c : Char) : Delimits codePoint c := by
  intro d rest more h
  simp only [codePoint, List.append_assoc, List.append_cancel_left_eq,
    List.singleton_append] at h
  have hdigits : Nat.toDigits 16 c.toNat = Nat.toDigits 16 d.toNat := by
    rw [← takeWhile_toDigits c.toNat rest, h, takeWhile_toDigits]
  obtain rfl := Char.toNat_inj.mp (toDigits_inj hdigits)
  exact ⟨rfl, (List.cons.inj (List.append_cancel_left h)).2⟩

def marked : List (Char × Char) :=
  [('\x00', '0'), ('\t', 't'), ('\n', 'n'), ('\r', 'r'), ('\\', '\\'), ('"', '"')]

inductive Spelled : Char → List Char → Prop
  | mark {c mark} (hmark : (c, mark) ∈ marked) : Spelled c ['\\', mark]
  | itself {c} (hbackslash : c ≠ '\\') (hquote : c ≠ '"') : Spelled c [c]
  | code {c} : Spelled c (codePoint c)

theorem spelled_escape (c : Char) : Spelled c (escape '"' c) := by
  rw [escape]
  split
  · rename_i mark hcontrol
    refine .mark ?_
    unfold controlMark at hcontrol
    split at hcontrol <;> cases hcontrol <;> decide
  · split
    · rename_i hown
      have hcases : c = '\\' ∨ c = '"' := by simpa using hown
      refine .mark ?_
      rcases hcases with rfl | rfl <;> decide
    · rename_i hown
      obtain ⟨hbackslash, hquote⟩ : c ≠ '\\' ∧ c ≠ '"' := by simpa using hown
      split
      · exact .itself hbackslash hquote
      · exact .code

theorem marked_inj : ∀ first ∈ marked, ∀ second ∈ marked,
    first.2 = second.2 → first.1 = second.1 := by decide

theorem marked_ne_code : ∀ entry ∈ marked, entry.2 ≠ 'u' := by decide

theorem Spelled.delimits {c d : Char} {first second rest more : List Char} (hc : Spelled c first)
    (hd : Spelled d second) (h : first ++ rest = second ++ more) : c = d ∧ rest = more := by
  cases hc with
  | mark hmark =>
    cases hd with
    | mark hother =>
      simp only [List.cons_append, List.nil_append, List.cons.injEq, true_and] at h
      exact ⟨marked_inj _ hmark _ hother h.1, h.2⟩
    | itself hbackslash hquote => exact absurd (List.cons.inj h).1.symm hbackslash
    | code => exact absurd (List.cons.inj (List.cons.inj h).2).1 (marked_ne_code _ hmark)
  | itself hbackslash hquote =>
    cases hd with
    | mark hother => exact absurd (List.cons.inj h).1 hbackslash
    | itself => exact List.cons.inj h
    | code => exact absurd (List.cons.inj h).1 hbackslash
  | code =>
    cases hd with
    | mark hother => exact absurd (List.cons.inj (List.cons.inj h).2).1.symm (marked_ne_code _ hother)
    | itself hbackslash hquote => exact absurd (List.cons.inj h).1.symm hbackslash
    | code => exact delimits_codePoint c d rest more h

theorem delimits_escape (c : Char) : Delimits (escape '"') c := fun d _ _ h =>
  (spelled_escape c).delimits (spelled_escape d) h

theorem Spelled.exists_cons {c : Char} {text : List Char} (h : Spelled c text) :
    ∃ first tail, text = first :: tail ∧ first ≠ '"' := by
  cases h with
  | mark hmark => exact ⟨'\\', _, rfl, by decide⟩
  | itself hbackslash hquote => exact ⟨c, [], rfl, hquote⟩
  | code => exact ⟨'\\', _, rfl, by decide⟩

theorem delimits_encode (text : List Char) : Delimits (encode '"') text := by
  intro other rest more h
  have hrow : Delimits (fun text => text.flatMap (escape '"') ++ ['"']) text :=
    delimits_flatMap (fun c => (spelled_escape c).exists_cons) fun c _ => delimits_escape c
  exact hrow other rest more (List.cons.inj h).2

end Text.Quoted

namespace Capture

theorem exists_written (capture : Capture) :
    ∃ first tail, capture.written = first :: tail ∧ first ≠ ']' := by
  cases capture with
  | leaf text => exact ⟨'"', _, by rw [written, Text.Quoted.encode, List.cons_append], by decide⟩
  | group items => exact ⟨'[', _, by rw [written, List.cons_append], by decide⟩

theorem writtenRest_eq_flatMap (items : List Capture) :
    writtenRest items = items.flatMap fun item => ',' :: ' ' :: item.written := by
  induction items with
  | nil => rfl
  | cons item items ih => rw [writtenRest, ih, List.flatMap_cons, List.cons_append, List.cons_append]

theorem delimits_writtenRest {items : List Capture} (h : ∀ item ∈ items, Delimits written item) :
    Delimits (fun items => writtenRest items ++ [']']) items := by
  simp only [writtenRest_eq_flatMap]
  refine delimits_flatMap (fun item => ⟨',', _, rfl, by decide⟩) fun item hmem => ?_
  intro other rest more heq
  exact h item hmem other rest more (List.cons.inj (List.cons.inj heq).2).2

theorem delimits_writtenItems {items : List Capture} (h : ∀ item ∈ items, Delimits written item) :
    Delimits (fun items => writtenItems items ++ [']']) items := by
  intro others rest more heq
  cases items with
  | nil =>
    cases others with
    | nil => exact ⟨rfl, (List.cons.inj heq).2⟩
    | cons other others =>
      obtain ⟨c, tail, hwritten, hc⟩ := other.exists_written
      simp only [writtenItems, hwritten] at heq
      exact absurd (List.cons.inj heq).1.symm hc
  | cons item items =>
    cases others with
    | nil =>
      obtain ⟨c, tail, hwritten, hc⟩ := item.exists_written
      simp only [writtenItems, hwritten] at heq
      exact absurd (List.cons.inj heq).1 hc
    | cons other others =>
      -- Behind a comma each, the items are the rest of a group.
      have hrest := delimits_writtenRest h (other :: others) rest more
      exact hrest (congrArg (fun text => ',' :: ' ' :: text) heq)

mutual

theorem delimits_written : ∀ capture : Capture, Delimits written capture
  | .leaf text, .leaf other, rest, more, h => by
    obtain ⟨htext, hrest⟩ := Text.Quoted.delimits_encode text.toList other.toList rest more h
    exact ⟨congrArg leaf (String.toList_inj.mp htext), hrest⟩
  | .leaf text, .group others, rest, more, h => absurd (List.cons.inj h).1 (by decide)
  | .group items, .leaf other, rest, more, h => absurd (List.cons.inj h).1 (by decide)
  | .group items, .group others, rest, more, h => by
    obtain ⟨hitems, hrest⟩ :=
      delimits_writtenItems (delimits_each items) others rest more (List.cons.inj h).2
    exact ⟨congrArg group hitems, hrest⟩

theorem delimits_each : ∀ items : List Capture, ∀ item ∈ items, Delimits written item
  | [] => fun _ hmem => absurd hmem List.not_mem_nil
  | item :: items => List.forall_mem_cons.mpr ⟨delimits_written item, delimits_each items⟩

end

/-- No two captures are displayed alike. -/
theorem display_eq_iff (first second : Capture) :
    first.display = second.display ↔ first = second := by
  constructor
  · intro h
    have hwritten : first.written ++ [] = second.written ++ [] := by
      rw [String.ofList_injective h]
    exact (delimits_written first second [] [] hwritten).1
  · rintro rfl
    rfl

end Capture

end GreedyMatch

import GreedyMatch.CharSet.Reading

set_option autoImplicit false

namespace GreedyMatch.CharSet

/-- The name between `[:` and `:]`. The name of `any` is never written so. -/
def Category.name : Category → String
  | .any => "any"
  | .digit => "digit"
  | .word => "word"
  | .space => "space"
  | .alpha => "alpha"
  | .upper => "upper"
  | .lower => "lower"
  | .alnum => "alnum"
  | .punct => "punct"
  | .print => "print"

inductive Escapes : Char → Escape → Prop
  | digit : Escapes 'd' (.item (.named .digit))
  | space : Escapes 's' (.item (.named .space))
  | word : Escapes 'w' (.item (.named .word))
  | noDigit : Escapes 'D' (.negated .digit 'D')
  | noSpace : Escapes 'S' (.negated .space 'S')
  | noWord : Escapes 'W' (.negated .word 'W')
  | null : Escapes '0' (.item (.single '\x00'))
  | lineFeed : Escapes 'n' (.item (.single '\n'))
  | carriageReturn : Escapes 'r' (.item (.single '\r'))
  | tab : Escapes 't' (.item (.single '\t'))
  | itself {c} (h : Text.isPunctuation c = true ∨ c = ' ') : Escapes c (.item (.single c))

inductive SpellsSimple : List Char → Item → Prop
  | raw {c} (hraw : c ≠ '\\') : SpellsSimple [c] (.single c)
  | escaped {letter item} (hescapes : Escapes letter (.item item)) :
      SpellsSimple ['\\', letter] item
  | named {category : Category} (hname : category ≠ .any) :
      SpellsSimple ('[' :: ':' :: category.name.toList ++ [':', ']']) (.named category)

/-- The spellings of an item between brackets. A range does not end with a raw `]`. -/
inductive SpellsItem : List Char → Item → Prop
  | simple {text item} (h : SpellsSimple text item) : SpellsItem text item
  | range {first last lo hi} (hlo : SpellsSimple first (.single lo))
      (hhi : SpellsSimple last (.single hi)) (hlast : last ≠ [']']) (hle : lo ≤ hi) :
      SpellsItem (first ++ '-' :: last) (.range lo hi)

/-- The item spelled by `text` ends there although `rest` follows: a raw `[` before `:` would be the
start of a name, and a single character before `-` and something other than `]` that of a range. -/
def EndsBefore (text : List Char) (item : Item) (rest : List Char) : Prop :=
  (text = ['['] → rest.head? ≠ some ':') ∧
    ∀ c next tail, item = .single c → rest = '-' :: next :: tail → next = ']'

/-- Items and the bracket that closes their list. A raw `]` is an item only where `leading` says that
no item comes before it. -/
inductive SpellsList : Bool → List Char → List Item → Prop
  | close : SpellsList false [']'] []
  | item {leading text item rest items} (hitem : SpellsItem text item)
      (hstart : leading = true ∨ text.head? ≠ some ']') (hends : EndsBefore text item rest)
      (hrest : SpellsList false rest items) : SpellsList leading (text ++ rest) (item :: items)

/-- A list has at least one item, and a `^` at its start always negates. -/
inductive SpellsSet : List Char → CharSet → Prop
  | any : SpellsSet ['.'] ⟨false, [.named .any]⟩
  | escaped {letter item} (hescapes : Escapes letter (.item item)) :
      SpellsSet ['\\', letter] ⟨false, [item]⟩
  | negated {letter own category} (hescapes : Escapes letter (.negated category own)) :
      SpellsSet ['\\', letter] ⟨true, [.named category]⟩
  | single {c} (hdot : c ≠ '.') (hbracket : c ≠ '[') (hbackslash : c ≠ '\\') :
      SpellsSet [c] ⟨false, [.single c]⟩
  | list {text items} (hlist : SpellsList true text items) (hcaret : text.head? ≠ some '^') :
      SpellsSet ('[' :: text) ⟨false, items⟩
  | negatedList {text items} (hlist : SpellsList true text items) :
      SpellsSet ('[' :: '^' :: text) ⟨true, items⟩

inductive Strips : List Char → List Char → Prop
  | slashes {body} (hbody : body ≠ []) : Strips ('/' :: body ++ ['/']) body
  | bare {text} (hbare : ∀ body, body ≠ [] → text ≠ '/' :: body ++ ['/']) : Strips text text

theorem Category.name_noColon (category : Category) :
    ∀ c ∈ category.name.toList, (c != ':') = true := by
  refine List.all_eq_true.mp ?_
  cases category <;> rfl

theorem Escapes.eq_single_of_mark {c : Char} {escape : Escape} (h : Escapes c escape)
    (hmark : Text.isPunctuation c = true ∨ c = ' ') : escape = .item (.single c) := by
  cases h with
  | itself => rfl
  | _ => exact absurd hmark (by decide)

theorem SpellsSimple.exists_cons {text : List Char} {item : Item} (h : SpellsSimple text item) :
    ∃ c tail, text = c :: tail ∧ (c = ']' → text = [']']) := by
  cases h with
  | @raw c hraw =>
    refine ⟨c, [], rfl, ?_⟩
    rintro rfl
    rfl
  | escaped hescapes => exact ⟨_, _, rfl, fun h => absurd h (by decide)⟩
  | named hname => exact ⟨_, _, rfl, fun h => absurd h (by decide)⟩

theorem SpellsItem.head?_append {own rest : List Char} {item : Item} (h : SpellsItem own item) :
    (own ++ rest).head? = own.head? := by
  cases h with
  | simple hsimple =>
    obtain ⟨c, tail, rfl, -⟩ := hsimple.exists_cons
    rfl
  | range hlo hhi hlast hle =>
    obtain ⟨c, tail, rfl, -⟩ := hlo.exists_cons
    rfl

end GreedyMatch.CharSet

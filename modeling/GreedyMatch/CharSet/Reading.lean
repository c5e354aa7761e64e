import GreedyMatch.CharSet.Basic
import GreedyMatch.Text.Quoted

/-!
# Reading character sets

The text of a set is a dot, an escape, a bracketed list, or any other character standing for itself;
slashes may surround it. Reading goes from left to right. Each reader takes the characters that are
left and gives what it has read together with what is left then.

Inside brackets `]` stands for itself when it comes first and ends the list otherwise, and `-`
stands for itself unless it follows a single character and something other than `]` follows it.
-/

set_option autoImplicit false

namespace GreedyMatch.CharSet

inductive Error where
  | empty
  | unclosedBracket
  | unclosedName
  | danglingEscape
  | unknownEscape (c : Char)
  | unknownName (name : String)
  | invalidRange (lo hi : Char)
  | invalidRangeEnd
  | negatedEscapeInBracket (letter : Char)
  | trailing (c : Char)
deriving DecidableEq

def Error.message : Error → String
  | .empty => "empty character class"
  | .unclosedBracket => "unclosed '[' in character class"
  | .unclosedName => "unclosed '[:' in character class"
  | .danglingEscape => "'\\' at end of character class"
  | .unknownEscape c => "unknown escape: \\" ++ c.toString
  | .unknownName name => "unknown class name: [:" ++ name ++ ":]"
  | .invalidRange lo hi =>
    "invalid range " ++ Text.Quoted.ofChar lo ++ "-" ++ Text.Quoted.ofChar hi
  | .invalidRangeEnd => "range end must be a single character"
  | .negatedEscapeInBracket letter =>
    "negated escape \\" ++ letter.toString ++ " is not allowed inside '[...]'"
  | .trailing c => "unexpected " ++ Text.Quoted.ofChar c ++ " after character class"

def escapedCategory : Char → Option Category
  | 'd' => some .digit
  | 's' => some .space
  | 'w' => some .word
  | _ => none

def escapedControl : Char → Option Char
  | '0' => some '\x00'
  | 'n' => some '\n'
  | 'r' => some '\r'
  | 't' => some '\t'
  | _ => none

def namedCategories : List (String × Category) := [
  ("alnum", .alnum), ("alpha", .alpha), ("digit", .digit), ("lower", .lower), ("print", .print),
  ("punct", .punct), ("space", .space), ("upper", .upper), ("word", .word)]

/-- What an escape stands for: an item, or everything outside a category, with the letter that
said so. -/
inductive Escape where
  | item (item : Item)
  | negated (category : Category) (letter : Char)
deriving DecidableEq

def Escape.ofChar (c : Char) : Except Error Escape :=
  match escapedCategory c, escapedCategory c.toLower, escapedControl c with
  | some category, _, _ => .ok (.item (.named category))
  | none, some category, _ => .ok (.negated category c)
  | none, none, some control => .ok (.item (.single control))
  | none, none, none =>
    if Text.isPunctuation c || c = ' ' then .ok (.item (.single c)) else .error (.unknownEscape c)

def readEscape : List Char → Except Error (Escape × List Char)
  | [] => .error .danglingEscape
  | c :: rest => do return (← Escape.ofChar c, rest)

def categoryNamed (name : String) : Except Error Category :=
  match namedCategories.lookup name with
  | some category => .ok category
  | none => .error (.unknownName name)

def readName (text : List Char) : Except Error (Category × List Char) :=
  match text.dropWhile (· != ':') with
  | ':' :: ']' :: rest => do
    return (← categoryNamed (String.ofList (text.takeWhile (· != ':'))), rest)
  | _ => .error .unclosedName

def readSimpleItem : List Char → Except Error (Item × List Char)
  | [] => .error .unclosedBracket
  | '[' :: ':' :: rest => do
    let (category, rest) ← readName rest
    return (.named category, rest)
  | '\\' :: rest => do
    match ← readEscape rest with
    | (.item item, rest) => return (item, rest)
    | (.negated _ letter, _) => throw (.negatedEscapeInBracket letter)
  | c :: rest => .ok (.single c, rest)

def rangeTail? : List Char → Option (List Char)
  | '-' :: c :: rest => if c = ']' then none else some (c :: rest)
  | _ => none

def readRangeEnd : List Char → Except Error (Char × List Char)
  | [] => .error .unclosedBracket
  | '\\' :: rest => do
    match ← readEscape rest with
    | (.item (.single c), rest) => return (c, rest)
    | _ => throw .invalidRangeEnd
  | c :: rest => .ok (c, rest)

/-- The item that starts with `item`, which is the start of a range if a range can follow. -/
def extendItem (item : Item) (rest : List Char) : Except Error (Item × List Char) :=
  match item, rangeTail? rest with
  | .single lo, some tail => do
    let (hi, rest) ← readRangeEnd tail
    if hi < lo then throw (.invalidRange lo hi) else return (.range lo hi, rest)
  | _, _ => .ok (item, rest)

def readItem (text : List Char) : Except Error (Item × List Char) := do
  let (item, rest) ← readSimpleItem text
  extendItem item rest

theorem bind_eq_ok_iff {α β : Type} {step : Except Error α} {next : α → Except Error β} {b : β} :
    (step >>= next) = .ok b ↔ ∃ a, step = .ok a ∧ next a = .ok b := by
  cases step with
  | error e => simp [bind, Except.bind]
  | ok a => simp [bind, Except.bind]

theorem readEscape_length_lt {text rest : List Char} {escape : Escape}
    (h : readEscape text = .ok (escape, rest)) : rest.length < text.length := by
  cases text with
  | nil => cases h
  | cons c tail =>
    obtain ⟨found, _, hpair⟩ := bind_eq_ok_iff.mp h
    cases hpair
    exact Nat.lt_succ_self _

theorem readName_length_lt {text rest : List Char} {category : Category}
    (h : readName text = .ok (category, rest)) : rest.length < text.length := by
  unfold readName at h
  split at h
  · rename_i tail heq
    have hle := (List.dropWhile_sublist (· != ':') (l := text)).length_le
    rw [heq] at hle
    obtain ⟨found, _, hpair⟩ := bind_eq_ok_iff.mp h
    cases hpair
    simp only [List.length_cons] at hle
    omega
  · cases h

theorem readSimpleItem_length_lt {text rest : List Char} {item : Item}
    (h : readSimpleItem text = .ok (item, rest)) : rest.length < text.length := by
  unfold readSimpleItem at h
  split at h
  · cases h
  · obtain ⟨⟨category, left⟩, hname, hpair⟩ := bind_eq_ok_iff.mp h
    have hlt := readName_length_lt hname
    cases hpair
    simp only [List.length_cons]
    omega
  · obtain ⟨⟨escape, left⟩, hescape, hpair⟩ := bind_eq_ok_iff.mp h
    have hlt := readEscape_length_lt hescape
    cases escape with
    | item item =>
      cases hpair
      simp only [List.length_cons]
      omega
    | negated category letter => cases hpair
  · cases h
    exact Nat.lt_succ_self _

theorem readRangeEnd_length_lt {text rest : List Char} {c : Char}
    (h : readRangeEnd text = .ok (c, rest)) : rest.length < text.length := by
  unfold readRangeEnd at h
  split at h
  · cases h
  · obtain ⟨⟨escape, left⟩, hescape, hpair⟩ := bind_eq_ok_iff.mp h
    have hlt := readEscape_length_lt hescape
    split at hpair
    · cases hpair
      rename_i heq
      cases heq
      simp only [List.length_cons]
      omega
    · cases hpair
  · cases h
    exact Nat.lt_succ_self _

theorem rangeTail_length_lt {text tail : List Char} (h : rangeTail? text = some tail) :
    tail.length < text.length := by
  unfold rangeTail? at h
  split at h
  · split at h
    · cases h
    · cases h
      exact Nat.lt_succ_self _
  · cases h

theorem extendItem_length_le {item found : Item} {text rest : List Char}
    (h : extendItem item text = .ok (found, rest)) : rest.length ≤ text.length := by
  unfold extendItem at h
  split at h
  · rename_i tail htail
    obtain ⟨⟨hi, left⟩, hend, hpair⟩ := bind_eq_ok_iff.mp h
    have htl := rangeTail_length_lt htail
    have hlt := readRangeEnd_length_lt hend
    dsimp only at hpair
    split at hpair
    · cases hpair
    · cases hpair
      omega
  · cases h
    exact Nat.le_refl _

theorem readItem_length_lt {text rest : List Char} {item : Item}
    (h : readItem text = .ok (item, rest)) : rest.length < text.length := by
  obtain ⟨⟨simple, left⟩, hsimple, hextend⟩ := bind_eq_ok_iff.mp h
  have hlt := readSimpleItem_length_lt hsimple
  have hle := extendItem_length_le hextend
  omega

def readItems (text : List Char) : Except Error (List Item × List Char) :=
  match text with
  | ']' :: rest => .ok ([], rest)
  | text =>
    match _h : readItem text with
    | .error e => .error e
    | .ok (item, rest) => do
      let (items, rest) ← readItems rest
      return (item :: items, rest)
termination_by text.length
decreasing_by exact readItem_length_lt _h

def readList (negated : Bool) (text : List Char) : Except Error (CharSet × List Char) := do
  let (first, rest) ← readItem text
  let (items, rest) ← readItems rest
  return (⟨negated, first :: items⟩, rest)

def readBracket : List Char → Except Error (CharSet × List Char)
  | '^' :: rest => readList true rest
  | text => readList false text

def readSet : List Char → Except Error (CharSet × List Char)
  | [] => .error .empty
  | '.' :: rest => .ok (ofItems [.named .any], rest)
  | '[' :: rest => readBracket rest
  | '\\' :: rest => do
    match ← readEscape rest with
    | (.item item, rest) => return (ofItems [item], rest)
    | (.negated category _, rest) => return ((ofItems [.named category]).negate, rest)
  | c :: rest => .ok (ofItems [.single c], rest)

/-- One pair of surrounding slashes is dropped if something stands between them. -/
def stripSlashes : List Char → List Char
  | '/' :: rest => if 2 ≤ rest.length ∧ rest.getLast? = some '/' then rest.dropLast else '/' :: rest
  | text => text

def readChars (text : List Char) : Except Error CharSet := do
  match ← readSet (stripSlashes text) with
  | (set, []) => return set
  | (_, c :: _) => throw (.trailing c)

def read (text : String) : Except Error CharSet := readChars text.toList

end GreedyMatch.CharSet

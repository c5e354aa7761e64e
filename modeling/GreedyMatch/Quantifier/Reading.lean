import GreedyMatch.Quantifier.Basic
import GreedyMatch.Text.Blank

set_option autoImplicit false

namespace GreedyMatch.Quantifier

/-- Counts fit in sixty-four bits: they are below this number. -/
def countLimit : Nat := 0x10000000000000000

def ofDigits (digits : List Char) : Except Error Nat :=
  if Nat.ofDigitChars 10 digits 0 < countLimit then .ok (Nat.ofDigitChars 10 digits 0)
  else .error .invalidNumber

def readCount (field : List Char) : Except Error (Option Nat) :=
  match Text.trim field with
  | [] => .ok none
  | digits =>
    match digits.find? (!·.isDigit) with
    | some c => .error (.unexpected c)
    | none => do return some (← ofDigits digits)

def fields (text : List Char) : List Char × Option (List Char) :=
  match text.dropWhile (· != ',') with
  | [] => (text, none)
  | _ :: second => (text.takeWhile (· != ','), some second)

def ofFields : Option Nat → Option (Option Nat) → Except Error Quantifier
  | none, none => .error .empty
  | some min, none => .ok (.atLeast min)
  | none, some none => .ok zeroOrMore
  | some min, some none => .ok (.atLeast min)
  | none, some (some max) => ofCounts 0 max
  | some min, some (some max) => ofCounts min max

def readCounts (text : List Char) : Except Error Quantifier := do
  match fields text with
  | (first, none) => ofFields (← readCount first) none
  | (first, some second) =>
    let min ← readCount first
    let max ← readCount second
    ofFields min (some max)

def before (close : Char) (text : List Char) : Except Error (List Char) :=
  if text.getLast? = some close then .ok text.dropLast else .error .unclosed

def unwrap : List Char → Except Error (List Char)
  | '[' :: rest => before ']' rest
  | '\x7b' :: rest => before '\x7d' rest
  | text => .ok text

def readChars (text : List Char) : Except Error Quantifier :=
  match Text.trim text with
  | [] => .error .empty
  | ['*'] => .ok zeroOrMore
  | ['+'] => .ok oneOrMore
  | ['?'] => .ok optional
  | trimmed => do readCounts (← unwrap trimmed)

def read (text : String) : Except Error Quantifier := readChars text.toList

end GreedyMatch.Quantifier

import GreedyMatch.Text.Extender
import GreedyMatch.Text.Ignorable
import GreedyMatch.Text.Unprintable

set_option autoImplicit false

namespace GreedyMatch.Text.Quoted

def controlMark : Char → Option Char
  | '\x00' => some '0'
  | '\t' => some 't'
  | '\n' => some 'n'
  | '\r' => some 'r'
  | _ => none

/-- The halfwidth sound marks extend the letter before them and still fill a place of their own. -/
def isHalfwidthMark (c : Char) : Bool := '\uff9e' ≤ c && c ≤ '\uff9f'

def isCombining (c : Char) : Bool := isExtender c && !isHalfwidthMark c

/-- Whether the character can be seen, and told from its neighbours, when it is written as it is. -/
def standsAlone (c : Char) : Bool := !isCombining c && !isIgnorable c && !isUnprintable c

def codePoint (c : Char) : List Char :=
  ['\\', 'u', '\x7b'] ++ Nat.toDigits 16 c.toNat ++ ['\x7d']

def escape (delimiter c : Char) : List Char :=
  match controlMark c with
  | some mark => ['\\', mark]
  | none =>
    if c = '\\' || c = delimiter then ['\\', c]
    else if standsAlone c then [c]
    else codePoint c

def encode (delimiter : Char) (text : List Char) : List Char :=
  delimiter :: text.flatMap (escape delimiter) ++ [delimiter]

def ofChar (c : Char) : String := String.ofList (encode '\'' [c])

def ofString (text : String) : String := String.ofList (encode '"' text.toList)

end GreedyMatch.Text.Quoted

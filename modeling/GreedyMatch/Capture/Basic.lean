set_option autoImplicit false

namespace GreedyMatch

/-- What a match has captured: a text, or the captures of its parts in order. A group may be empty,
and so may the text of a leaf. -/
inductive Capture where
  | leaf (text : String)
  | group (items : List Capture)

namespace Capture

mutual

def decideEq : (first second : Capture) → Decidable (first = second)
  | .leaf text, .leaf other =>
    if h : text = other then isTrue (congrArg leaf h) else isFalse fun heq => h (leaf.inj heq)
  | .leaf _, .group _ => isFalse nofun
  | .group _, .leaf _ => isFalse nofun
  | .group items, .group others =>
    match decideEqAll items others with
    | isTrue h => isTrue (congrArg group h)
    | isFalse h => isFalse fun heq => h (group.inj heq)

def decideEqAll : (items others : List Capture) → Decidable (items = others)
  | [], [] => isTrue rfl
  | [], _ :: _ => isFalse nofun
  | _ :: _, [] => isFalse nofun
  | item :: items, other :: others =>
    match decideEq item other, decideEqAll items others with
    | isTrue h, isTrue ht => isTrue (by rw [h, ht])
    | isFalse h, _ => isFalse fun heq => h (List.cons.inj heq).1
    | _, isFalse h => isFalse fun heq => h (List.cons.inj heq).2

end

instance : DecidableEq Capture := decideEq

def empty : Capture := .group []

def ofChar (c : Char) : Capture := .leaf c.toString

def ofRepeats : List Capture → Capture
  | [only] => only
  | repeats => .group repeats

def isEmptyGroup : Capture → Bool
  | .group [] => true
  | _ => false

def leafText? : Capture → Option String
  | .leaf text => some text
  | .group _ => none

def groupItems? : Capture → Option (List Capture)
  | .leaf _ => none
  | .group items => some items

mutual

def text : Capture → String
  | .leaf text => text
  | .group items => textOfAll items

def textOfAll : List Capture → String
  | [] => ""
  | item :: items => item.text ++ textOfAll items

end

mutual

def leaves : Capture → List String
  | .leaf text => [text]
  | .group items => leavesOfAll items

def leavesOfAll : List Capture → List String
  | [] => []
  | item :: items => item.leaves ++ leavesOfAll items

end

theorem leavesOfAll_eq_flatMap (items : List Capture) :
    leavesOfAll items = items.flatMap leaves := by
  induction items with
  | nil => rfl
  | cons item items ih => rw [leavesOfAll, ih, List.flatMap_cons]

end Capture

end GreedyMatch

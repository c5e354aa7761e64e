import GreedyMatch.CharSet.Basic
import GreedyMatch.Event
import GreedyMatch.Outcome
import GreedyMatch.Quantifier.Basic

set_option autoImplicit false

namespace GreedyMatch

inductive CharTest where
  | ofSet (set : CharSet)
  | ofPredicate (accepts : Char → Bool)

def CharTest.accepts : CharTest → Char → Bool
  | .ofSet set, c => set.accepts c
  | .ofPredicate accepts, c => accepts c

mutual

structure Matcher where
  attempt : Attempt
  quantifier : Quantifier

/-- What is tried at one place of the input. A literal keeps its characters beside its text, so that
no attempt splits the text again. A custom attempt says itself what it takes of the characters that
are left. -/
inductive Attempt where
  | literal (text : String) (chars : List Char)
  | char (test : CharTest)
  | sequence (children : List Matcher)
  | alternation (children : List Matcher)
  | nested (inner : Matcher)
  | custom (answer : List Char → Outcome)

end

/-- A nested matcher is reported like any other custom attempt. -/
def Attempt.kind : Attempt → Kind
  | .literal _ _ => .literal
  | .char _ => .char
  | .sequence _ => .sequence
  | .alternation _ => .alternation
  | .nested _ => .custom
  | .custom _ => .custom

def Matcher.kind (matcher : Matcher) : Kind := matcher.attempt.kind

end GreedyMatch

import GreedyMatch.Logged
import GreedyMatch.Matcher.Basic

set_option autoImplicit false

namespace GreedyMatch

inductive BuildError where
  | vacuous (reason : Vacuity)
  | quantifier (error : Quantifier.Error)
deriving DecidableEq

def BuildError.message : BuildError → String
  | .vacuous .literal => "literal pattern must not be empty"
  | .vacuous .sequence => "sequence needs at least one child matcher"
  | .vacuous .alternation => "any needs at least one child matcher"
  | .quantifier error => error.message

def Attempt.vacuity? : Attempt → Option Vacuity
  | .literal text _ => if text = "" then some .literal else none
  | .sequence [] => some .sequence
  | .alternation [] => some .alternation
  | _ => none

namespace Matcher

variable {m : Type → Type} [Monad m] [Reports m]

/-- The quantifier is looked at first; only an attempt with nothing to match is reported. -/
def build (attempt : Attempt) (quantifier : Quantifier) : m (Except BuildError Matcher) :=
  match quantifier.validate with
  | .error error => pure (.error (.quantifier error))
  | .ok quantifier =>
    match attempt.vacuity? with
    | some reason => do
      report (.rejected reason)
      return .error (.vacuous reason)
    | none => pure (.ok ⟨attempt, quantifier⟩)

def literal (text : String) (quantifier : Quantifier) : m (Except BuildError Matcher) :=
  build (.literal text text.toList) quantifier

def charSet (set : CharSet) (quantifier : Quantifier) : m (Except BuildError Matcher) :=
  build (.char (.ofSet set)) quantifier

def predicate (accepts : Char → Bool) (quantifier : Quantifier) : m (Except BuildError Matcher) :=
  build (.char (.ofPredicate accepts)) quantifier

def sequence (children : List Matcher) (quantifier : Quantifier) : m (Except BuildError Matcher) :=
  build (.sequence children) quantifier

def alternation (children : List Matcher) (quantifier : Quantifier) :
    m (Except BuildError Matcher) :=
  build (.alternation children) quantifier

def custom (answer : List Char → Outcome) (quantifier : Quantifier) :
    m (Except BuildError Matcher) :=
  build (.custom answer) quantifier

def nested (inner : Matcher) (quantifier : Quantifier) : m (Except BuildError Matcher) :=
  build (.nested inner) quantifier

end Matcher

end GreedyMatch

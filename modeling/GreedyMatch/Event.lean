set_option autoImplicit false

namespace GreedyMatch

inductive Vacuity where
  | literal | sequence | alternation
deriving DecidableEq

inductive Kind where
  | literal | char | sequence | alternation | custom
deriving DecidableEq

def Kind.name : Kind → String
  | .literal => "literal"
  | .char => "char"
  | .sequence => "sequence"
  | .alternation => "any"
  | .custom => "custom"

/-- A log that takes traces takes debug events as well. -/
inductive Level where
  | debug | trace
deriving DecidableEq

def Level.name : Level → String
  | .debug => "DEBUG"
  | .trace => "TRACE"

/-- Sizes are numbers of characters of the input at hand. -/
inductive Event where
  | rejected (reason : Vacuity)
  | overrun (claimed size : Nat)
  | applied (kind : Kind) (size : Nat) (length? : Option Nat)
  | searched (kind : Kind) (size : Nat) (span? : Option (Nat × Nat))
deriving DecidableEq

namespace Event

def level : Event → Level
  | .rejected _ => .debug
  | .overrun _ _ => .debug
  | .applied _ _ _ => .trace
  | .searched _ _ _ => .trace

def message : Event → String
  | .rejected .literal => "rejected empty literal pattern"
  | .rejected .sequence => "rejected sequence with no children"
  | .rejected .alternation => "rejected alternation with no children"
  | .overrun claimed size => s!"custom attempt claimed {claimed} of {size} chars"
  | .applied kind size none => kind.name ++ s!" matcher over {size} chars: fail"
  | .applied kind size (some length) =>
    kind.name ++ s!" matcher over {size} chars: matched {length}"
  | .searched kind size none => kind.name ++ s!" matcher search over {size} chars: None"
  | .searched kind size (some (start, length)) =>
    kind.name ++ s!" matcher search over {size} chars: Some(({start}, {length}))"

end Event

end GreedyMatch

import GreedyMatch.Event

set_option autoImplicit false

namespace GreedyMatch

/-- What reports events is written for any monad that takes reports, so it runs without a log too. -/
class Reports (m : Type → Type) where
  report : Event → m Unit

export Reports (report)

instance : Reports Id where
  report _ := ()

structure Logged (α : Type) where
  value : α
  events : List Event

namespace Logged

instance : Monad Logged where
  pure value := ⟨value, []⟩
  bind step next := ⟨(next step.value).value, step.events ++ (next step.value).events⟩

instance : Reports Logged where
  report event := ⟨(), [event]⟩

variable {α β : Type}

@[ext] theorem ext {first second : Logged α} (hvalue : first.value = second.value)
    (hevents : first.events = second.events) : first = second := by
  cases first
  cases second
  cases hvalue
  cases hevents
  rfl

@[simp] theorem value_pure (value : α) : (pure value : Logged α).value = value := rfl

@[simp] theorem events_pure (value : α) : (pure value : Logged α).events = [] := rfl

@[simp] theorem value_bind (step : Logged α) (next : α → Logged β) :
    (step >>= next).value = (next step.value).value := rfl

@[simp] theorem events_bind (step : Logged α) (next : α → Logged β) :
    (step >>= next).events = step.events ++ (next step.value).events := rfl

@[simp] theorem events_report (event : Event) : (report event : Logged Unit).events = [event] := rfl

instance : LawfulMonad Logged :=
  LawfulMonad.mk' Logged (fun step => ext rfl (List.append_nil step.events)) (fun _ _ => rfl)
    fun _ _ _ => ext rfl (List.append_assoc ..)

theorem bind_eq_self {step : Logged α} {next : α → Logged α} (h : next step.value = pure step.value) :
    step >>= next = step := by
  ext
  · rw [value_bind, h, value_pure]
  · rw [events_bind, h, events_pure, List.append_nil]

end Logged

end GreedyMatch

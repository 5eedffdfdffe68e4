/-! Results paired with the diagnostic events recorded while computing them. -/

namespace DicePools

/-- How serious a diagnostic event is, most serious first. -/
inductive Level where
  | error
  | warn
  | info
  | debug
  | trace
  deriving DecidableEq, Repr, Inhabited

/-- One diagnostic event: its level and its literal message. -/
structure Event where
  level : Level
  message : String
  deriving DecidableEq, Repr, Inhabited

/-- A result together with the events recorded, in order, while computing it. -/
structure Logged (α : Type) where
  value : α
  events : List Event

namespace Logged

instance : Monad Logged where
  pure a := ⟨a, []⟩
  bind x f := ⟨(f x.value).value, x.events ++ (f x.value).events⟩

instance : LawfulMonad Logged := LawfulMonad.mk' Logged
  (fun x => by cases x; simp [Functor.map])
  (fun a f => by simp only [bind, pure, List.nil_append])
  (fun x f g => by simp only [bind, List.append_assoc])

def record (level : Level) (message : String) : Logged Unit := ⟨(), [⟨level, message⟩]⟩

def warn (message : String) : Logged Unit := record .warn message

def error (message : String) : Logged Unit := record .error message

def debug (message : String) : Logged Unit := record .debug message

@[simp] theorem value_pure {α : Type} (a : α) : (pure a : Logged α).value = a := rfl

@[simp] theorem value_bind {α β : Type} (x : Logged α) (f : α → Logged β) :
    (x >>= f).value = (f x.value).value := rfl

@[simp] theorem value_map {α β : Type} (x : Logged α) (f : α → β) :
    (f <$> x).value = f x.value := rfl

@[simp] theorem value_record (level : Level) (message : String) :
    (record level message).value = () := rfl

end Logged

end DicePools

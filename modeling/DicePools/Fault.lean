import DicePools.Log

/-! Checked sums of fixed-width counters, and the faults that stop a computation. -/

namespace DicePools

/-- Why a computation stopped. -/
inductive Fault where
  /-- A fixed-width sum left its range. -/
  | addOverflow
  deriving DecidableEq, Repr, Inhabited

/-- A computation that records events and may stop on a fault. -/
abbrev Guarded := ExceptT Fault Logged

def Fault.message : Fault → String
  | .addOverflow => "attempt to add with overflow"

def u32Top : Nat := 4294967295

def addU32 (a b : Nat) : Except Fault Nat :=
  if a + b ≤ u32Top then .ok (a + b) else .error .addOverflow

def addI32 (a b : Int) : Except Fault Int :=
  if -2147483648 ≤ a + b ∧ a + b ≤ 2147483647 then .ok (a + b) else .error .addOverflow

theorem addU32_eq_ok {a b : Nat} (h : a + b ≤ u32Top) : addU32 a b = .ok (a + b) := by
  simp [addU32, h]

theorem addI32_eq_ok {a b : Int} (h₁ : -2147483648 ≤ a + b) (h₂ : a + b ≤ 2147483647) :
    addI32 a b = .ok (a + b) := by
  simp [addI32, h₁, h₂]

end DicePools

import DicePools.Dice.Die
import Mathlib

/-! Die sizes as a finite type, and moving a die along the buckets. -/

namespace DicePools
namespace Die

instance : Fintype Die := ⟨⟨↑all, by decide⟩, mem_all⟩

theorem sum_filter_all (p : Die → Prop) [DecidablePred p] (h : Die → Nat) :
    ((all.filter (p ·)).map h).sum = ∑ e with p e, h e := by
  rw [Finset.sum_eq_multiset_sum, Finset.filter_val]
  rfl

theorem sum_all (h : Die → Nat) : (all.map h).sum = ∑ e, h e := rfl

def smaller (d e : Die) : Die := if d.index ≤ e.index then e else d

/-- The die `steps` sizes above `d`, stopping at the d12. -/
def raise (d : Die) (steps : Nat) : Die := (ofIndex? (d.index - steps)).getD d12

theorem index_smaller (d e : Die) : (d.smaller e).index = max d.index e.index := by
  unfold smaller
  split <;> omega

theorem smaller_assoc (d e f : Die) : (d.smaller e).smaller f = d.smaller (e.smaller f) :=
  index_injective (by simp only [index_smaller]; omega)

@[simp] theorem smaller_self (d : Die) : d.smaller d = d := by
  simp [smaller]

theorem index_getD_ofIndex? {i : Nat} (h : i < 5) : ((ofIndex? i).getD d12).index = i := by
  interval_cases i <;> rfl

theorem index_raise (d : Die) (steps : Nat) : (d.raise steps).index = d.index - steps :=
  index_getD_ofIndex? (by have := d.index_lt; omega)

theorem index_injective_iff {d e : Die} : d.index = e.index ↔ d = e :=
  ⟨index_injective, congrArg index⟩

theorem raise_eq_iff {e d : Die} {steps : Nat} : e.raise steps = d ↔ e.index - steps = d.index := by
  rw [← index_injective_iff, index_raise]

theorem raise_raise (d : Die) (a b : Nat) : (d.raise a).raise b = d.raise (a + b) :=
  index_injective (by simp only [index_raise]; omega)

theorem raise_min_four (d : Die) (steps : Nat) : d.raise (min steps 4) = d.raise steps :=
  index_injective (by have := d.index_lt; simp only [index_raise]; omega)

end Die

end DicePools

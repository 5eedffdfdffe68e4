import DicePools.Name
/-! Keys are their own keys, checked against the lowercase table run by run. -/

namespace DicePools
namespace Text

/-- The blank code points, as closed ranges. -/
def blankRanges : List (Nat × Nat) :=
  [(0x09, 0x0D), (0x20, 0x20), (0x85, 0x85), (0xA0, 0xA0), (0x1680, 0x1680), (0x2000, 0x200A),
    (0x2028, 0x2029), (0x202F, 0x202F), (0x205F, 0x205F), (0x3000, 0x3000)]

/-- The code points from `lo` to `hi` are valid characters, none of them `İ` or blank. -/
def imageClear (lo hi : Int) : Bool :=
  0 ≤ lo && (hi < 0xD800 || 0xDFFF < lo && hi < 0x110000) && (hi < 0x130 || 0x130 < lo) &&
    blankRanges.all fun r => hi < r.1 || r.2 < lo

/-- The range a run moves its characters into is clear. -/
def runImageClear : Nat × Nat × Int × Nat → Bool
  | (lo, hi, s, _) => imageClear (lo + s) (hi + s)

/-- No point from `lo₁` to `hi₁` is moved by the run `r`, written with `Nat.blt` and `Nat.beq` so
that it computes directly. -/
def imageApart (lo₁ hi₁ : Nat) (sparse : Bool) (r : Nat × Nat × Int × Nat) : Bool :=
  Nat.blt hi₁ r.1 || Nat.blt r.2.1 lo₁ || r.2.2.2.beq 2 && sparse && ((lo₁ + r.1) % 2).beq 1

/-- No run moves a character that the run moves characters onto. -/
def runApart : Nat × Nat × Int × Nat → Bool
  | (lo, hi, s, step) =>
    lowerRuns.all (imageApart (lo + s).toNat (hi + s).toNat (step.beq 2 || lo.beq hi))

theorem lowerRuns_imageClear : lowerRuns.all runImageClear = true := by decide +kernel

theorem lowerRuns_apart : lowerRuns.all runApart = true := by decide +kernel

theorem exists_run_of_runShift {runs : List (Nat × Nat × Int × Nat)} {n : Nat} {s : Int}
    (h : runShift runs n = some s) :
    ∃ lo hi step, (lo, hi, s, step) ∈ runs ∧ lo ≤ n ∧ n ≤ hi ∧ (n - lo) % step = 0 := by
  obtain ⟨⟨lo, hi, s', step⟩, hfind, rfl⟩ := Option.map_eq_some_iff.1 h
  have hp := List.find?_some hfind
  simp only [Bool.and_eq_true, decide_eq_true_eq, beq_iff_eq] at hp
  exact ⟨lo, hi, step, List.mem_of_find?_eq_some hfind, hp.1.1, hp.1.2, hp.2⟩

theorem runShift_eq_none {runs : List (Nat × Nat × Int × Nat)} {n : Nat}
    (h : ∀ r ∈ runs, ¬ (r.1 ≤ n ∧ n ≤ r.2.1 ∧ (n - r.1) % r.2.2.2 = 0)) :
    runShift runs n = none := by
  simp only [runShift, Option.map_eq_none_iff, List.find?_eq_none]
  intro r hr hp
  simp only [Bool.and_eq_true, decide_eq_true_eq, beq_iff_eq] at hp
  exact h r hr ⟨hp.1.1, hp.1.2, hp.2⟩

/-- Where the lowercase table may move a code point: a valid character, not `İ`, not blank,
and left where it is by every run. -/
structure LowerTarget (m : Nat) : Prop where
  valid : m.isValidChar
  ne_dotted : m ≠ 0x130
  not_blank : ∀ r ∈ blankRanges, m < r.1 ∨ r.2 < m
  unmoved : runShift lowerRuns m = none

theorem lowerTarget_of_runShift {n : Nat} {s : Int} (h : runShift lowerRuns n = some s) :
    LowerTarget (n + s).toNat := by
  obtain ⟨lo, hi, step, hmem, hlo, hhi, hstep⟩ := exists_run_of_runShift h
  have hclear := List.all_eq_true.1 lowerRuns_imageClear _ hmem
  have hapart := List.all_eq_true.1 lowerRuns_apart _ hmem
  simp only [runApart, List.all_eq_true] at hapart
  simp only [runImageClear, imageClear, Bool.and_eq_true, Bool.or_eq_true, decide_eq_true_eq,
    List.all_eq_true] at hclear
  obtain ⟨⟨⟨hpos, hvalid⟩, hdot⟩, hblank⟩ := hclear
  refine ⟨by omega, by omega, fun r hr => by have := hblank r hr; omega, ?_⟩
  refine runShift_eq_none fun r' hr' hin => ?_
  have happ := hapart r' hr'
  simp only [imageApart, Bool.or_eq_true, Bool.and_eq_true, Nat.blt_eq, Nat.beq_eq] at happ
  obtain ⟨hlo', hhi', hstep'⟩ := hin
  -- Beside the other run, or hitting only the points it skips: a run of step two moves its
  -- characters by an even amount, and a single character is one point.
  rcases happ with (hbelow | habove) | ⟨⟨hstep2, hsparse⟩, hodd⟩
  · omega
  · omega
  · rw [hstep2] at hstep'
    rcases hsparse with rfl | rfl <;> omega

theorem isBlank_eq_false {c : Char} (h : ∀ r ∈ blankRanges, c.toNat < r.1 ∨ r.2 < c.toNat) :
    isBlank c = false := by
  simp only [blankRanges, List.mem_cons, List.not_mem_nil, forall_eq_or_imp, or_false,
    forall_eq] at h
  simp only [isBlank, Bool.or_eq_false_iff, Bool.and_eq_false_iff, decide_eq_false_iff_not,
    beq_eq_false_iff_ne]
  omega

theorem lowerChar_eq_self {c : Char} (hdot : c.toNat ≠ 0x130)
    (hrun : runShift lowerRuns c.toNat = none) : lowerChar c = [c] := by
  simp [lowerChar, hdot, hrun]

theorem toNat_shiftChar {c : Char} {s : Int} (h : (c.toNat + s).toNat.isValidChar) :
    (shiftChar c s).toNat = (c.toNat + s).toNat := by
  rw [shiftChar, Char.ofNat, dif_pos h]
  rfl

/-- A character that is its own key: not blank, and its own lowercase form. -/
structure KeyChar (c : Char) : Prop where
  not_blank : isBlank c = false
  lower_self : lowerChar c = [c]

theorem keyChar_of_lowerTarget {c : Char} (h : LowerTarget c.toNat) : KeyChar c :=
  ⟨isBlank_eq_false h.not_blank, lowerChar_eq_self h.ne_dotted h.unmoved⟩

theorem keyChar_of_mem_lowerChar {c d : Char} (hc : isBlank c = false) (hd : d ∈ lowerChar c) :
    KeyChar d := by
  unfold lowerChar at hd
  by_cases hdot : c.toNat = 0x130
  · simp only [hdot, beq_self_eq_true, if_true, List.mem_cons, List.not_mem_nil, or_false] at hd
    rcases hd with rfl | rfl <;> exact ⟨by decide, by decide⟩
  · cases hrun : runShift lowerRuns c.toNat with
    | none =>
      simp only [hdot, hrun, beq_iff_eq, if_false, List.mem_singleton] at hd
      subst hd
      exact ⟨hc, lowerChar_eq_self hdot hrun⟩
    | some s =>
      simp only [hdot, hrun, beq_iff_eq, if_false, List.mem_singleton] at hd
      subst hd
      have ht := lowerTarget_of_runShift hrun
      rw [← toNat_shiftChar ht.valid] at ht
      exact keyChar_of_lowerTarget ht

end Text

namespace Name

theorem key_eq_self {x : String} (h : ∀ c ∈ x.toList, Text.KeyChar c) : key x = x := by
  have hfilter : (x.toList.filter fun c => !Text.isBlank c) = x.toList :=
    List.filter_eq_self.2 fun c hc => by simp [(h c hc).not_blank]
  have hlower : x.toList.flatMap Text.lowerChar = x.toList := calc
    x.toList.flatMap Text.lowerChar = x.toList.flatMap fun c => [c] := by
      simp only [List.flatMap_def, List.map_congr_left fun c hc => (h c hc).lower_self]
    _ = x.toList := List.flatMap_singleton' _
  rw [key, hfilter, hlower, String.ofList_toList]

theorem keyChar_of_mem_key {n : String} {c : Char} (h : c ∈ (key n).toList) : Text.KeyChar c := by
  simp only [key, String.toList_ofList, List.mem_flatMap, List.mem_filter, Bool.not_eq_true'] at h
  obtain ⟨d, ⟨-, hd⟩, hc⟩ := h
  exact Text.keyChar_of_mem_lowerChar hd hc

theorem key_eq_self_iff {x : String} : key x = x ↔ ∀ c ∈ x.toList, Text.KeyChar c :=
  ⟨fun h c hc => keyChar_of_mem_key (show c ∈ (key x).toList by rw [h]; exact hc), key_eq_self⟩

/-- Taking the key of a key changes nothing. -/
@[simp] theorem key_key (n : String) : key (key n) = key n :=
  key_eq_self fun _ => keyChar_of_mem_key

example : key "Half Buried" ≠ "Half Buried" ∧ key "halfburied" = "halfburied" := by decide

end Name
end DicePools

import DicePools.Pool.Build
import DicePools.Proofs.Book
import Mathlib

/-! Extra dice, ordered or merged, give the same pool. Main statement:
`extraDice_grouping_unseen`. -/

namespace DicePools

/-! ## Saturating counts -/

theorem toNat_le_countMax (a : UInt32) : a.toNat ≤ countMax := by
  have h := a.toNat_lt
  unfold countMax
  omega

theorem satAdd_comm (a b : UInt32) : satAdd a b = satAdd b a := by
  unfold satAdd
  rw [Nat.add_comm]

theorem satAdd_assoc (a b c : UInt32) : satAdd (satAdd a b) c = satAdd a (satAdd b c) := by
  apply UInt32.toNat_inj.mp
  simp only [toNat_satAdd]
  omega

theorem satAdd_zero (a : UInt32) : satAdd a 0 = a := by
  apply UInt32.toNat_inj.mp
  have h := toNat_le_countMax a
  rw [toNat_satAdd]
  simp only [UInt32.toNat_zero,Nat.add_zero]
  omega

theorem toNat_foldl_satAdd (xs : List UInt32) (acc : UInt32) :
    (xs.foldl satAdd acc).toNat = min (acc.toNat + (xs.map UInt32.toNat).sum) countMax := by
  induction xs generalizing acc with
  | nil =>
    have h := toNat_le_countMax acc
    simp only [List.foldl_nil,List.map_nil,List.sum_nil,Nat.add_zero]
    omega
  | cons x xs ih =>
    rw [List.foldl_cons,ih,toNat_satAdd]
    simp only [List.map_cons,List.sum_cons]
    omega

theorem toNat_satSum (xs : List UInt32) :
    (satSum xs).toNat = min (xs.map UInt32.toNat).sum countMax := by
  simp [satSum,toNat_foldl_satAdd]

theorem min_sum_map_min (l : List Nat) (M : Nat) :
    min (l.map fun a => min a M).sum M = min l.sum M := by
  induction l with
  | nil => rfl
  | cons a l ih =>
    simp only [List.map_cons,List.sum_cons]
    omega

/-! ## Pools as a commutative monoid -/

namespace Dice

theorem count_empty (d : Die) : empty.count d = 0 := by
  cases d <;> rfl

instance : Zero Dice := ⟨empty⟩

@[simp] theorem empty_eq_zero : empty = 0 := rfl

@[simp] theorem count_zero (d : Die) : (0 : Dice).count d = 0 := count_empty d

instance : AddCommMonoid Dice where
  add_assoc x y z := ext_count fun d => by simp [satAdd_assoc]
  zero_add x := ext_count fun d => by simp [satAdd_comm 0,satAdd_zero]
  add_zero x := ext_count fun d => by simp [satAdd_zero]
  add_comm x y := ext_count fun d => by simp [satAdd_comm]
  nsmul := nsmulRec

/-- Counts add without loss below the largest count, so a sum of pools is empty only when every
pool is. -/
theorem sum_eq_zero_iff (xs : List Dice) : xs.sum = 0 ↔ ∀ x ∈ xs, x = 0 := by
  have hadd : ∀ x y : Dice, x + y = 0 ↔ x = 0 ∧ y = 0 := by
    intro x y
    constructor
    · intro h
      have hc : ∀ d, satAdd (x.count d) (y.count d) = 0 := fun d => by
        rw [← count_add,h,count_zero]
      refine ⟨ext_count fun d => ?_,ext_count fun d => ?_⟩ <;>
      · have hd := congrArg UInt32.toNat (hc d)
        rw [toNat_satAdd,UInt32.toNat_zero] at hd
        apply UInt32.toNat_inj.mp
        simp only [count_zero,UInt32.toNat_zero]
        unfold countMax at hd
        omega
    · rintro ⟨rfl,rfl⟩
      exact add_zero 0
  induction xs with
  | nil => simp
  | cons x xs ih => simp [List.sum_cons,hadd,ih]

theorem sum_eq_sum (xs : List Dice) : Dice.sum xs = xs.sum := by
  rw [List.sum_eq_foldl]
  rfl

theorem isEmpty_iff (x : Dice) : x.isEmpty = true ↔ x = 0 := by
  obtain ⟨a,b,c,d,e⟩ := x
  simp [isEmpty,toList,← empty_eq_zero,empty]

theorem sum_filter_nonempty (xs : List Dice) : (xs.filter (!·.isEmpty)).sum = xs.sum := by
  have h : (fun x : Dice => !x.isEmpty) = fun x => x != 0 := by
    funext x
    by_cases hx : x = 0
    · simp [hx,(isEmpty_iff 0).mpr rfl]
    · simp [hx,(isEmpty_iff x).not.mpr hx]
  rw [h,List.sum_filter_bne_zero]

theorem limitTo_add (x y : Dice) (l : Die) : (x + y).limitTo l = x.limitTo l + y.limitTo l := by
  have hsum : ∀ L : List Die, (satSum (L.map (x + y).count)).toNat =
      min ((L.map fun e => (x.count e).toNat).sum + (L.map fun e => (y.count e).toNat).sum)
        countMax := by
    intro L
    have h := min_sum_map_min (L.map fun e => (x.count e).toNat + (y.count e).toNat) countMax
    rw [List.map_map,List.sum_map_add] at h
    rw [toNat_satSum,List.map_map,← h]
    congr 3
    funext e
    simp [toNat_satAdd]
  refine ext_count fun d => ?_
  simp only [count_limitTo,count_add]
  split_ifs
  · rfl
  · apply UInt32.toNat_inj.mp
    rw [hsum,toNat_satAdd,toNat_satSum,toNat_satSum,List.map_map,List.map_map]
    simp only [Function.comp_def]
    omega
  · rfl

theorem limitTo_zero (l : Die) : (0 : Dice).limitTo l = 0 := by
  refine ext_count fun d => ?_
  simp only [count_limitTo,count_zero]
  split_ifs
  · rfl
  · apply UInt32.toNat_inj.mp
    simp [toNat_satSum,Function.comp_def]
  · rfl

end Dice

/-- What finishing does to every array of a pool: doubling it for a weak pool, then capping it.
Both are additive. -/
def PoolOptions.adjust (opts : PoolOptions) : Dice →+ Dice where
  toFun d :=
    let d := if opts.double then d + d else d
    match opts.limit with
    | some l => d.limitTo l
    | none => d
  map_zero' := by
    cases opts.limit <;> cases opts.double <;> simp [Dice.limitTo_zero]
  map_add' x y := by
    have hdouble : x + y + (x + y) = x + x + (y + y) := add_add_add_comm x y x y
    cases opts.limit <;> cases opts.double <;> simp [Dice.limitTo_add,hdouble]

/-- The total of a finished pool is the adjusted sum of the arrays of both parts. -/
theorem total_finish (c : Construction) (pool extra : PoolPart) (opts : PoolOptions) :
    (c.finish pool extra opts).total = opts.adjust (pool.arrays ++ extra.arrays).sum := by
  have hpools : (c.finish pool extra opts).pools =
      ((pool.arrays ++ extra.arrays).filter (!·.isEmpty)).map opts.adjust := rfl
  rw [FinishedPool.total,Dice.sum_eq_sum,hpools,← map_list_sum,Dice.sum_filter_nonempty]

/-! ## Reading terms -/

namespace Text

theorem not_mem_of_mem_splitChars {sep : Char} {cs p : List Char} (h : p ∈ splitChars sep cs) :
    sep ∉ p := by
  induction cs generalizing p with
  | nil =>
    obtain rfl : p = [] := by simpa [splitChars] using h
    exact List.not_mem_nil
  | cons c cs ih =>
    unfold splitChars at h
    split at h
    · rcases List.mem_cons.mp h with rfl | h
      · exact List.not_mem_nil
      · exact ih h
    · rename_i hc
      cases hs : splitChars sep cs with
      | nil => exact absurd hs (splitChars_ne_nil sep cs)
      | cons p' ps =>
        rw [hs] at h
        rcases List.mem_cons.mp h with rfl | h
        · have hp' := ih (p := p') (by rw [hs]; exact List.mem_cons_self)
          simp only [List.mem_cons,not_or]
          exact ⟨fun he => hc he.symm,hp'⟩
        · exact ih (by rw [hs]; exact List.mem_cons_of_mem p' h)

theorem splitChars_of_not_mem {sep : Char} {cs : List Char} (h : sep ∉ cs) :
    splitChars sep cs = [cs] := by
  induction cs with
  | nil => rfl
  | cons c cs ih =>
    simp only [List.mem_cons,not_or] at h
    rw [splitChars,if_neg (Ne.symm h.1),ih h.2]

theorem not_mem_of_mem_splitAll {s p : String} {sep : Char} (h : p ∈ splitAll s sep) :
    sep ∉ p.toList := by
  obtain ⟨cs,hcs,rfl⟩ := List.mem_map.mp h
  rw [String.toList_ofList]
  exact not_mem_of_mem_splitChars hcs

theorem splitAll_of_not_mem {s : String} {sep : Char} (h : sep ∉ s.toList) :
    splitAll s sep = [s] := by
  rw [splitAll,splitChars_of_not_mem h]
  simp

end Text

namespace Dice

/-- The pool a term names; nothing for a term that names no die. -/
def termDice (t : String) : Dice :=
  match parseTerm? t with
  | some (n, d) => single n d
  | none => 0

theorem parse_value (text : String) : (parse text).value = ((terms text).map termDice).sum := by
  rw [parse,Logged.value_foldlM,List.sum_eq_foldl,List.foldl_map]
  refine congrArg (fun f => List.foldl f 0 (terms text)) (funext fun acc => funext fun t => ?_)
  unfold termDice
  cases parseTerm? t <;> simp

theorem filter_map_trim_eq_flatMap {segs : List String} (h : ∀ seg ∈ segs, ',' ∉ seg.toList) :
    (segs.map Text.trim).filter (· ≠ "") = segs.flatMap terms := by
  induction segs with
  | nil => rfl
  | cons seg segs ih =>
    simp only [List.mem_cons,forall_eq_or_imp] at h
    rw [List.map_cons,List.filter_cons,List.flatMap_cons,ih h.2,terms,
      Text.splitAll_of_not_mem h.1]
    by_cases he : Text.trim seg = "" <;> simp [he]

theorem terms_eq_flatMap (s : String) : terms s = (Text.splitAll s ',').flatMap terms :=
  filter_map_trim_eq_flatMap fun _ h => Text.not_mem_of_mem_splitAll h

theorem sum_parse_splitAll (s : String) :
    ((Text.splitAll s ',').map fun seg => (parse seg).value).sum = (parse s).value := by
  simp only [parse_value]
  rw [terms_eq_flatMap s,List.flatMap_def,List.map_flatten,List.sum_flatten,List.map_map,
    List.map_map]
  rfl

end Dice

/-! ## The extra part in both modes -/

/-- The arrays extra dice text adds: with ordered extra dice one per comma-separated piece that
names dice, else one for the whole text when it names any. -/
def extraArrays (ordered : Bool) (raw : String) : List Dice :=
  if ordered then
    ((Text.splitAll raw ',').map fun seg => (Dice.parse seg).value).filter (!·.isEmpty)
  else [(Dice.parse raw).value].filter (!·.isEmpty)

theorem sum_extraArrays (ordered : Bool) (raw : String) :
    (extraArrays ordered raw).sum = (Dice.parse raw).value := by
  cases ordered <;> simp only [extraArrays,Bool.false_eq_true,if_false,if_true,
    Dice.sum_filter_nonempty,Dice.sum_parse_splitAll,List.sum_singleton]

theorem isEmpty_of_mem_extraArrays {ordered : Bool} {raw : String} {d : Dice}
    (h : d ∈ extraArrays ordered raw) : d.isEmpty = false := by
  cases ordered <;> simpa [extraArrays] using (List.mem_filter.mp h).2

theorem extraArrays_eq_nil_iff (ordered : Bool) (raw : String) :
    extraArrays ordered raw = [] ↔ (Dice.parse raw).value.isEmpty = true := by
  rw [Dice.isEmpty_iff,← sum_extraArrays ordered]
  constructor
  · intro h
    rw [h,List.sum_nil]
  · intro h
    refine List.eq_nil_iff_forall_not_mem.mpr fun d hd => ?_
    -- every array added has dice, and a sum of pools is empty only when each pool is
    have hzero := (Dice.sum_eq_zero_iff _).mp h d hd
    have hne := isEmpty_of_mem_extraArrays hd
    rw [hzero,(Dice.isEmpty_iff 0).mpr rfl] at hne
    cases hne

theorem foldl_push_fields (fs : List PoolField) (p : PoolPart) :
    fs.foldl (fun p f => p.push f.dice f.name) p =
      ⟨p.arrays ++ fs.map (·.dice),p.labels ++ fs.map (·.name)⟩ := by
  induction fs generalizing p with
  | nil => simp
  | cons f fs ih =>
    rw [List.foldl_cons,ih]
    simp [PoolPart.push]

theorem parse_empty : (Dice.parse "").value = 0 := by
  rw [Dice.parse_value]
  rfl

/-- The extra part: the checked fields, then the arrays of the extra dice text under a label of
their own when there are any. -/
theorem buildExtra_value (c : Construction) (raw : String) (cfg : Config) :
    (c.buildExtra raw cfg).value =
      ⟨c.checkedFields.map (·.dice) ++ extraArrays cfg.extraDiceOrdered (Text.trim raw),
        c.checkedFields.map (·.name) ++
          if extraArrays cfg.extraDiceOrdered (Text.trim raw) = [] then []
          else [extraDiceLabel]⟩ := by
  have hpart := foldl_push_fields c.checkedFields ⟨[],[]⟩
  simp only [List.nil_append] at hpart
  unfold Construction.buildExtra
  simp only [hpart]
  by_cases hraw : (Text.trim raw).isEmpty = true
  · have hnil : extraArrays cfg.extraDiceOrdered (Text.trim raw) = [] := by
      rw [extraArrays_eq_nil_iff,String.isEmpty_iff.mp hraw,parse_empty]
      rfl
    simp only [hraw,if_true,Logged.value_pure,hnil,List.append_nil]
  · simp only [hraw,Bool.false_eq_true,if_false]
    cases ho : cfg.extraDiceOrdered
    · simp only [Bool.false_eq_true,if_false,Logged.value_bind,Logged.value_pure,extraArrays,
        List.filter_cons,List.filter_nil]
      by_cases he : (Dice.parse (Text.trim raw)).value.isEmpty = true <;>
        simp [he,PoolPart.push]
    · simp only [if_true,Logged.value_bind,Logged.value_mapM,extraArrays,List.isEmpty_iff]
      split_ifs with he
      · simp [he]
      · rfl

/-- Whether extra dice are ordered or merged cannot be seen in a finished pool. -/
theorem extraDice_grouping_unseen (c : Construction) (raw : String) (cfg : Config) :
    let ordered := (c.buildExtra raw { cfg with extraDiceOrdered := true }).value
    let merged := (c.buildExtra raw { cfg with extraDiceOrdered := false }).value
    let parsed := (Dice.parse (Text.trim raw)).value
    ordered.labels = merged.labels ∧
    (∃ terms, ordered.arrays = c.checkedFields.map (·.dice) ++ terms ∧
      (∀ d ∈ terms, d.isEmpty = false) ∧ Dice.sum terms = parsed ∧
      (terms = [] ↔ parsed.isEmpty = true)) ∧
    merged.arrays = c.checkedFields.map (·.dice) ++ (if parsed.isEmpty then [] else [parsed]) ∧
    ∀ pool opts, (c.finish pool ordered opts).total = (c.finish pool merged opts).total ∧
      (c.finish pool ordered opts).label = (c.finish pool merged opts).label := by
  intro ordered merged parsed
  have ho := buildExtra_value c raw { cfg with extraDiceOrdered := true }
  have hm := buildExtra_value c raw { cfg with extraDiceOrdered := false }
  have hlabels : ordered.labels = merged.labels := by
    simp only [ordered,merged,ho,hm,extraArrays_eq_nil_iff]
  have hsum : ordered.arrays.sum = merged.arrays.sum := by
    simp only [ordered,merged,ho,hm,List.sum_append,sum_extraArrays]
  refine ⟨hlabels,⟨extraArrays true (Text.trim raw),by simp only [ordered,ho],
    fun d hd => isEmpty_of_mem_extraArrays hd,by rw [Dice.sum_eq_sum,sum_extraArrays],
    extraArrays_eq_nil_iff true _⟩,?_,fun pool opts => ⟨?_,?_⟩⟩
  · simp only [merged,hm]
    by_cases he : parsed.isEmpty = true <;> simp [extraArrays,parsed,he]
  · rw [total_finish,total_finish,List.sum_append,List.sum_append,hsum]
  · simp only [Construction.finish,hlabels]

end DicePools

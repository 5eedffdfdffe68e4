import DicePools.Proofs.CanonicalJson
import DicePools.Proofs.DiceText
import DicePools.Proofs.Overflow

/-! Reading a rule's own members back from what its writer produces. -/

namespace DicePools

namespace KeyList

def Keyed (l : KeyList) : Prop := ∀ k ∈ l.keys, k ≠ "" ∧ Name.key k = k

theorem keyed_empty : empty.Keyed := fun _ h => nomatch h

theorem keyed_filter_map_key (names : List String) :
    (⟨(names.map Name.key).filter (· ≠ "")⟩ : KeyList).Keyed := by
  intro k hk
  obtain ⟨hmem, hne⟩ := List.mem_filter.mp hk
  obtain ⟨n, -, rfl⟩ := List.mem_map.mp hmem
  exact ⟨by simpa using hne, Name.key_key n⟩

theorem ofNames_of_keyed {l : KeyList} (h : l.Keyed) : ofNames l.keys = l := by
  obtain ⟨ks⟩ := l
  have hmap : ks.map Name.key = ks :=
    (List.map_congr_left fun k hk => (h k hk).2).trans (List.map_id ks)
  simp only [ofNames, hmap, KeyList.mk.injEq]
  exact List.filter_eq_self.mpr fun k hk => by simpa using (h k hk).1

theorem keyed_of_decode {j : Json} {here : List Nat} {l : KeyList}
    (h : (decode j here).run.value = .ok l) : l.Keyed := by
  unfold decode at h
  split at h
  · cases h
    exact keyed_filter_map_key _
  · split at h
    · cases h
      exact keyed_filter_map_key _
    · cases h
  · cases h

theorem decode_toJson {l : KeyList} (h : l.Keyed) (here : List Nat) :
    (decode l.toJson here).run.value = .ok l := by
  have hstrs : (l.keys.map Json.str).mapM Json.getStr? = some l.keys := by
    induction l.keys with
    | nil => rfl
    | cons k ks ih => simp [List.mapM_cons, Json.getStr?, ih]
  simp only [toJson, Json.ofStrings, decode, hstrs]
  exact congrArg Except.ok (ofNames_of_keyed h)

end KeyList

namespace Text

theorem intWithin?_range {lo hi : Int} {s : String} {v : Int} (h : intWithin? lo hi s = some v) :
    lo ≤ v ∧ v ≤ hi := by
  simp only [intWithin?] at h
  split at h
  · split_ifs at h <;> cases h <;> assumption
  · cases h

theorem natBelow?_le {bound : Nat} {s : String} {n : Nat} (h : natBelow? bound s = some n) :
    n ≤ bound := by
  simp only [natBelow?] at h
  split at h
  · split_ifs at h with hb
    cases h
    exact hb
  · cases h

end Text

namespace Setting

open Json

/-! ## Results of decoding -/

theorem run_value_map {α β : Type} (f : α → β) (x : Decode α) :
    (f <$> x).run.value = x.run.value.map f := by
  rw [map_eq_bind_pure_comp, Json.run_value_bind]
  cases x.run.value <;> rfl

theorem eq_ok_of_bind {α β : Type} {x : Decode α} {g : α → Decode β} {r : β}
    (h : (x >>= g).run.value = .ok r) : ∃ a, x.run.value = .ok a ∧ (g a).run.value = .ok r := by
  rw [Json.run_value_bind] at h
  cases hx : x.run.value with
  | error e => rw [hx] at h; cases h
  | ok a => rw [hx] at h; exact ⟨a, rfl, h⟩

theorem eq_ok_of_bind_pure {α β : Type} {x : Decode α} {g : α → β} {r : β}
    (h : (x >>= fun a => pure (g a)).run.value = .ok r) :
    ∃ a, x.run.value = .ok a ∧ g a = r := by
  obtain ⟨a, ha, h⟩ := eq_ok_of_bind h
  cases h
  exact ⟨a, ha, rfl⟩

theorem eq_ok_of_map {α β : Type} {x : Decode α} {f : α → β} {r : β}
    (h : (f <$> x).run.value = .ok r) : ∃ a, x.run.value = .ok a ∧ f a = r :=
  eq_ok_of_bind_pure (by rwa [map_eq_bind_pure_comp] at h)

theorem i32_range {j : Json} {here : List Nat} {v : Int} (hj : j.Classed)
    (h : (i32 j here).run.value = .ok v) : InI32 v := by
  unfold i32 intWithin at h
  split at h
  · next n =>
    split at h
    · cases h; exact ⟨by omega, by assumption⟩
    · cases h
  · next n =>
    cases hj with
    | num hn =>
      split at h
      · cases h; exact ⟨by assumption, by simp [Number.Classed] at hn; omega⟩
      · cases h
  · cases h

theorem u32_le {j : Json} {here : List Nat} {n : Nat} (h : (u32 j here).run.value = .ok n) :
    n ≤ Text.u32Max := by
  unfold u32 natUpTo at h
  split at h
  · split at h
    · cases h; assumption
    · cases h
  · cases h
  · cases h

/-! ## Lenient members -/

/-- A lenient member is always read: what its decoder reads, or else the default. -/
theorem lenient_value {α : Type} (d : Decoder α) (default : α) (j : Json) :
    (lenient d default j).run.value = .ok (((d j []).run.value.toOption).getD default) := by
  unfold lenient
  show (ExceptT.run (ExceptT.tryCatch (d j []) fun _ => degrade default)).value = _
  simp only [ExceptT.tryCatch, ExceptT.run_mk, Logged.value_bind]
  generalize d j [] = x
  obtain ⟨r, _⟩ := x
  cases r <;> rfl

theorem lenientScalar_of_not_str {α : Type} (parse : String → Option α) (d : Decoder α)
    (default : α) {j : Json} (h : ∀ s, j ≠ .str s) :
    lenientScalar parse d default j = lenient d default j := by
  cases j <;> first | rfl | exact absurd rfl (h _)

theorem lenientScalar_cases {α : Type} (parse : String → Option α) (d : Decoder α)
    (default : α) (j : Json) {a : α} (h : (lenientScalar parse d default j).run.value = .ok a) :
    a = default ∨ (∃ s, parse s = some a) ∨ (d j []).run.value = .ok a := by
  have hlen : (lenient d default j).run.value = .ok a →
      a = default ∨ (d j []).run.value = .ok a := by
    rw [lenient_value]
    intro h
    cases hd : (d j []).run.value <;> simp_all [Except.toOption]
  unfold lenientScalar at h
  split at h
  · split at h
    · next v hv =>
      cases h
      exact .inr (.inl ⟨_, hv⟩)
    · exact (hlen h).imp_right .inr
  · exact (hlen h).imp_right .inr

theorem int32_range {j : Json} {n : Int} (hj : j.Classed) (h : (int32 j).run.value = .ok n) :
    InI32 n := by
  rcases lenientScalar_cases _ _ _ _ h with rfl | ⟨s, hs⟩ | hd
  · decide
  · exact Text.intWithin?_range hs
  · exact i32_range hj hd

theorem nat32_le {j : Json} {n : Nat} (h : (nat32 j).run.value = .ok n) : n ≤ Text.u32Max := by
  rcases lenientScalar_cases _ _ _ _ h with rfl | ⟨s, hs⟩ | hd
  · decide
  · exact Text.natBelow?_le hs
  · exact u32_le hd

theorem flag_bool (b : Bool) : (flag (.bool b)).run.value = .ok b := rfl

theorem int32_ofInt {n : Int} (h : InI32 n) : (int32 (Json.ofInt n)).run.value = .ok n := by
  obtain ⟨hlo, hhi⟩ := h
  unfold int32
  rw [lenientScalar_of_not_str _ _ _ (by unfold Json.ofInt; split <;> simp), lenient_value]
  unfold Json.ofInt
  split
  · simp [i32, intWithin, hlo, Except.toOption]
  · have hn : ((n.toNat : Nat) : Int) = n := Int.toNat_of_nonneg (by omega)
    simp [i32, intWithin, hn, hhi, Except.toOption]

theorem nat32_ofNat {n : Nat} (h : n ≤ Text.u32Max) :
    (nat32 (Json.ofNat n)).run.value = .ok n := by
  unfold nat32
  rw [lenientScalar_of_not_str _ _ _ (by simp [Json.ofNat]), lenient_value]
  simp [Json.ofNat, u32, natUpTo, show n ≤ 4294967295 from h, Except.toOption]

theorem ofFloat_of_finite {x : Float} (hx : (x.isNaN || x.isInf) = false) :
    Json.ofFloat x = num (.float x) := by
  simp only [Json.ofFloat, Number.ofFloat?, hx, Bool.false_eq_true, ↓reduceIte]

theorem ofFloat_of_not_finite {x : Float} (hx : (x.isNaN || x.isInf) = true) :
    Json.ofFloat x = null := by
  simp only [Json.ofFloat, Number.ofFloat?, hx, ↓reduceIte]

/-- A float is written as a number when finite and as `null` otherwise, which reads as `0`. -/
theorem real_ofFloat (x : Float) :
    (real (Json.ofFloat x)).run.value = .ok (if x.isNaN || x.isInf then 0 else x) := by
  unfold real
  cases hx : (x.isNaN || x.isInf)
  · rw [ofFloat_of_finite hx, lenientScalar_of_not_str _ _ _ (by simp), lenient_value]
    rfl
  · rw [ofFloat_of_not_finite hx, lenientScalar_of_not_str _ _ _ (by simp), lenient_value]
    rfl

theorem worksWhen_name (w : WorksWhen) :
    (lenient worksWhen .anyState (.str w.name)).run.value = .ok w := by
  cases w <;> rfl

theorem autoUse_name (a : AutoUse) :
    (lenient autoUse .applied (.str a.name)).run.value = .ok a := by
  cases a <;> rfl

theorem optional_keyList {o : Option KeyList} (h : ∀ l ∈ o, l.Keyed) :
    (strict (optional KeyList.decode) (Json.ofOption KeyList.toJson o)).run.value = .ok o := by
  cases o with
  | none => rfl
  | some l =>
    show (some <$> KeyList.decode l.toJson []).run.value = _
    rw [map_eq_bind_pure_comp, Json.run_value_bind, KeyList.decode_toJson (h l rfl)]
    rfl

theorem strict_keyList {l : KeyList} (h : l.Keyed) :
    (strict KeyList.decode l.toJson).run.value = .ok l :=
  KeyList.decode_toJson h []

theorem strict_dice (d : Option Dice) :
    (strict (optional dice) (Dice.optionJson d)).run.value = .ok d := by
  cases d with
  | none => rfl
  | some x =>
    show (some <$> dice (.str (x.format true)) []).run.value = _
    rw [map_eq_bind_pure_comp, Json.run_value_bind]
    show (Except.ok (Dice.parse (x.format true)).value).bind _ = _
    rw [Dice.parse_format]
    rfl

theorem strict_boolean (b : Bool) : (strict boolean (.bool b)).run.value = .ok b := rfl

theorem strict_string (s : String) : (strict string (.str s)).run.value = .ok s := rfl

theorem strict_optional_string (o : Option String) :
    (strict (optional string) (Json.ofOption .str o)).run.value = .ok o := by
  cases o <;> rfl

theorem numberText_str (s : String) : (numberText (.str s)).run.value = .ok s := rfl

/-! ## Records as folds -/

section Fold

variable {σ : Type} (fields : List (Member σ))

def knows (k : String) : Bool := (fields.find? (·.name == k)).isSome

/-- One member read into the record, its log dropped. -/
def readStep (acc : σ) (m : String × Json) : Except DecodeError σ :=
  match fields.find? (·.name == m.1) with
  | some f => (f.update m.2 acc).run.value
  | none => .ok acc

theorem readMembers_cons_of_find {f : Member σ} {k : String}
    (hf : fields.find? (·.name == k) = some f) (init : σ) (v : Json)
    (ms : List (String × Json)) :
    readMembers fields init ((k, v) :: ms) =
      f.update v init >>= fun acc => readMembers fields acc ms := by
  simp only [readMembers, List.foldlM_cons, hf]

theorem readMembers_cons_of_unknown {k : String} (hk : fields.find? (·.name == k) = none)
    (init : σ) (v : Json) (ms : List (String × Json)) :
    readMembers fields init ((k, v) :: ms) = readMembers fields init ms := by
  simp only [readMembers, List.foldlM_cons, hk, pure_bind]

theorem readMembers_filter_known (init : σ) (ms : List (String × Json)) :
    readMembers fields init ms = readMembers fields init (ms.filter fun m => knows fields m.1) := by
  induction ms generalizing init with
  | nil => rfl
  | cons m ms ih =>
    obtain ⟨k, v⟩ := m
    cases hf : fields.find? (·.name == k) with
    | none =>
      have hk : knows fields k = false := by simp [knows, hf]
      rw [readMembers_cons_of_unknown fields hf, List.filter_cons_of_neg (by simpa using hk), ih]
    | some f =>
      have hk : knows fields k = true := by simp [knows, hf]
      rw [readMembers_cons_of_find fields hf, List.filter_cons_of_pos (by simpa using hk),
        readMembers_cons_of_find fields hf]
      exact congrArg _ (funext fun acc => ih acc)

theorem readMembers_sortMembers_congr (init : σ) {L L' : List (String × Json)}
    (h : L.filter (fun x => knows fields x.1) = L'.filter (fun x => knows fields x.1)) :
    readMembers fields init (sortMembers L) = readMembers fields init (sortMembers L') := by
  rw [readMembers_filter_known, filter_sortMembers (knows fields), h, ← filter_sortMembers,
    ← readMembers_filter_known]

/-- The result of reading a record is the fold of its member steps. -/
theorem readMembers_value (init : σ) (ms : List (String × Json)) :
    (readMembers fields init ms).run.value = ms.foldlM (readStep fields) init := by
  induction ms generalizing init with
  | nil => rfl
  | cons m ms ih =>
    obtain ⟨k, v⟩ := m
    cases hf : fields.find? (·.name == k) with
    | none =>
      rw [readMembers_cons_of_unknown fields hf, ih, List.foldlM_cons]
      simp only [readStep, hf]
      rfl
    | some f =>
      rw [readMembers_cons_of_find fields hf, Json.run_value_bind, List.foldlM_cons]
      simp only [readStep, hf, ih]
      rfl

/-- What every member step keeps, from values of a kind, a whole read keeps. -/
theorem readMembers_inv (P : σ → Prop) (Q : Json → Prop)
    (hstep : ∀ f ∈ fields, ∀ j acc r, Q j → P acc →
      (f.update j acc).run.value = .ok r → P r)
    (ms : List (String × Json)) (hms : ∀ m ∈ ms, Q m.2) {init r : σ} (hinit : P init)
    (h : (readMembers fields init ms).run.value = .ok r) : P r := by
  rw [readMembers_value] at h
  induction ms generalizing init with
  | nil =>
    cases h
    exact hinit
  | cons m ms ih =>
    rw [List.foldlM_cons] at h
    cases hs : readStep fields init m with
    | error e => rw [hs] at h; cases h
    | ok a =>
      rw [hs] at h
      refine ih (fun m' hm' => hms m' (List.mem_cons_of_mem _ hm')) ?_ h
      unfold readStep at hs
      split at hs
      · next f hf =>
        exact hstep f (List.mem_of_find?_eq_some hf) m.2 init a (hms m List.mem_cons_self) hinit hs
      · cases hs
        exact hinit

end Fold

end Setting

/-! ## The writer's records read back -/

/-- Members are written with keys only in their key lists, and moves within 32 bits, counts
within 32 unsigned bits; an unknown mode has no form to write. -/
def Effect.Writable : Effect → Prop
  | .attackBonus b | .defenseBonus b | .counterBonus b | .resistBonus b | .soakBonus b
  | .sprintBonus b | .initiativeBonus b => b.sources.Keyed ∧ ∀ l ∈ b.stats, l.Keyed
  | .moveBonus m | .flyingBonus m => InI32 m.stride ∧ InI32 m.dash ∧ InI32 m.run
  | .rangePenaltyReduction n => n ≤ Text.u32Max
  | .statChange c => c.changeFrom.Keyed ∧ c.changeTo.Keyed
  | .diceUpgrade u => u.steps ≤ Text.u32Max
  | .unrecognized _ => False
  | _ => True

/-- The key lists of a filter. -/
def Filter.keyLists (f : Filter) : List KeyList :=
  [f.itemType, f.name, f.tag, f.descriptor, f.effect, f.stat, f.equip, f.range, f.condition,
    f.otherItem, f.autocheckOnly]

def Filter.Keyed (f : Filter) : Prop := ∀ l ∈ f.keyLists, l.Keyed

theorem Filter.keyed_any : Filter.any.Keyed := by
  intro l hl
  simp only [Filter.any, Filter.keyLists, List.mem_cons, or_self, List.not_mem_nil, or_false] at hl
  rw [hl]
  exact KeyList.keyed_empty

theorem Effect.Writable.exists_mode {e : Effect} (he : e.Writable) : ∃ m, e.mode? = some m := by
  cases e <;> first | exact ⟨_, rfl⟩ | exact he.elim

/-- The effect as its written form keeps it: a bonus of stones that is no finite float is written
as `null`, which reads as `0`. -/
def Effect.asWritten : Effect → Effect
  | .encumbranceBonus x => .encumbranceBonus (if x.isNaN || x.isInf then 0 else x)
  | e => e

namespace Setting

open Json

/-! Each record's members are sorted by key and then read in that order, one field each. -/

section Records

theorem read_filter {f : Filter} (hf : f.Keyed) (init : Filter) :
    (readMembers filterMembers init (sortMembers f.members)).run.value = .ok f := by
  have h : ∀ l ∈ f.keyLists, (strict KeyList.decode l.toJson).run.value = .ok l :=
    fun l hl => strict_keyList (hf l hl)
  simp only [Filter.keyLists, List.mem_cons, List.not_mem_nil, or_false, forall_eq_or_imp,
    forall_eq] at h
  obtain ⟨h1, h2, h3, h4, h5, h6, h7, h8, h9, h10, h11⟩ := h
  rw [readMembers_value]
  simp only [Filter.members, sortMembers, List.foldl_cons, List.foldl_nil, insertSorted,
    String.reduceEq, String.reduceLT, if_true, if_false]
  simp only [List.foldlM_cons, List.foldlM_nil, readStep, filterMembers, List.find?_cons,
    String.reduceBEq, Json.run_value_bind, Json.run_value_pure, h1, h2, h3, h4, h5, h6, h7, h8, h9,
    h10, h11, worksWhen_name, flag_bool, strict_boolean, Except.bind]
  rfl

theorem read_diceBonus {b : DiceBonus} (hs : b.sources.Keyed) (hst : ∀ l ∈ b.stats, l.Keyed)
    (init : DiceBonus) :
    (readMembers diceBonusMembers init (sortMembers (Effect.attackBonus b).members)).run.value =
      .ok b := by
  rw [readMembers_value]
  simp only [Effect.members, sortMembers, List.foldl_cons, List.foldl_nil, insertSorted,
    String.reduceEq, String.reduceLT, if_true, if_false]
  simp only [List.foldlM_cons, List.foldlM_nil, readStep, diceBonusMembers, List.find?_cons,
    String.reduceBEq, Json.run_value_bind, Json.run_value_pure, strict_keyList hs,
    optional_keyList hst, strict_dice, autoUse_name, flag_bool, Except.bind]
  rfl

theorem read_statusDice (d : StatusDice) (init : StatusDice) :
    (readMembers statusDiceMembers init (sortMembers (Effect.guardBonus d).members)).run.value =
      .ok d := by
  rw [readMembers_value]
  simp only [Effect.members, sortMembers, List.foldl_cons, List.foldl_nil, insertSorted,
    String.reduceEq, String.reduceLT, if_false]
  simp only [List.foldlM_cons, List.foldlM_nil, readStep, statusDiceMembers, List.find?_cons,
    String.reduceBEq, Json.run_value_bind, Json.run_value_pure, strict_dice, strict_boolean,
    Except.bind]
  rfl

theorem read_moveBonus {m : MoveBonus} (hs : InI32 m.stride) (hd : InI32 m.dash)
    (hr : InI32 m.run) (init : MoveBonus) :
    (readMembers moveBonusMembers init (sortMembers (Effect.moveBonus m).members)).run.value =
      .ok m := by
  rw [readMembers_value]
  simp only [Effect.members, sortMembers, List.foldl_cons, List.foldl_nil, insertSorted,
    String.reduceEq, String.reduceLT, if_true, if_false]
  simp only [List.foldlM_cons, List.foldlM_nil, readStep, moveBonusMembers, List.find?_cons,
    String.reduceBEq, Json.run_value_bind, Json.run_value_pure, int32_ofInt hs, int32_ofInt hd,
    int32_ofInt hr, flag_bool, Except.bind]
  rfl

theorem read_rerollBonus (r : RerollBonus) (init : RerollBonus) :
    (readMembers rerollMembers init (sortMembers (Effect.rerollBonus r).members)).run.value =
      .ok r := by
  rw [readMembers_value]
  simp only [Effect.members, sortMembers, List.foldl_cons, List.foldl_nil, insertSorted,
    String.reduceEq, String.reduceLT, if_true, if_false]
  simp only [List.foldlM_cons, List.foldlM_nil, readStep, rerollMembers, List.find?_cons,
    String.reduceBEq, Json.run_value_bind, Json.run_value_pure, strict_string,
    strict_optional_string, flag_bool, Except.bind]
  rfl

theorem read_currencyChange (c : CurrencyChange) (init : CurrencyChange) :
    (readMembers currencyMembers init
      (sortMembers (Effect.currencyValueChange c).members)).run.value = .ok c := by
  rw [readMembers_value]
  simp only [Effect.members, sortMembers, List.foldl_cons, List.foldl_nil, insertSorted,
    String.reduceEq, String.reduceLT, if_false]
  simp only [List.foldlM_cons, List.foldlM_nil, readStep, currencyMembers, List.find?_cons,
    String.reduceBEq, Json.run_value_bind, Json.run_value_pure, strict_string, numberText_str,
    Except.bind]
  rfl

theorem read_statChange {c : StatChange} (hf : c.changeFrom.Keyed) (ht : c.changeTo.Keyed)
    (init : StatChange) :
    (readMembers statChangeMembers init (sortMembers (Effect.statChange c).members)).run.value =
      .ok c := by
  rw [readMembers_value]
  simp only [Effect.members, sortMembers, List.foldl_cons, List.foldl_nil, insertSorted,
    String.reduceEq, String.reduceLT, if_false]
  simp only [List.foldlM_cons, List.foldlM_nil, readStep, statChangeMembers, List.find?_cons,
    String.reduceBEq, Json.run_value_bind, Json.run_value_pure, strict_keyList hf,
    strict_keyList ht, strict_string, Except.bind]
  rfl

theorem read_diceUpgrade {u : DiceUpgrade} (hs : u.steps ≤ Text.u32Max) (init : DiceUpgrade) :
    (readMembers upgradeMembers init (sortMembers (Effect.diceUpgrade u).members)).run.value =
      .ok u := by
  rw [readMembers_value]
  simp only [Effect.members, sortMembers, List.foldl_cons, List.foldl_nil, insertSorted,
    String.reduceEq, String.reduceLT, if_true, if_false]
  simp only [List.foldlM_cons, List.foldlM_nil, readStep, upgradeMembers, List.find?_cons,
    String.reduceBEq, Json.run_value_bind, Json.run_value_pure, nat32_ofNat hs, strict_string,
    Except.bind]
  rfl

theorem read_payload {e : Effect} (he : e.Writable) {m : Mode} (hm : e.mode? = some m) :
    (payload m (sortMembers e.members)).run.value = .ok e.asWritten := by
  cases e <;> simp only [Effect.mode?, Option.some.injEq, reduceCtorEq] at hm <;> subst hm <;>
    simp only [payload, run_value_map]
  case attackBonus b | defenseBonus b | counterBonus b | resistBonus b | soakBonus b
    | sprintBonus b | initiativeBonus b =>
    exact congrArg (Except.map _) (read_diceBonus he.1 he.2 _)
  case guardBonus d | aimBonus d =>
    exact congrArg (Except.map _) (read_statusDice d _)
  case moveBonus mv | flyingBonus mv =>
    exact congrArg (Except.map _) (read_moveBonus he.1 he.2.1 he.2.2 _)
  case rerollBonus r => rw [read_rerollBonus]; rfl
  case rangePenaltyReduction n =>
    simp only [Effect.members, sortMembers, List.foldl_cons, List.foldl_nil, insertSorted]
    rw [readMembers_value]
    simp only [List.foldlM_cons, List.foldlM_nil, readStep, List.find?_cons, String.reduceBEq,
      nat32_ofNat he]
    rfl
  case encumbranceBonus x =>
    simp only [Effect.members, sortMembers, List.foldl_cons, List.foldl_nil, insertSorted]
    rw [readMembers_value]
    simp only [List.foldlM_cons, List.foldlM_nil, readStep, List.find?_cons, String.reduceBEq,
      real_ofFloat]
    rfl
  case currencyValueChange c => rw [read_currencyChange]; rfl
  case statChange c => rw [read_statChange he.1 he.2]; rfl
  case diceUpgrade u => rw [read_diceUpgrade he]; rfl

end Records

/-! ## What the reader builds -/

theorem filter_keyed {ms : List (String × Json)} {init f : Filter} (hinit : init.Keyed)
    (h : (readMembers filterMembers init ms).run.value = .ok f) : f.Keyed := by
  refine readMembers_inv filterMembers Filter.Keyed (fun _ => True) ?_ ms (fun _ _ => trivial)
    hinit h
  simp only [filterMembers, List.mem_cons, List.not_mem_nil, or_false]
  rintro f (rfl | rfl | rfl | rfl | rfl | rfl | rfl | rfl | rfl | rfl | rfl | rfl | rfl | rfl |
    rfl | rfl | rfl) j acc r - hacc h <;>
    obtain ⟨a, ha, rfl⟩ := eq_ok_of_bind_pure h <;>
    simp only [Filter.Keyed, Filter.keyLists, List.forall_mem_cons, List.not_mem_nil,
      IsEmpty.forall_iff, implies_true, and_true] at hacc ⊢
  all_goals first
    | exact hacc
    | (have hkeyed := KeyList.keyed_of_decode ha; simp_all)

theorem optional_keyed {j : Json} {o : Option KeyList}
    (h : (strict (optional KeyList.decode) j).run.value = .ok o) : ∀ l ∈ o, l.Keyed := by
  intro l hl
  unfold strict Json.optional at h
  split at h
  · cases h
    cases hl
  · rw [run_value_map] at h
    cases hd : (KeyList.decode _ []).run.value with
    | error e => rw [hd] at h; cases h
    | ok a =>
      rw [hd] at h
      cases h
      cases hl
      exact KeyList.keyed_of_decode hd

theorem diceBonus_keyed {ms : List (String × Json)} {b : DiceBonus}
    (h : (readMembers diceBonusMembers .none ms).run.value = .ok b) :
    b.sources.Keyed ∧ ∀ l ∈ b.stats, l.Keyed := by
  refine readMembers_inv diceBonusMembers (fun b => b.sources.Keyed ∧ ∀ l ∈ b.stats, l.Keyed)
    (fun _ => True) ?_ ms (fun _ _ => trivial) ⟨KeyList.keyed_empty, by simp [DiceBonus.none]⟩ h
  simp only [diceBonusMembers, List.mem_cons, List.not_mem_nil, or_false]
  rintro f (rfl | rfl | rfl | rfl | rfl) j acc r - hacc h <;>
    obtain ⟨a, ha, rfl⟩ := eq_ok_of_bind_pure h
  · exact ⟨KeyList.keyed_of_decode ha, hacc.2⟩
  · exact ⟨hacc.1, optional_keyed ha⟩
  all_goals exact hacc

theorem moveBonus_fits {ms : List (String × Json)} (hms : ∀ x ∈ ms, x.2.Classed)
    {m : MoveBonus}
    (h : (readMembers moveBonusMembers ⟨0, 0, 0, false⟩ ms).run.value = .ok m) :
    InI32 m.stride ∧ InI32 m.dash ∧ InI32 m.run := by
  refine readMembers_inv moveBonusMembers (fun m => InI32 m.stride ∧ InI32 m.dash ∧ InI32 m.run)
    Json.Classed ?_ ms hms (by decide) h
  simp only [moveBonusMembers, List.mem_cons, List.not_mem_nil, or_false]
  rintro f (rfl | rfl | rfl | rfl) j acc r hj hacc h <;>
    obtain ⟨a, ha, rfl⟩ := eq_ok_of_bind_pure h
  · exact ⟨int32_range hj ha, hacc.2⟩
  · exact ⟨hacc.1, int32_range hj ha, hacc.2.2⟩
  · exact ⟨hacc.1, hacc.2.1, int32_range hj ha⟩
  · exact hacc

theorem statChange_keyed {ms : List (String × Json)} {c : StatChange}
    (h : (readMembers statChangeMembers ⟨.empty, .empty, ""⟩ ms).run.value = .ok c) :
    c.changeFrom.Keyed ∧ c.changeTo.Keyed := by
  refine readMembers_inv statChangeMembers (fun c => c.changeFrom.Keyed ∧ c.changeTo.Keyed)
    (fun _ => True) ?_ ms (fun _ _ => trivial) ⟨KeyList.keyed_empty, KeyList.keyed_empty⟩ h
  simp only [statChangeMembers, List.mem_cons, List.not_mem_nil, or_false]
  rintro f (rfl | rfl | rfl) j acc r - hacc h <;>
    obtain ⟨a, ha, rfl⟩ := eq_ok_of_bind_pure h
  · exact ⟨KeyList.keyed_of_decode ha, hacc.2⟩
  · exact ⟨hacc.1, KeyList.keyed_of_decode ha⟩
  · exact hacc

theorem upgradeSteps_le {ms : List (String × Json)} {u : DiceUpgrade}
    (h : (readMembers upgradeMembers ⟨0, ""⟩ ms).run.value = .ok u) :
    u.steps ≤ Text.u32Max := by
  refine readMembers_inv upgradeMembers (fun u => u.steps ≤ Text.u32Max) (fun _ => True) ?_ ms
    (fun _ _ => trivial) (Nat.zero_le _) h
  simp only [upgradeMembers, List.mem_cons, List.not_mem_nil, or_false]
  rintro f (rfl | rfl) j acc r - hacc h <;>
    obtain ⟨a, ha, rfl⟩ := eq_ok_of_bind_pure h
  · exact nat32_le ha
  · exact hacc

theorem penaltyReduction_le {ms : List (String × Json)} {n : Nat}
    (h : (readMembers [⟨"penaltyReduction", fun j _ => nat32 j⟩] 0 ms).run.value = .ok n) :
    n ≤ Text.u32Max := by
  refine readMembers_inv _ (· ≤ Text.u32Max) (fun _ => True) ?_ ms (fun _ _ => trivial)
    (Nat.zero_le _) h
  simp only [List.mem_singleton]
  rintro f rfl j acc r - - h
  have hread : (nat32 j).run.value = .ok r := h
  exact nat32_le hread

theorem payload_writable {m : Mode} {ms : List (String × Json)} (hms : ∀ x ∈ ms, x.2.Classed)
    {e : Effect} (h : (payload m ms).run.value = .ok e) : e.Writable ∧ e.mode? = some m := by
  cases m <;> simp only [payload] at h <;> obtain ⟨r, hr, rfl⟩ := eq_ok_of_map h
  case moveBonus | flyingBonus => exact ⟨moveBonus_fits hms hr, rfl⟩
  case rangePenaltyReduction => exact ⟨penaltyReduction_le hr, rfl⟩
  case statChange => exact ⟨statChange_keyed hr, rfl⟩
  case diceUpgrade => exact ⟨upgradeSteps_le hr, rfl⟩
  case guardBonus | aimBonus | rerollBonus | encumbranceBonus | currencyValueChange =>
    exact ⟨trivial, rfl⟩
  all_goals exact ⟨diceBonus_keyed hr, rfl⟩

end Setting
end DicePools

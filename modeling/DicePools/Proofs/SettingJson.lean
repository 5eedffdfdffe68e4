import DicePools.Proofs.SettingRead

/-! Writing a rule and reading it back. Main statement: `Setting.setting_json_round_trip`. -/

namespace DicePools

namespace Json

theorem canonical_keyList (l : KeyList) : l.toJson.canonical = l.toJson := by
  simp [KeyList.toJson, ofStrings, List.map_map, Function.comp_def]

theorem canonical_ofOption {α : Type} {f : α → Json} (hf : ∀ a, (f a).canonical = f a)
    (o : Option α) : (ofOption f o).canonical = ofOption f o := by
  cases o with
  | none => exact canonical_null
  | some a => exact hf a

theorem canonical_ofInt (n : Int) : (ofInt n).canonical = ofInt n := by
  unfold ofInt
  split <;> exact canonical_num _

theorem canonical_ofFloat (x : Float) : (ofFloat x).canonical = ofFloat x := by
  unfold ofFloat
  split <;> simp

theorem canonical_obj_of_members {ms : List (String × Json)}
    (h : ∀ m ∈ ms, m.2.canonical = m.2) :
    (obj ms).canonical = obj (sortMembers ms) := by
  rw [canonical_obj]
  congr 2
  conv => rhs; rw [← List.map_id ms]
  exact List.map_congr_left fun m hm => by rw [h m hm]; rfl

end Json

/-! ## The written members -/

theorem Effect.canonical_members (e : Effect) : ∀ m ∈ e.members, m.2.canonical = m.2 := by
  cases e <;> simp [Effect.members, Json.canonical_keyList, Dice.optionJson,
    Json.canonical_ofOption, Json.canonical_ofInt, Json.canonical_ofFloat, Json.ofNat]

theorem Filter.canonical_members (f : Filter) : ∀ m ∈ f.members, m.2.canonical = m.2 := by
  simp [Filter.members, Json.canonical_keyList]

theorem Effect.members_keys (e : Effect) : ∀ x ∈ e.members, x.1 ≠ "settingMode" ∧
    x.1 ≠ "replaceName" ∧ Setting.knows Setting.filterMembers x.1 = false := by
  -- the keys are fixed by the mode, whatever the payload holds
  have hkeys : ∀ k ∈ e.members.map (·.1), k ≠ "settingMode" ∧ k ≠ "replaceName" ∧
      Setting.knows Setting.filterMembers k = false := by
    cases e <;> simp only [Effect.members, List.map_cons, List.map_nil] <;> decide
  exact fun x hx => hkeys x.1 (List.mem_map_of_mem hx)

namespace Setting

open Json

theorem filterNames_not_rule_keys :
    ∀ k ∈ filterMembers.map (·.name), k ≠ "settingMode" ∧ k ≠ "replaceName" := by decide

theorem toJson_members {s : Setting} {m : Mode} (hm : s.effect.mode? = some m) :
    s.toJson = obj ([("settingMode", str m.name)] ++ s.effect.members ++ s.filter.members ++
      s.replaceName.toList.map fun n => ("replaceName", str n)) := by
  unfold Setting.toJson
  rw [hm]
  cases s.replaceName <;> rfl

/-! ## Each record from its own members -/

/-- Members named as a filter's are unknown to a record that knows none of those names. -/
theorem filter_unknown {σ : Type} {fields : List (Member σ)}
    (h : (filterMembers.map (·.name)).all (fun k => !knows fields k) = true)
    {F : List (String × Json)} (hF : F.map (·.1) = filterMembers.map (·.name)) :
    F.filter (fun x => knows fields x.1) = [] := by
  refine List.filter_eq_nil_iff.mpr fun x hx => ?_
  have hk := List.all_eq_true.mp h x.1 (hF ▸ List.mem_map_of_mem hx)
  simpa using hk

theorem payload_skips_filter (m : Mode) (E : List (String × Json)) {F : List (String × Json)}
    (hF : F.map (·.1) = filterMembers.map (·.name)) :
    payload m (sortMembers (E ++ F)) = payload m (sortMembers E) := by
  cases m <;> simp only [payload] <;> congr 1 <;>
    exact readMembers_sortMembers_congr _ _
      (by rw [List.filter_append, filter_unknown (by decide) hF, List.append_nil])

theorem modeTag_name (m : Mode) : (modeTag (.str m.name) []).run.value = .ok m := by
  cases m <;> rfl

section Written

variable {E F : List (String × Json)}

/-- The effect is read from the mode's tag and the payload, whatever the filter's members. -/
theorem readEffect_written (m : Mode) {e : Effect} (hE : ∀ x ∈ E, x.1 ≠ "settingMode")
    (hF : F.map (·.1) = filterMembers.map (·.name))
    (hpay : (payload m (sortMembers E)).run.value = .ok e) :
    (readEffect (sortMembers (("settingMode", str m.name) :: (E ++ F)))).run.value = .ok e := by
  have hkeys : ∀ x ∈ E ++ F, x.1 ≠ "settingMode" := by
    intro x hx
    rcases List.mem_append.mp hx with hx | hx
    · exact hE x hx
    · exact (filterNames_not_rule_keys x.1 (hF ▸ List.mem_map_of_mem hx)).1
  have htag : (("settingMode", str m.name) :: (E ++ F)).filter (fun x => x.1 == "settingMode") =
      [("settingMode", str m.name)] := by
    rw [List.filter_cons_of_pos (by simp),
      List.filter_eq_nil_iff.mpr fun x hx => by simpa using hkeys x hx]
  have hrest : (("settingMode", str m.name) :: (E ++ F)).filter (fun x => x.1 != "settingMode") =
      E ++ F := by
    rw [List.filter_cons_of_neg (by simp),
      List.filter_eq_self.mpr fun x hx => by simpa using hkeys x hx]
  unfold readEffect
  rw [find?_sortMembers, htag]
  show (modeTag (.str m.name) [] >>= fun mode => payload mode _).run.value = _
  rw [Json.run_value_bind, modeTag_name, filter_sortMembers (· != "settingMode"), hrest]
  show (payload m (sortMembers (E ++ F))).run.value = _
  rw [payload_skips_filter m E hF]
  exact hpay

/-- The filter is read from its own members, whatever the tag and the payload. -/
theorem readFilter_written (m : Mode) {f : Filter}
    (hE : ∀ x ∈ E, knows filterMembers x.1 = false)
    (hfil : (readMembers filterMembers .any (sortMembers F)).run.value = .ok f) :
    (readMembers filterMembers .any
      (sortMembers (("settingMode", str m.name) :: (E ++ F)))).run.value = .ok f := by
  have htag : knows filterMembers "settingMode" = false := by decide
  have hEout : E.filter (fun x => knows filterMembers x.1) = [] :=
    List.filter_eq_nil_iff.mpr fun x hx => by simp [hE x hx]
  have hknown :
      (("settingMode", str m.name) :: (E ++ F)).filter (fun x => knows filterMembers x.1) =
        F.filter (fun x => knows filterMembers x.1) := by
    simp only [List.filter_cons, htag, List.filter_append, hEout, List.nil_append,
      Bool.false_eq_true, ↓reduceIte]
  rw [readMembers_sortMembers_congr filterMembers .any hknown]
  exact hfil

/-- Every member but the replacement name goes on to be read as the effect and the filter. -/
theorem written_filter_replaceName (m : Mode) (r : Option String)
    (hE : ∀ x ∈ E, x.1 ≠ "replaceName") (hF : F.map (·.1) = filterMembers.map (·.name)) :
    ([("settingMode", str m.name)] ++ E ++ F ++
        r.toList.map fun n => ("replaceName", str n)).filter (fun x => x.1 == "replaceName") =
      r.toList.map (fun n => ("replaceName", str n)) ∧
    ([("settingMode", str m.name)] ++ E ++ F ++
        r.toList.map fun n => ("replaceName", str n)).filter (fun x => x.1 != "replaceName") =
      ("settingMode", str m.name) :: (E ++ F) := by
  have hFkeys : ∀ x ∈ F, x.1 ≠ "replaceName" := fun x hx =>
    (filterNames_not_rule_keys x.1 (hF ▸ List.mem_map_of_mem hx)).2
  have hEout : E.filter (fun x => x.1 == "replaceName") = [] :=
    List.filter_eq_nil_iff.mpr fun x hx => by simpa using hE x hx
  have hFout : F.filter (fun x => x.1 == "replaceName") = [] :=
    List.filter_eq_nil_iff.mpr fun x hx => by simpa using hFkeys x hx
  have hEin : E.filter (fun x => x.1 != "replaceName") = E :=
    List.filter_eq_self.mpr fun x hx => by simpa using hE x hx
  have hFin : F.filter (fun x => x.1 != "replaceName") = F :=
    List.filter_eq_self.mpr fun x hx => by simpa using hFkeys x hx
  constructor <;> cases r <;> simp [hEout, hFout, hEin, hFin]

theorem wire_written {m : Mode} (r : Option String) {e : Effect} {f : Filter}
    (hE : ∀ x ∈ E,
      x.1 ≠ "settingMode" ∧ x.1 ≠ "replaceName" ∧ knows filterMembers x.1 = false)
    (hF : F.map (·.1) = filterMembers.map (·.name))
    (hpay : (payload m (sortMembers E)).run.value = .ok e)
    (hfil : (readMembers filterMembers .any (sortMembers F)).run.value = .ok f) :
    (wire (obj (sortMembers ([("settingMode", str m.name)] ++ E ++ F ++
      r.toList.map fun n => ("replaceName", str n))))).run.value = .ok ⟨e, f, r, none⟩ := by
  obtain ⟨hname, hrest⟩ := written_filter_replaceName m r (fun x hx => (hE x hx).2.1) hF
  have heff := readEffect_written m (fun x hx => (hE x hx).1) hF hpay
  have hfilter := readFilter_written m (fun x hx => (hE x hx).2.2) hfil
  have hsort0 : sortMembers ([] : List (String × Json)) = [] := rfl
  have hsort1 : ∀ x : String × Json, sortMembers [x] = [x] := fun _ => rfl
  simp only [wire]
  rw [find?_sortMembers, hname, filter_sortMembers (· != "replaceName"), hrest]
  cases r <;> simp only [Option.toList, List.map_cons, List.map_nil, hsort0, hsort1,
    List.head?_nil, List.head?_cons, Json.run_value_bind, Json.run_value_pure, heff,
    hfilter] <;> rfl

end Written

/-- A writable rule, written, sorted and read in full, is the rule its written form keeps. -/
theorem wire_toJson {s : Setting} (he : s.effect.Writable) (hf : s.filter.Keyed) :
    (wire s.toJson.canonical).run.value =
      .ok ⟨s.effect.asWritten, s.filter, s.replaceName, none⟩ := by
  obtain ⟨m, hm⟩ := he.exists_mode
  rw [toJson_members hm, canonical_obj_of_members]
  · exact wire_written s.replaceName (Effect.members_keys _) rfl (read_payload he hm)
      (read_filter hf _)
  · intro x hx
    simp only [List.mem_append, List.mem_singleton, List.mem_map] at hx
    rcases hx with ((rfl | hx) | hx) | ⟨n, -, rfl⟩
    · exact canonical_str _
    · exact Effect.canonical_members _ x hx
    · exact Filter.canonical_members _ x hx
    · exact canonical_str _

/-! ## What reading builds -/

theorem readEffect_writable {ms : List (String × Json)} (hms : ∀ x ∈ ms, x.2.Classed)
    {e : Effect}
    (h : (readEffect ms).run.value = .ok e) : e.Writable := by
  unfold readEffect at h
  split at h
  · cases h
  · obtain ⟨m, -, hpay⟩ := eq_ok_of_bind h
    exact (payload_writable (fun x hx => hms x (List.mem_of_mem_filter hx)) hpay).1

theorem wire_writable {j : Json} (hj : j.Classed) {s : Setting} (h : (wire j).run.value = .ok s) :
    s.effect.Writable ∧ s.filter.Keyed ∧ s.unreadable = none := by
  cases hj
  case obj ms hms =>
    simp only [wire] at h
    have hrest : ∀ rn : Option String,
        (readEffect (ms.filter fun x => x.1 != "replaceName") >>= fun e =>
          readMembers filterMembers .any (ms.filter fun x => x.1 != "replaceName") >>= fun f =>
          pure (⟨e, f, rn, none⟩ : Setting)).run.value = .ok s →
        s.effect.Writable ∧ s.filter.Keyed ∧ s.unreadable = none := by
      intro rn hr
      obtain ⟨e, he, hr⟩ := eq_ok_of_bind hr
      obtain ⟨f, hf, hr⟩ := eq_ok_of_bind hr
      cases hr
      exact ⟨readEffect_writable (fun x hx => hms x (List.mem_of_mem_filter hx)) he,
        filter_keyed Filter.keyed_any hf, rfl⟩
    split at h
    · obtain ⟨rn, -, h⟩ := eq_ok_of_bind h
      exact hrest rn h
    · exact hrest none h
  all_goals simp [wire, invalidType] at h

theorem ofJson_of_wire {j : Json} {s : Setting} (h : (wire j.canonical).run.value = .ok s) :
    (ofJson j).value = s := by
  simp only [ofJson, Logged.value_bind, h, Logged.value_pure]

theorem wire_of_readable {j : Json} (h : (ofJson j).value.unreadable = none) :
    (wire j.canonical).run.value = .ok (ofJson j).value := by
  cases hw : (wire j.canonical).run.value with
  | ok s => rw [ofJson_of_wire hw]
  | error e =>
    simp only [ofJson, Logged.value_bind, hw, salvage, Logged.value_pure] at h
    cases h

/-! ## The round trip -/

/-- A rule read in full, written and read again, is the same rule but for a bonus of stones that
is no finite float, which comes back as `0`. -/
theorem setting_json_round_trip {v : Json} (hv : v.Classed)
    (h : (Setting.ofJson v).value.unreadable = none) :
    (Setting.ofJson (Setting.ofJson v).value.toJson).value =
      { (Setting.ofJson v).value with effect := (Setting.ofJson v).value.effect.asWritten } := by
  have hw := wire_of_readable h
  obtain ⟨he, hf, -⟩ := wire_writable hv.canonical hw
  rw [ofJson_of_wire (wire_toJson he hf), ← h]

def strideRule : Json := .obj [("settingMode", .str "moveBonus"), ("bonusStride", .num (.nat 2))]

theorem strideRule_classed : strideRule.Classed :=
  .obj fun m hm => by
    simp only [List.mem_cons, List.not_mem_nil, or_false] at hm
    rcases hm with rfl | rfl
    · exact .str _
    · exact .num (show 2 < 18446744073709551616 by decide)

theorem ofJson_strideRule :
    (Setting.ofJson strideRule).value =
      ⟨.moveBonus ⟨2, 0, 0, false⟩, Filter.any, none, none⟩ := by
  apply ofJson_of_wire
  rw [strideRule, canonical_obj_of_members (by simp)]
  rfl

theorem strideRule_round_trip : strideRule.Classed ∧
    (Setting.ofJson strideRule).value.unreadable = none ∧
    (Setting.ofJson (Setting.ofJson strideRule).value.toJson).value =
      { (Setting.ofJson strideRule).value with
        effect := (Setting.ofJson strideRule).value.effect.asWritten } :=
  have hu : (Setting.ofJson strideRule).value.unreadable = none := by rw [ofJson_strideRule]
  ⟨strideRule_classed, hu, setting_json_round_trip strideRule_classed hu⟩

/-- A rule whose bonus of stones is written `"inf"`, which reads as an infinite float. -/
def infiniteBonusRule : Json :=
  .obj [("settingMode", .str "encumbranceBonus"), ("encumbranceBonus", .str "inf")]

theorem ofJson_infiniteBonusRule :
    (Setting.ofJson infiniteBonusRule).value =
      ⟨.encumbranceBonus (Float.ofScientific 1 false 400), Filter.any, none, none⟩ := by
  apply ofJson_of_wire
  rw [infiniteBonusRule, canonical_obj_of_members (by simp)]
  rfl

/-- The rule is read in full with a known mode, but its bonus is written as `null`, so reading
the written rule does not give it back. -/
theorem infiniteBonus_not_round_trip :
    (Setting.ofJson infiniteBonusRule).value.unreadable = none ∧
    (Setting.ofJson infiniteBonusRule).value.mode? = some .encumbranceBonus ∧
    (Setting.ofJson (Setting.ofJson infiniteBonusRule).value.toJson).value ≠
      (Setting.ofJson infiniteBonusRule).value := by
  have hinf : ((Float.ofScientific 1 false 400).isNaN || (Float.ofScientific 1 false 400).isInf) =
      true := by decide +kernel
  have hzero : (0 : Float).isInf = false := by decide +kernel
  have hbig : (Float.ofScientific 1 false 400).isInf = true := by decide +kernel
  rw [ofJson_infiniteBonusRule]
  refine ⟨rfl, rfl, fun heq => ?_⟩
  rw [ofJson_of_wire (@wire_toJson
    ⟨.encumbranceBonus (Float.ofScientific 1 false 400), Filter.any, none, none⟩ trivial
    Filter.keyed_any)] at heq
  simp only [Effect.asWritten, hinf, ↓reduceIte, Setting.mk.injEq,
    Effect.encumbranceBonus.injEq] at heq
  have hfin := congrArg Float.isInf heq.1
  rw [hzero, hbig] at hfin
  cases hfin

end Setting
end DicePools

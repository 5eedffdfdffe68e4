import DicePools.Proofs.Malformed

/-! Rule keys name one rule when item ids are distinct. Main statement:
`build_keys_identify_rules`. -/

namespace DicePools
namespace RuleBook

theorem mem_malformed_build {a : Actor} {k : RuleKey} :
    k ∈ (build a).value.malformed ↔ ∃ item ∈ a.items, ∃ g, item.kind = .gift g ∧
      item.id = k.item ∧ ∃ st, g.rules[k.index]? = some st ∧ st.problems ≠ [] := by
  rw [build_malformed,List.mem_flatMap]
  refine exists_congr fun item => and_congr_right fun _ => ?_
  unfold itemMalformed
  split
  · rename_i g hk
    simp only [List.mem_filterMap,List.mem_zipIdx_iff_getElem?,Option.ite_none_left_eq_some,
      List.isEmpty_iff,Option.some.injEq]
    constructor
    · rintro ⟨⟨st,i⟩,hst,hp,rfl⟩
      exact ⟨g,hk,rfl,st,hst,hp⟩
    · rintro ⟨g',hk',hid,st,hst,hp⟩
      obtain rfl : g = g' := by simpa [hk] using hk'
      exact ⟨(st,k.index),hst,hp,by rw [hid]⟩
  · rename_i hk
    simp only [List.not_mem_nil,false_iff,not_exists,not_and]
    intro g hg
    exact absurd hg (hk g)

theorem problems_of_isMalformed {a : Actor} (hids : (a.items.map (·.id)).Nodup) {r : Rule}
    (hr : r ∈ (build a).value.rules) (hm : (build a).value.isMalformed r.key = true) :
    r.setting.problems ≠ [] := by
  obtain ⟨item,hitem,hr'⟩ := mem_build_rules.mp hr
  obtain ⟨g,hg,hri,hrg,hs,-⟩ := mem_itemRules.mp hr'
  have hk : r.key ∈ (build a).value.malformed := by simpa [isMalformed] using hm
  obtain ⟨item',hitem',g',hg',hid,st,hst,hp⟩ := mem_malformed_build.mp hk
  -- the malformed key names the item of `r`, which distinct ids make the same item
  obtain rfl : item' = item :=
    List.inj_on_of_nodup_map hids hitem' hitem (hid.trans (by rw [← hri]; rfl))
  obtain rfl : g = g' := by simpa [hg] using hg'
  obtain rfl : r.setting = st := by simpa [Rule.key,hs] using hst
  exact hp

/-- On a sheet whose items have distinct ids, a key names one rule of the book. -/
theorem build_keys_identify_rules (a : Actor) (hids : (a.items.map (·.id)).Nodup) :
    ((build a).value.rules.map Rule.key).Nodup ∧
    ∀ r ∈ (build a).value.rules, (build a).value.rule? r.key = some r ∧
      ((build a).value.isMalformed r.key = true ↔ r.setting.problems ≠ []) := by
  have hk := build_keys_nodup hids
  refine ⟨hk,fun r hr => ⟨(rule?_eq_some hk).mpr ⟨hr,rfl⟩,?_⟩⟩
  exact ⟨problems_of_isMalformed hids hr,isMalformed_of_problems hr⟩

/-- A soak gift beside the gift with the unreadable rule, each with its own id. -/
def pairSheet : Actor :=
  ⟨"",[],[],[plainGift (.ofSerial 10) "Tough" [replacing .soakBonus none],
    brokenItem],default,[]⟩

theorem pairSheet_keys_identify_rules :
    (pairSheet.items.map (·.id)).Nodup ∧
    ((build pairSheet).value.rules.map Rule.key).Nodup ∧
    ∀ r ∈ (build pairSheet).value.rules, (build pairSheet).value.rule? r.key = some r ∧
      ((build pairSheet).value.isMalformed r.key = true ↔ r.setting.problems ≠ []) :=
  ⟨by decide,build_keys_identify_rules pairSheet (by decide)⟩

/-- The soak rule of `Tough`. -/
def toughRule : Rule :=
  ⟨plainGift (.ofSerial 10) "Tough" [replacing .soakBonus none],
    ⟨.empty,⟨[],Dice.empty⟩,false,false,none,[replacing .soakBonus none]⟩,0,
    replacing .soakBonus none,.soakBonus⟩

/-- `Tough` and a gift whose one rule cannot be read, under one id. -/
def twinSheet : Actor :=
  ⟨"",[],[],[plainGift (.ofSerial 10) "Tough" [replacing .soakBonus none],
    plainGift (.ofSerial 10) "Clumsy" [brokenSetting]],default,[]⟩

/-- When two gifts share an id, the well-formed rule of one is marked malformed for the
problems of the other. -/
theorem twinSheet_keys_confused :
    ¬ ∀ r ∈ (build twinSheet).value.rules, (build twinSheet).value.rule? r.key = some r ∧
      ((build twinSheet).value.isMalformed r.key = true ↔ r.setting.problems ≠ []) := by
  intro h
  have hmem : toughRule ∈ (build twinSheet).value.rules := by
    rw [build_rules]
    exact List.mem_cons_self
  have hbad : (build twinSheet).value.isMalformed toughRule.key = true := by decide +kernel
  have hfine : toughRule.setting.problems = [] := by decide +kernel
  exact ((h toughRule hmem).2.mp hbad) hfine

end RuleBook
end DicePools

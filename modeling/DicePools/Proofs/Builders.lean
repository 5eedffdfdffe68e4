import DicePools.Rules.Actions
import DicePools.Proofs.Aggregate
import Mathlib.Logic.Relation

/-! Every builder grows a construction by well-formed steps. Main statement:
`reachable_wellFormed`. -/

namespace DicePools
namespace Construction

/-- One change a builder makes to a construction: a stat selected, a field satisfying `P`
inserted, a checkbox set, or text added to the label. -/
inductive Step (P : PoolField → Prop) : Construction → Construction → Prop
  | precheck (c : Construction) (stat : String) : Step P c (c.precheck stat)
  | insertField (c : Construction) {f : PoolField} : P f → Step P c (c.insertField f)
  | setChecked (c : Construction) (id : String) (checked : Bool) :
      Step P c (c.setChecked id checked).1
  | pushLabel (c : Construction) (text : String) : Step P c (c.pushLabel text)

/-- `c'` is made from `c` by builder changes whose inserted fields satisfy `P`. -/
def Grows (P : PoolField → Prop) : Construction → Construction → Prop :=
  Relation.ReflTransGen (Step P)

section Grows

variable {P : PoolField → Prop} {c c' c'' : Construction}

theorem Grows.refl (P : PoolField → Prop) (c : Construction) : Grows P c c :=
  Relation.ReflTransGen.refl

theorem Grows.trans (h : Grows P c c') (h' : Grows P c' c'') : Grows P c c'' :=
  Relation.ReflTransGen.trans h h'

theorem Grows.single (h : Step P c c') : Grows P c c' :=
  Relation.ReflTransGen.single h

theorem grows_foldl_precheck (stats : List String) (c : Construction) :
    Grows P c (stats.foldl precheck c) := by
  induction stats generalizing c with
  | nil => exact Grows.refl P c
  | cons stat stats ih => exact (Grows.single (.precheck c stat)).trans (ih _)

theorem grows_foldl_pushLabel (texts : List String) (c : Construction) :
    Grows P c (texts.foldl pushLabel c) := by
  induction texts generalizing c with
  | nil => exact Grows.refl P c
  | cons text texts ih => exact (Grows.single (.pushLabel c text)).trans (ih _)

theorem grows_foldl_insertField {fs : List PoolField} (hfs : ∀ f ∈ fs, P f) (c : Construction) :
    Grows P c (fs.foldl insertField c) := by
  induction fs generalizing c with
  | nil => exact Grows.refl P c
  | cons f fs ih =>
    have hf : P f := hfs f List.mem_cons_self
    have hrest : ∀ g ∈ fs, P g := fun g hg => hfs g (List.mem_cons_of_mem f hg)
    exact (Grows.single (.insertField c hf)).trans (ih hrest _)

@[simp] theorem pushLabel_fields (c : Construction) (text : String) :
    (c.pushLabel text).fields = c.fields := by
  unfold pushLabel
  split_ifs <;> rfl

@[simp] theorem pushLabel_prechecked (c : Construction) (text : String) :
    (c.pushLabel text).prechecked = c.prechecked := by
  unfold pushLabel
  split_ifs <;> rfl

@[simp] theorem insertField_prechecked (c : Construction) (f : PoolField) :
    (c.insertField f).prechecked = c.prechecked := by
  unfold insertField
  split <;> rfl

@[simp] theorem setChecked_prechecked (c : Construction) (id : String) (checked : Bool) :
    (c.setChecked id checked).1.prechecked = c.prechecked := by
  unfold setChecked
  split <;> rfl

theorem mem_insertFirst {fs : List PoolField} {f g : PoolField} (h : g ∈ insertFirst fs f) :
    g ∈ fs ∨ g = f := by
  induction fs with
  | nil => exact .inr (by simpa [insertFirst] using h)
  | cons x xs ih =>
    unfold insertFirst at h
    split at h
    · rcases List.mem_cons.mp h with rfl | h
      · exact .inr rfl
      · exact .inl (List.mem_cons_of_mem x h)
    · rcases List.mem_cons.mp h with rfl | h
      · exact .inl List.mem_cons_self
      · rcases ih h with h | h
        · exact .inl (List.mem_cons_of_mem x h)
        · exact .inr h

theorem mem_setChecked_fields {id : String} {checked : Bool} {f : PoolField}
    (h : f ∈ (c.setChecked id checked).1.fields) :
    ∃ g ∈ c.fields, f = g ∨ f = { g with checked := checked } := by
  unfold setChecked at h
  split at h
  · rename_i k _
    simp only at h
    obtain ⟨i,hi,rfl⟩ := List.mem_iff_getElem.mp h
    have hi' : i < c.fields.length := by simpa using hi
    refine ⟨c.fields[i],List.getElem_mem hi',?_⟩
    rw [List.getElem_modify]
    split
    · exact .inr rfl
    · exact .inl rfl
  · exact ⟨f,h,.inl rfl⟩

theorem ids_setChecked (id : String) (checked : Bool) :
    (c.setChecked id checked).1.fields.map (·.id) = c.fields.map (·.id) := by
  unfold setChecked
  split
  · rename_i k _
    refine List.ext_getElem (by simp) fun i h₁ h₂ => ?_
    simp only [List.getElem_map,List.getElem_modify]
    split <;> rfl
  · rfl

theorem Grows.fields_sat (h : Grows P c c')
    (hP : ∀ f (b : Bool), P f → P { f with checked := b }) (hc : ∀ f ∈ c.fields, P f) :
    ∀ f ∈ c'.fields, P f := by
  induction h with
  | refl => exact hc
  | tail _ hs ih =>
    cases hs with
    | precheck stat => simpa using ih
    | insertField hf =>
      intro g hg
      rw [insertField_fields] at hg
      rcases mem_insertFirst hg with hg | rfl
      · exact ih g hg
      · exact hf
    | setChecked id checked =>
      intro g hg
      obtain ⟨g',hg',heq | heq⟩ := mem_setChecked_fields hg
      · rw [heq]
        exact ih g' hg'
      · rw [heq]
        exact hP g' checked (ih g' hg')
    | pushLabel text => simpa using ih

end Grows

/-! ## Well-formed constructions -/

/-- What every construction the builders make satisfies: each field id at most once, and the
selected stats distinct, non-blank keys of stat names. -/
structure WellFormed (c : Construction) : Prop where
  ids_nodup : (c.fields.map (·.id)).Nodup
  prechecked_nodup : c.prechecked.Nodup
  prechecked_keys : ∀ k ∈ c.prechecked, k ≠ "" ∧ ∃ stat, Name.key stat = k

theorem wellFormed_empty : empty.WellFormed :=
  ⟨List.nodup_nil,List.nodup_nil,fun _ h => absurd h List.not_mem_nil⟩

theorem Step.wellFormed {P : PoolField → Prop} {c c' : Construction} (h : Step P c c')
    (hc : c.WellFormed) : c'.WellFormed := by
  cases h with
  | precheck stat =>
    refine ⟨by simpa using hc.ids_nodup,precheck_nodup c hc.prechecked_nodup stat,?_⟩
    intro k hk
    unfold Construction.precheck at hk
    dsimp only at hk
    split at hk
    · exact hc.prechecked_keys k hk
    · rename_i hnew
      rcases List.mem_append.mp hk with hk | hk
      · exact hc.prechecked_keys k hk
      · -- the stat's key was added, so it is not blank
        rw [List.mem_singleton.mp hk]
        simp only [Bool.or_eq_true,not_or,Bool.not_eq_true] at hnew
        refine ⟨fun he => ?_,stat,rfl⟩
        rw [he] at hnew
        exact absurd hnew.1 (by decide)
  | insertField =>
    rename_i f _
    refine ⟨?_,by simpa using hc.prechecked_nodup,by simpa using hc.prechecked_keys⟩
    rw [insertField_fields,ids_insertFirst]
    split
    · exact hc.ids_nodup
    · rename_i hnew
      exact List.nodup_append.mpr ⟨hc.ids_nodup,List.nodup_singleton _,
        fun a ha b hb hab => hnew (by rw [List.mem_singleton.mp hb] at hab; rwa [← hab])⟩
  | setChecked id checked =>
    refine ⟨by rw [ids_setChecked]; exact hc.ids_nodup,by simpa using hc.prechecked_nodup,
      by simpa using hc.prechecked_keys⟩
  | pushLabel text =>
    exact ⟨by simpa using hc.ids_nodup,by simpa using hc.prechecked_nodup,
      by simpa using hc.prechecked_keys⟩

theorem Grows.wellFormed {P : PoolField → Prop} {c c' : Construction} (h : Grows P c c')
    (hc : c.WellFormed) : c'.WellFormed := by
  induction h with
  | refl => exact hc
  | tail _ hs ih => exact hs.wellFormed ih

theorem WellFormed.countP_id_le_one {c : Construction} (hc : c.WellFormed) (id : String) :
    c.fields.countP (·.id == id) ≤ 1 := by
  have h := List.nodup_iff_count_le_one.mp hc.ids_nodup id
  rwa [List.count_eq_countP,List.countP_map] at h

end Construction

/-! ## Each builder grows its input -/

open Construction

variable {P : PoolField → Prop}

theorem armorFields_eq_foldl (a : Actor) (checked : Bool) (c : Construction) :
    armorFields a checked c = (armorList a checked).foldl insertField c := by
  rw [armorList,List.foldl_filterMap,armorFields]
  congr 1
  funext c p
  obtain ⟨i,r⟩ := p
  by_cases h : r.dice.isEmpty <;> simp [h]

theorem shieldField_eq_foldl (a : Actor) (c : Construction) :
    shieldField a c = (shieldList a).foldl insertField c := by
  unfold shieldField shieldList
  cases h : a.heldShield? with
  | none => rfl
  | some p =>
    obtain ⟨i,s⟩ := p
    by_cases hd : s.dice.isEmpty <;> simp [hd]

theorem statusBonus_eq_foldl (b : RuleBook) (kind : StatusKind) (ctx : Context) (force : Bool)
    (c : Construction) :
    (statusBonus b kind ctx force c).value = (statusList b kind ctx force).foldl insertField c := by
  unfold statusList statusBonus
  by_cases h : (!force && !ctx.conditions.hasAny [kind.condition]) = true <;>
    simp [h,Construction.empty,insertFirst]

theorem addSource_eq_foldl (b : RuleBook) (ctx : Context) (c : Construction) (s : BonusSource) :
    (addSource b ctx c s).value = (sourceFields b ctx s).foldl insertField c := by
  cases s <;> simp [addSource,sourceFields,armorFields_eq_foldl,shieldField_eq_foldl,
    statusBonus_eq_foldl]

theorem grows_foldl_addSource {b : RuleBook} {ctx : Context} {srcs : List BonusSource}
    (hsrc : ∀ s ∈ srcs, ∀ f ∈ sourceFields b ctx s, P f) (c : Construction) :
    Grows P c (srcs.foldl (fun c s => (addSource b ctx c s).value) c) := by
  induction srcs generalizing c with
  | nil => exact Grows.refl P c
  | cons s ss ih =>
    simp only [List.mem_cons,forall_eq_or_imp] at hsrc
    rw [List.foldl_cons,addSource_eq_foldl]
    exact (grows_foldl_insertField hsrc.1 c).trans (ih hsrc.2 _)

theorem grows_addBonus {b : RuleBook} {ctx : Context} {r : Rule}
    (hplan : ∀ f ∈ b.rulePlan ctx r, P f) (c : Construction) :
    Grows P c (addBonus b ctx c r (b.resolveChain r ctx).value.used).value := by
  unfold addBonus
  cases hb : (b.resolveChain r ctx).value.used.setting.effect.diceBonus? with
  | none => exact Grows.refl P c
  | some bonus =>
    have hplan' : b.rulePlan ctx r =
        bonus.parsedSources.flatMap (sourceFields b ctx) ++ (b.bonusField ctx r).toList := by
      simp only [RuleBook.rulePlan,hb]
    have hsrc : ∀ s ∈ bonus.parsedSources, ∀ f ∈ sourceFields b ctx s, P f := by
      intro s hs f hf
      apply hplan f
      rw [hplan']
      exact List.mem_append_left _ (List.mem_flatMap.mpr ⟨s,hs,hf⟩)
    dsimp only
    simp only [Logged.value_bind,Logged.value_foldlM]
    split_ifs with hd
    · exact (grows_foldl_addSource hsrc c).trans (grows_foldl_precheck _ _)
    · refine ((grows_foldl_addSource hsrc c).trans (grows_foldl_precheck _ _)).trans
        (Grows.single (.insertField _ (hplan _ ?_)))
      rw [hplan']
      simp only [RuleBook.bonusField,hb,hd,Bool.false_eq_true,if_false,Option.toList_some,
        List.mem_append,List.mem_singleton,Rule.fieldId]
      right
      cases bonus.autoUsed <;> rfl

/-- The bonuses of base rules, one after the other, insert the fields of their plans. -/
theorem grows_foldl_addBonus {b : RuleBook} {ctx : Context} {rs : List Rule}
    (hplan : ∀ r ∈ rs, ∀ f ∈ b.rulePlan ctx r, P f) (c : Construction) :
    Grows P c (rs.foldl
      (fun c r => (addBonus b ctx c r (b.resolveChain r ctx).value.used).value) c) := by
  induction rs generalizing c with
  | nil => exact Grows.refl P c
  | cons r rs ih =>
    simp only [List.mem_cons,forall_eq_or_imp] at hplan
    exact (grows_addBonus hplan.1 c).trans (ih hplan.2 _)

/-- Folding the bonuses of a mode inserts the fields of its plan, and the guard and aim bonuses
their field. -/
theorem grows_aggregate {b : RuleBook} {m : Mode} {ctx : Context}
    (hplan : ∀ f ∈ b.aggregatePlan m ctx, P f)
    (hstatus : ∀ kind force, ∀ f ∈ statusList b kind ctx force, P f) (c : Construction) :
    Grows P c (aggregate b m ctx c).value := by
  by_cases hm : m.isPoolKind = true
  · rw [aggregate_value b hm]
    refine grows_foldl_addBonus (fun r hr f hf => hplan f ?_) c
    exact List.mem_flatMap.mpr ⟨r,hr,hf⟩
  · cases m
    case guardBonus =>
      rw [aggregate,statusBonus_eq_foldl]
      exact grows_foldl_insertField (hstatus .guard false) c
    case aimBonus =>
      rw [aggregate,statusBonus_eq_foldl]
      exact grows_foldl_insertField (hstatus .aim false) c
    all_goals simp_all [aggregate,Mode.isPoolKind,Grows.refl]

theorem Item.kind_of_gift?_eq_some {i : Item} {g : Gift} (h : i.gift? = some g) :
    i.kind = .gift g := by
  unfold Item.gift? at h
  split at h
  · rename_i g' hk
    rw [hk,Option.some.inj h]
  · cases h

theorem grows_weaponRoll {b : RuleBook} {ctx : Context} {item : Item} {roll : StatRoll}
    (hw : ∀ dice, P (.plain ("weapon-" ++ item.id.text) item.name dice)) (c : Construction) :
    Grows P c (b.weaponRoll ctx item roll c).value := by
  unfold RuleBook.weaponRoll
  simp only [Logged.value_bind]
  generalize (b.changeStats ctx roll.stats).value = changed
  generalize (b.upgradeDice ctx roll.dice).value = upgraded
  obtain ⟨stats,statLabels⟩ := changed
  obtain ⟨dice,diceLabels⟩ := upgraded
  dsimp only
  refine (grows_foldl_precheck stats c).trans (Grows.trans ?_ (grows_foldl_pushLabel _ _))
  split_ifs
  · exact Grows.refl P _
  · exact Grows.single (.insertField _ (hw dice))

/-- A gift roll inserts the dice of the gift named, when it is refreshed, under the gift's id. -/
theorem grows_giftField {b : RuleBook} {name : String}
    (hg : ∀ i g, b.actor.itemNamed? name = some i → i.kind = .gift g →
      g.isRefreshed = true →
      P ⟨"gift-" ++ i.id.text,i.name,g.useDice.dice,true,some i.id,g.exhaustWhenUsed⟩)
    (c : Construction) : Grows P c (b.giftField name c).value := by
  unfold RuleBook.giftField
  cases hf : (b.actor.itemNamed? name).bind fun i => i.gift?.map (i,·) with
  | none => exact Grows.refl P c
  | some p =>
    obtain ⟨i,g⟩ := p
    obtain ⟨i',hi,hgift⟩ := Option.bind_eq_some_iff.mp hf
    obtain ⟨g',hg',hp⟩ := Option.map_eq_some_iff.mp hgift
    cases hp
    dsimp only
    split_ifs with hr he
    · exact Grows.refl P c
    · exact Grows.refl P c
    · refine (grows_foldl_precheck _ _).trans (Grows.single (.insertField _ ?_))
      exact hg i g hi (Item.kind_of_gift?_eq_some hg') (by simpa using hr)

/-- `P` holds of every field the presets of a book insert, gift fields apart: worn armor, the
held shield, the guard and aim bonuses, weapon dice and pool bonuses. -/
structure RuleBook.PresetFields (b : RuleBook) (P : PoolField → Prop) : Prop where
  armor : ∀ checked, ∀ f ∈ armorList b.actor checked, P f
  shield : ∀ f ∈ shieldList b.actor, P f
  status : ∀ kind ctx force, ∀ f ∈ statusList b kind ctx force, P f
  weapon : ∀ (i : Item) dice, P (.plain ("weapon-" ++ i.id.text) i.name dice)
  bonus : ∀ m ctx, ∀ f ∈ b.aggregatePlan m ctx, P f

namespace RuleBook.PresetFields

variable {b : RuleBook} (hp : b.PresetFields P)
include hp

theorem grows_aggregate (m : Mode) (ctx : Context) (c : Construction) :
    Grows P c (aggregate b m ctx c).value :=
  DicePools.grows_aggregate (hp.bonus m ctx) (fun kind force => hp.status kind ctx force) c

theorem grows_shieldField (c : Construction) : Grows P c (shieldField b.actor c) := by
  rw [shieldField_eq_foldl]
  exact grows_foldl_insertField hp.shield c

theorem grows_statusBonus (kind : StatusKind) (ctx : Context) (force : Bool) (c : Construction) :
    Grows P c (statusBonus b kind ctx force c).value := by
  rw [statusBonus_eq_foldl]
  exact grows_foldl_insertField (hp.status kind ctx force) c

theorem grows_prepareAction {action : Action} (hna : ∀ names, action ≠ .gifts names)
    (ctx : Context) : Grows P .empty (b.prepareAction action ctx).value := by
  have hstart : Grows P .empty (Construction.empty.pushLabel (action.title ctx.item)) :=
    Grows.single (.pushLabel _ _)
  unfold RuleBook.prepareAction
  cases action with
  | attack =>
    dsimp only
    -- with a weapon in hand its roll comes between the aim bonus and the attack bonuses
    split <;> simp only [Logged.value_bind,Logged.value_pure] <;>
      refine Grows.trans ?_ (hp.grows_aggregate _ _ _)
    · exact hstart.trans ((hp.grows_statusBonus _ _ _ _).trans (grows_weaponRoll (hp.weapon _) _))
    · exact hstart.trans (hp.grows_statusBonus _ _ _ _)
  | defense kind =>
    dsimp only
    split <;> simp only [Logged.value_bind,Logged.value_pure] <;>
      refine Grows.trans ?_ (hp.grows_aggregate _ _ _)
    · exact hstart.trans ((hp.grows_shieldField _).trans ((hp.grows_statusBonus _ _ _ _).trans
        (grows_foldl_precheck ["speed","dodge"] _)))
    · exact hstart.trans ((hp.grows_shieldField _).trans ((hp.grows_statusBonus _ _ _ _).trans
        (grows_weaponRoll (hp.weapon _) _)))
    · exact hstart.trans ((hp.grows_shieldField _).trans (hp.grows_statusBonus _ _ _ _))
  | counter =>
    dsimp only
    split <;> simp only [Logged.value_bind,Logged.value_pure] <;>
      refine Grows.trans ?_ (hp.grows_aggregate _ _ _)
    · exact hstart.trans ((hp.grows_statusBonus _ _ _ _).trans (grows_weaponRoll (hp.weapon _) _))
    · exact hstart.trans (hp.grows_statusBonus _ _ _ _)
  | resist =>
    refine hstart.trans (Grows.trans ?_ (hp.grows_aggregate _ _ _))
    split_ifs
    · exact hp.grows_shieldField _
    · exact Grows.refl P _
  | soak autocheckArmor =>
    refine hstart.trans (Grows.trans ?_ (hp.grows_aggregate _ _ _))
    rw [armorFields_eq_foldl]
    exact (grows_foldl_insertField (hp.armor _) _).trans (grows_foldl_precheck ["body"] _)
  | initiative =>
    exact hstart.trans ((grows_foldl_precheck ["speed","mind"] _).trans (hp.grows_aggregate _ _ _))
  | sprint =>
    exact hstart.trans ((grows_foldl_precheck ["speed"] _).trans (hp.grows_aggregate _ _ _))
  | skill stats => exact hstart.trans (grows_foldl_precheck stats _)
  | gifts names => exact absurd rfl (hna names)

end RuleBook.PresetFields

/-- The gifts roll grows the empty construction by the fields of the refreshed gifts named. -/
theorem grows_prepareAction_gifts {b : RuleBook}
    (hg : ∀ name i g, b.actor.itemNamed? name = some i → i.kind = .gift g →
      g.isRefreshed = true →
      P ⟨"gift-" ++ i.id.text,i.name,g.useDice.dice,true,some i.id,g.exhaustWhenUsed⟩)
    (names : List String) (ctx : Context) :
    Grows P .empty (b.prepareAction (.gifts names) ctx).value := by
  unfold RuleBook.prepareAction
  simp only [Logged.value_foldlM]
  refine (Grows.single (.pushLabel .empty ((Action.gifts names).title ctx.item))).trans ?_
  generalize Construction.empty.pushLabel _ = c
  induction names generalizing c with
  | nil => exact Grows.refl P c
  | cons name names ih => exact (grows_giftField (hg name) c).trans (ih _)

/-! ## Constructions the builders reach -/

/-- The constructions the builders make from the empty construction or a selection of stats,
applied in any order and with any arguments. -/
inductive Construction.Reachable : Construction → Prop
  | empty : Reachable Construction.empty
  | withPrechecked (stats : List String) : Reachable (Construction.withPrechecked stats)
  | prepareAction (b : RuleBook) (action : Action) (ctx : Context) :
      Reachable (b.prepareAction action ctx).value
  | precheck {c : Construction} (stat : String) : Reachable c → Reachable (c.precheck stat)
  | insertField {c : Construction} (f : PoolField) : Reachable c → Reachable (c.insertField f)
  | setChecked {c : Construction} (id : String) (checked : Bool) :
      Reachable c → Reachable (c.setChecked id checked).1
  | pushLabel {c : Construction} (text : String) : Reachable c → Reachable (c.pushLabel text)
  | armorFields {c : Construction} (a : Actor) (checked : Bool) :
      Reachable c → Reachable (DicePools.armorFields a checked c)
  | shieldField {c : Construction} (a : Actor) :
      Reachable c → Reachable (DicePools.shieldField a c)
  | statusBonus {c : Construction} (b : RuleBook) (kind : StatusKind) (ctx : Context)
      (force : Bool) : Reachable c → Reachable (DicePools.statusBonus b kind ctx force c).value
  | aggregate {c : Construction} (b : RuleBook) (m : Mode) (ctx : Context) :
      Reachable c → Reachable (DicePools.aggregate b m ctx c).value

theorem RuleBook.presetFields_true (b : RuleBook) : b.PresetFields fun _ => True :=
  ⟨fun _ _ _ => trivial,fun _ _ => trivial,fun _ _ _ _ _ => trivial,fun _ _ => trivial,
    fun _ _ _ _ => trivial⟩

theorem grows_prepareAction_true (b : RuleBook) (action : Action) (ctx : Context) :
    Grows (fun _ => True) .empty (b.prepareAction action ctx).value := by
  by_cases hg : ∃ names, action = .gifts names
  · obtain ⟨names,rfl⟩ := hg
    exact grows_prepareAction_gifts (fun _ _ _ _ _ _ => trivial) names ctx
  · exact (b.presetFields_true).grows_prepareAction (fun names h => hg ⟨names,h⟩) ctx

theorem Construction.Reachable.grows {c : Construction} (h : c.Reachable) :
    Grows (fun _ => True) .empty c := by
  induction h with
  | empty => exact Grows.refl _ _
  | withPrechecked stats => exact grows_foldl_precheck stats .empty
  | prepareAction b action ctx => exact grows_prepareAction_true b action ctx
  | precheck stat _ ih => exact ih.trans (Grows.single (.precheck _ stat))
  | insertField f _ ih => exact ih.trans (Grows.single (.insertField _ trivial))
  | setChecked id checked _ ih => exact ih.trans (Grows.single (.setChecked _ id checked))
  | pushLabel text _ ih => exact ih.trans (Grows.single (.pushLabel _ text))
  | armorFields a checked _ ih =>
    rw [armorFields_eq_foldl]
    exact ih.trans (grows_foldl_insertField (fun _ _ => trivial) _)
  | shieldField a _ ih =>
    rw [shieldField_eq_foldl]
    exact ih.trans (grows_foldl_insertField (fun _ _ => trivial) _)
  | statusBonus b kind ctx force _ ih =>
    rw [statusBonus_eq_foldl]
    exact ih.trans (grows_foldl_insertField (fun _ _ => trivial) _)
  | aggregate b m ctx _ ih =>
    exact ih.trans (DicePools.grows_aggregate (fun _ _ => trivial) (fun _ _ _ _ => trivial) _)

/-- Every construction the builders reach is well formed, so it holds at most one field under
each id. -/
theorem reachable_wellFormed {c : Construction} (h : c.Reachable) :
    c.WellFormed ∧ ∀ id, c.fields.countP (·.id == id) ≤ 1 := by
  have hc : c.WellFormed := h.grows.wellFormed wellFormed_empty
  exact ⟨hc,hc.countP_id_le_one⟩

/-- A guard field inserted twice over a selection that names one stat in two spellings. -/
def guardedTwice : Construction :=
  Construction.insertField
    ((Construction.withPrechecked ["Body","body"]).insertField (.plain "guard" "Guard" .empty))
    (.plain "guard" "Guard" .empty)

theorem guardedTwice_wellFormed :
    guardedTwice.Reachable ∧ guardedTwice.WellFormed ∧
      ∀ id, guardedTwice.fields.countP (·.id == id) ≤ 1 :=
  have h : guardedTwice.Reachable := .insertField _ (.insertField _ (.withPrechecked _))
  ⟨h,reachable_wellFormed h⟩

end DicePools

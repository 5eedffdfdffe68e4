import DicePools.Session
import DicePools.Proofs.Builders
import DicePools.Proofs.Spend

/-! A gift that exhausts when used is rolled once. Main statement: `gift_rolled_at_most_once`. -/

namespace DicePools

open Construction

/-! ## Gift field ids -/

def giftFieldId (x : ItemId) : String := "gift-" ++ x.text

theorem giftFieldId_injective : Function.Injective giftFieldId := by
  intro x y h
  cases x
  cases y
  simpa [giftFieldId] using h

theorem take_two_giftFieldId (x : ItemId) : (giftFieldId x).toList.take 2 = ['g','i'] := by
  simp [giftFieldId,String.toList_append]

theorem ne_giftFieldId {s : String} (h : s.toList.take 2 ≠ ['g','i']) (x : ItemId) :
    s ≠ giftFieldId x := by
  rintro rfl
  exact h (take_two_giftFieldId x)

theorem take_two_append {s : String} (t : String) (h : 2 ≤ s.toList.length) :
    (s ++ t).toList.take 2 = s.toList.take 2 := by
  rw [String.toList_append,List.take_append_of_le_length h]

theorem hexText_ne_giftFieldId {s : String} (h : HexText s) (x : ItemId) : s ≠ giftFieldId x := by
  rintro rfl
  exact not_hexText 'g' (by simp [giftFieldId,String.toList_append]) (by decide) (by decide) h

theorem armorList_id_ne_giftFieldId {a : Actor} {checked : Bool} {f : PoolField}
    (hf : f ∈ armorList a checked) (x : ItemId) : f.id ≠ giftFieldId x := by
  obtain ⟨i,hi⟩ := armorList_id hf
  rw [hi]
  exact ne_giftFieldId (by rw [take_two_append _ (by decide)]; decide) x

theorem shieldList_id_ne_giftFieldId {a : Actor} {f : PoolField} (hf : f ∈ shieldList a)
    (x : ItemId) : f.id ≠ giftFieldId x := by
  rw [shieldList_id hf]
  exact ne_giftFieldId (by decide) x

theorem statusList_id_ne_giftFieldId {b : RuleBook} {kind : StatusKind} {ctx : Context}
    {force : Bool} {f : PoolField} (hf : f ∈ statusList b kind ctx force) (x : ItemId) :
    f.id ≠ giftFieldId x := by
  rw [statusList_id hf]
  exact ne_giftFieldId (by cases kind <;> decide) x

theorem sourceFields_id_ne_giftFieldId {b : RuleBook} {ctx : Context} {s : BonusSource}
    {f : PoolField} (hf : f ∈ sourceFields b ctx s) (x : ItemId) : f.id ≠ giftFieldId x := by
  cases s with
  | armor => exact armorList_id_ne_giftFieldId hf x
  | shield => exact shieldList_id_ne_giftFieldId hf x
  | guard | guardAlways | aim | aimAlways => exact statusList_id_ne_giftFieldId hf x

theorem mem_aggregatePlan {b : RuleBook} {m : Mode} {ctx : Context} {f : PoolField}
    (hf : f ∈ b.aggregatePlan m ctx) :
    (∃ s, f ∈ sourceFields b ctx s) ∨ f ∈ b.bonusFields m ctx := by
  obtain ⟨r,hr,hf⟩ := List.mem_flatMap.mp hf
  unfold RuleBook.rulePlan at hf
  split at hf
  · cases hf
  · rcases List.mem_append.mp hf with hf | hf
    · obtain ⟨s,-,hs⟩ := List.mem_flatMap.mp hf
      exact .inl ⟨s,hs⟩
    · have hb : b.bonusField ctx r = some f := by simpa using hf
      exact .inr (RuleBook.mem_bonusFields.mpr ⟨r,(List.mem_filter.mp hr).1,
        (List.mem_filter.mp hr).2,hb⟩)

/-! ## Serving a request -/

/-- Toggling fields changes checkboxes only. -/
theorem grows_foldl_setChecked {P : PoolField → Prop} (ts : List (String × Bool))
    (acc : Construction × List Bool) :
    Grows P acc.1 (ts.foldl (fun x t => ((x.1.setChecked t.1 t.2).1,
      x.2 ++ [(x.1.setChecked t.1 t.2).2])) acc).1 := by
  induction ts generalizing acc with
  | nil => exact Grows.refl P _
  | cons t ts ih =>
    rw [List.foldl_cons]
    exact (Grows.single (.setChecked _ t.1 t.2)).trans (ih (_,_))

/-- A served request rolls the construction its roll prepares, toggled, and finishes it. -/
theorem serve_ok {b : RuleBook} {cfg : Config} {base : Conditions} {r : PoolRequest}
    {out : PoolOutcome} (h : (b.serve cfg base r).value = .ok out) :
    ∃ ctx, (∀ P, Grows P (b.prepareAction r.action ctx).value out.construction) ∧
      out.finished = out.construction.finish out.stats out.extra ⟨out.limit,r.weak⟩ := by
  unfold RuleBook.serve at h
  dsimp only at h
  split at h
  · cases h
  · simp only [Logged.value_bind] at h
    split at h
    · cases h
    · simp only [Logged.value_bind] at h
      split at h <;> simp only [Logged.value_bind,Logged.value_pure,Except.ok.injEq] at h <;>
        subst h <;> refine ⟨_,fun P => grows_foldl_setChecked r.toggles (_,[]),?_⟩ <;> dsimp only

/-! ## Where a gift field comes from -/

/-- What a field under the id of a gift's roll says of the actor: it comes from the item with that
id, a refreshed gift, and exhausts it exactly when the gift exhausts when used. -/
def GiftFieldOf (a : Actor) (x : ItemId) (f : PoolField) : Prop :=
  f.id = giftFieldId x → f.source = some x ∧
    ∃ g, a.giftOf x = some g ∧ g.isRefreshed = true ∧ f.exhaustsOnUse = g.exhaustWhenUsed

section Sheet

variable {a : Actor}

theorem presetFields_giftFieldOf (x : ItemId) : (RuleBook.build a).value.PresetFields
    (GiftFieldOf a x) where
  armor _ f hf he := absurd he (armorList_id_ne_giftFieldId hf x)
  shield f hf he := absurd he (shieldList_id_ne_giftFieldId hf x)
  status _ _ _ f hf he := absurd he (statusList_id_ne_giftFieldId hf x)
  weapon i _ he := absurd he
    (ne_giftFieldId (s := "weapon-" ++ i.id.text) (by rw [take_two_append _ (by decide)]; decide) x)
  bonus m ctx f hf he := by
    rcases mem_aggregatePlan hf with ⟨s,hs⟩ | hb
    · exact absurd he (sourceFields_id_ne_giftFieldId hs x)
    · exact absurd he (hexText_ne_giftFieldId (hexText_of_mem_bonusFields hb) x)

variable (hids : (a.items.map (·.id)).Nodup)
include hids

/-- Every construction a roll prepares holds under a gift field id only the field of that gift. -/
theorem grows_giftFieldOf (action : Action) (ctx : Context) (x : ItemId) :
    Grows (GiftFieldOf a x) .empty ((RuleBook.build a).value.prepareAction action ctx).value := by
  by_cases hg : ∃ names, action = .gifts names
  · obtain ⟨names,rfl⟩ := hg
    refine grows_prepareAction_gifts (fun name i g hi hk hr he => ?_) names ctx
    -- the gift named has the id of the field, so it is the item found under that id
    have hid : i.id = x := giftFieldId_injective he
    have hmem : i ∈ a.items := List.mem_of_find?_eq_some hi
    exact ⟨congrArg some hid,g,hid ▸ Actor.giftOf_of_mem hids hmem hk,hr,rfl⟩
  · exact (presetFields_giftFieldOf x).grows_prepareAction
      (fun names h => hg ⟨names,h⟩) ctx

theorem giftFieldOf_served {cfg : Config} {base : Conditions} {r : PoolRequest}
    {out : PoolOutcome} (h : ((RuleBook.build a).value.serve cfg base r).value = .ok out)
    (x : ItemId) : ∀ f ∈ out.construction.fields, GiftFieldOf a x f := by
  obtain ⟨ctx,hg,-⟩ := serve_ok h
  exact ((grows_giftFieldOf hids r.action ctx x).trans (hg _)).fields_sat
    (fun _ _ h => h) (fun _ hf => absurd hf List.not_mem_nil)

end Sheet

/-! ## Runs of rolls -/

/-- A roll call on a session: the request, the gifts it exhausts besides, the roller and the
mode. -/
structure RollCall where
  request : PoolRequest
  extra : List ExhaustRecord
  roller : DiceRoller
  mode : RollMode

namespace Session

/-- The answer to a roll call. -/
def call (s : Session) (k : RollCall) : Except PoolError (FinishedPool × RollReport × Session) :=
  (s.roll k.request k.extra k.roller k.mode).value

/-- The session a roll call leaves: the one the roll commits, or the same one when it fails. -/
def afterRoll (s : Session) (k : RollCall) : Session :=
  match s.call k with
  | .ok (_,_,s') => s'
  | .error _ => s

def runRolls (s : Session) (ks : List RollCall) : Session := ks.foldl afterRoll s

/-- Whether a roll call succeeds with a checked field of an id in the construction it rolls. -/
def rollsField (s : Session) (k : RollCall) (id : String) : Bool :=
  match (s.pool k.request).value, s.call k with
  | .ok out, .ok _ => out.construction.checkedFields.any (·.id == id)
  | _, _ => false

/-- How many calls of a run succeed with a checked field of an id. -/
def fieldRolls (id : String) : Session → List RollCall → Nat
  | _, [] => 0
  | s, k :: ks => (if s.rollsField k id then 1 else 0) + fieldRolls id (s.afterRoll k) ks

theorem pool_value (s : Session) (r : PoolRequest) :
    (s.pool r).value = ((RuleBook.build s.actor).value.serve s.config s.conditions r).value := rfl

/-- A roll call that succeeds finishes the served pool, adds the extra records, and commits the
roll with the session's actor. -/
theorem call_ok {s : Session} {k : RollCall} {p : FinishedPool} {report : RollReport}
    {s' : Session} (h : s.call k = .ok (p,report,s')) :
    ∃ out, (s.pool k.request).value = .ok out ∧
      p = { out.finished with exhaust := out.finished.exhaust ++ k.extra } ∧
      (s.actor.performRoll k.roller p k.mode).value = .ok (report,s'.actor) := by
  unfold call roll at h
  simp only [Logged.value_bind] at h
  split at h
  · cases h
  · rename_i out hout
    simp only [Logged.value_bind] at h
    split at h
    · cases h
    · rename_i report' a hroll
      simp only [Logged.value_pure,Except.ok.injEq,Prod.mk.injEq] at h
      obtain ⟨rfl,rfl,rfl⟩ := h
      exact ⟨out,hout,rfl,hroll⟩

theorem spends_afterRoll (s : Session) (k : RollCall) : s.actor.Spends (s.afterRoll k).actor := by
  unfold afterRoll
  split
  · rename_i h
    obtain ⟨out,-,-,hroll⟩ := call_ok h
    rw [Actor.performRoll_actor hroll]
    exact Actor.spends_foldl_exhaustGift _ _
  · exact Actor.Spends.refl _

theorem spends_runRolls (s : Session) (ks : List RollCall) :
    s.actor.Spends (s.runRolls ks).actor := by
  induction ks generalizing s with
  | nil => exact Actor.Spends.refl _
  | cons k ks ih => exact (spends_afterRoll s k).trans (ih _)

end Session

/-! ## A gift rolled once -/

/-- What a run keeps of a sheet and one of its gifts: distinct item ids, and under the gift's id
a gift that exhausts when used. -/
structure Actor.Tracks (a : Actor) (x : ItemId) : Prop where
  ids_nodup : (a.items.map (·.id)).Nodup
  gift : ∃ g, a.giftOf x = some g ∧ g.exhaustWhenUsed = true

namespace Actor.Tracks

variable {a : Actor} {x : ItemId}

theorem spends (h : a.Tracks x) {a' : Actor} (hs : a.Spends a') : a'.Tracks x where
  ids_nodup := by
    rw [hs.ids]
    exact h.ids_nodup
  gift := by
    obtain ⟨g,hg,hw⟩ := h.gift
    exact (hs.gifts x).exhaustWhenUsed hg hw

theorem exhaustWhenUsed (h : a.Tracks x) {g : Gift} (hg : a.giftOf x = some g) :
    g.exhaustWhenUsed = true := by
  obtain ⟨g',hg',hw⟩ := h.gift
  rwa [Option.some.inj (hg.symm.trans hg')]

theorem not_refreshed (h : a.Tracks x) (hs : Spent (a.giftOf x)) {g : Gift}
    (hg : a.giftOf x = some g) : g.isRefreshed = false := by
  have hw := h.exhaustWhenUsed hg
  simp [Gift.isRefreshed,hw,hs g hg hw]

/-- A field under the gift's id in a served construction exhausts the gift and needs it
refreshed. -/
theorem served_field {s : Session} (h : s.actor.Tracks x) {r : PoolRequest} {out : PoolOutcome}
    (hout : (s.pool r).value = .ok out) {f : PoolField} (hf : f ∈ out.construction.fields)
    (hid : f.id = giftFieldId x) :
    f.source = some x ∧ f.exhaustsOnUse = true ∧ ∃ g, s.actor.giftOf x = some g ∧
      g.isRefreshed = true := by
  rw [Session.pool_value] at hout
  obtain ⟨hsrc,g,hg,hr,he⟩ := giftFieldOf_served h.ids_nodup hout x f hf hid
  exact ⟨hsrc,he.trans (h.exhaustWhenUsed hg),g,hg,hr⟩

/-- Once the gift is spent, no construction a roll prepares holds its field. -/
theorem prepareAction_omits (h : a.Tracks x) (hs : Spent (a.giftOf x)) (action : Action)
    (ctx : Context) : ∀ f ∈ ((RuleBook.build a).value.prepareAction action ctx).value.fields,
      f.id ≠ giftFieldId x := by
  intro f hf hid
  obtain ⟨-,g,hg,hr,-⟩ := (grows_giftFieldOf h.ids_nodup action ctx x).fields_sat
    (fun _ _ h => h) (fun _ hf => absurd hf List.not_mem_nil) f hf hid
  rw [h.not_refreshed hs hg] at hr
  cases hr

end Actor.Tracks

namespace Session

variable {x : ItemId}

theorem spent_afterRoll {s : Session} (h : s.actor.Tracks x) {k : RollCall}
    (hk : s.rollsField k (giftFieldId x) = true) : Spent ((s.afterRoll k).actor.giftOf x) := by
  unfold rollsField at hk
  split at hk
  · rename_i out res hout hcall
    obtain ⟨p,report,s'⟩ := res
    obtain ⟨f,hf,hid⟩ := List.any_eq_true.mp hk
    obtain ⟨hsrc,he,-⟩ := h.served_field hout (List.mem_filter.mp hf).1 (beq_iff_eq.mp hid)
    obtain ⟨r,hr,hrx⟩ := exists_record_finish hf he hsrc out.stats out.extra
      ⟨out.limit,k.request.weak⟩
    obtain ⟨out',hout',rfl,hroll⟩ := call_ok hcall
    obtain rfl : out' = out := Except.ok.inj (hout'.symm.trans hout)
    rw [Session.pool_value] at hout
    obtain ⟨-,-,hfin⟩ := serve_ok hout
    rw [← hfin] at hr
    unfold afterRoll
    rw [hcall]
    dsimp only
    rw [Actor.performRoll_actor hroll]
    exact Actor.spent_foldl_exhaustGift ⟨r,List.mem_append_left _ hr,hrx⟩ _
  · cases hk

theorem rollsField_eq_false {s : Session} (h : s.actor.Tracks x) (hs : Spent (s.actor.giftOf x))
    (k : RollCall) : s.rollsField k (giftFieldId x) = false := by
  unfold rollsField
  split
  · rename_i out _ hout _
    refine List.any_eq_false.mpr fun f hf hid => ?_
    obtain ⟨-,-,g,hg,hr⟩ := h.served_field hout (List.mem_filter.mp hf).1 (beq_iff_eq.mp hid)
    rw [h.not_refreshed hs hg] at hr
    cases hr
  · rfl

theorem fieldRolls_eq_zero {s : Session} (h : s.actor.Tracks x) (hs : Spent (s.actor.giftOf x))
    (ks : List RollCall) : fieldRolls (giftFieldId x) s ks = 0 := by
  induction ks generalizing s with
  | nil => rfl
  | cons k ks ih =>
    have hsp := spends_afterRoll s k
    rw [fieldRolls,rollsField_eq_false h hs k,ih (h.spends hsp) (hsp.spent hs)]
    rfl

/-- Over any run, the gift's field is rolled at most once: the first roll with it spends the
gift. -/
theorem fieldRolls_le_one {s : Session} (h : s.actor.Tracks x) (ks : List RollCall) :
    fieldRolls (giftFieldId x) s ks ≤ 1 := by
  induction ks generalizing s with
  | nil => exact Nat.zero_le 1
  | cons k ks ih =>
    have hsp := spends_afterRoll s k
    rw [fieldRolls]
    cases hk : s.rollsField k (giftFieldId x)
    · simpa using ih (h.spends hsp)
    · rw [fieldRolls_eq_zero (h.spends hsp) (spent_afterRoll h hk)]
      rfl

end Session

open Session in
/-- On a sheet whose items have distinct ids, a gift that exhausts when used is rolled by at most
one call of any run, and stays exhausted after it. -/
theorem gift_rolled_at_most_once (s : Session) (hids : (s.actor.items.map (·.id)).Nodup)
    {i : Item} (hi : i ∈ s.actor.items)
    {g : Gift} (hg : i.kind = .gift g) (hw : g.exhaustWhenUsed = true) :
    (∀ ks, fieldRolls (giftFieldId i.id) s ks ≤ 1) ∧
    ∀ pre k post, (s.runRolls pre).rollsField k (giftFieldId i.id) = true →
      (∃ g', (s.runRolls (pre ++ k :: post)).actor.giftOf i.id = some g' ∧ g'.exhausted = true) ∧
      ∀ action ctx, ∀ f ∈ ((RuleBook.build (s.runRolls (pre ++ k :: post)).actor).value
        |>.prepareAction action ctx).value.fields, f.id ≠ giftFieldId i.id := by
  have htr : s.actor.Tracks i.id := ⟨hids,g,Actor.giftOf_of_mem hids hi hg,hw⟩
  refine ⟨fieldRolls_le_one htr,fun pre k post hk => ?_⟩
  have hpre := htr.spends (spends_runRolls s pre)
  have hrun : s.runRolls (pre ++ k :: post) = ((s.runRolls pre).afterRoll k).runRolls post := by
    simp only [runRolls,List.foldl_append,List.foldl_cons]
  have hpost := spends_runRolls ((s.runRolls pre).afterRoll k) post
  have hspent := hpost.spent (spent_afterRoll hpre hk)
  have htr' := (hpre.spends (spends_afterRoll _ k)).spends hpost
  rw [hrun]
  refine ⟨?_,htr'.prepareAction_omits hspent⟩
  obtain ⟨g',hg',hw'⟩ := htr'.gift
  exact ⟨g',hg',hspent g' hg' hw'⟩

def windId : ItemId := .ofSerial 10

/-- A gift of a d8 that exhausts when used. -/
def secondWind : Item :=
  ⟨windId,"Second Wind",0,1,.gift ⟨.empty,⟨[],⟨0,0,1,0,0⟩⟩,true,false,none,[]⟩⟩

def bodyTrait : Trait := ⟨"body",none,⟨0,0,0,1,0⟩,.empty⟩

def windSheet : Actor := ⟨"",[bodyTrait],[],[secondWind],default,[]⟩

/-- Rolling `Second Wind` with the roller that shows every die's largest face. -/
def windCall : RollCall :=
  ⟨{ action := .gifts ["Second Wind"] },[],DiceRoller.largestFaces false,.highest⟩

def windSession : Session := Session.start windSheet .default

open Session in
theorem windSheet_gift_rolled_at_most_once :
    (windSession.actor.items.map (·.id)).Nodup ∧
    secondWind ∈ windSession.actor.items ∧
    (∃ g, secondWind.kind = .gift g ∧ g.exhaustWhenUsed = true) ∧
    (∀ ks, fieldRolls (giftFieldId windId) windSession ks ≤ 1) ∧
    ∀ pre k post, (windSession.runRolls pre).rollsField k (giftFieldId windId) = true →
      (∃ g', (windSession.runRolls (pre ++ k :: post)).actor.giftOf windId = some g' ∧
        g'.exhausted = true) ∧
      ∀ action ctx, ∀ f ∈ ((RuleBook.build (windSession.runRolls (pre ++ k :: post)).actor).value
        |>.prepareAction action ctx).value.fields, f.id ≠ giftFieldId windId :=
  ⟨by decide,List.mem_singleton_self _,⟨_,rfl,rfl⟩,
    gift_rolled_at_most_once windSession (by decide)
      (List.mem_singleton_self secondWind) rfl rfl⟩

/-- A rope under the id of `Second Wind`, before it. -/
def ropeSheet : Actor :=
  ⟨"",[bodyTrait],[],[⟨windId,"Rope",0,1,.gear default⟩,secondWind],default,[]⟩

/-- With a rope under its id, committing a roll of `Second Wind` finds the rope, which is no gift,
so the gift stays refreshed and two rolls both roll it. -/
theorem ropeSheet_gift_rolled_twice :
    Session.fieldRolls (giftFieldId windId) (Session.start ropeSheet .default)
      [windCall,windCall] = 2 := by
  decide +kernel

end DicePools

import DicePools.Rules.Book
import DicePools.Rules.Context

/-! When a rule applies: every field it sets finds support in the subject. -/

namespace DicePools

def KeyList.supports (l : KeyList) (subject : List String) : Bool := l.isEmpty || l.intersects subject

namespace Rule

/-- Whether the gift's exhaust state lets the rule work. -/
def works (r : Rule) : Bool :=
  match r.setting.filter.worksWhen with
  | .anyState => true
  | .refreshed => r.gift.isRefreshed
  | .exhausted => !r.gift.isRefreshed

/-- Whether the acting item meets the item fields that are checked: name, tag, descriptor,
effect, slot, band, then kind. -/
def fitsItem (r : Rule) (checked : MatchField → Bool) (i : Item) : Bool :=
  let f := r.setting.filter
  let (equip, range) : List String × List String := match i.weapon? with
    | some w => ((w.equip.bind Equip.key).toList, (w.range.bind RangeBand.key).toList)
    | none => ([], [])
  [(f.name, MatchField.itemName, [i.key]), (f.tag, .tag, i.tags), (f.descriptor, .descriptor, i.descriptors),
    (f.effect, .effect, i.effects), (f.equip, .equip, equip), (f.range, .range, range),
    (f.itemType, .itemType, [i.kindKey])].all fun (l, field, subject) =>
      !checked field || l.supports subject

/-- Whether the rolled stats meet the stat field: the context's stats, else the item's; a roll
with neither matches anything. -/
def fitsStats (r : Rule) (ctx : Context) : Bool :=
  let l := r.setting.filter.stat
  let stats := if ctx.stats.isEmpty then (ctx.item.map Item.rollStats).getD [] else ctx.stats
  l.isEmpty || (ctx.item.isNone && ctx.stats.isEmpty) || l.intersects stats

/-- Whether the defense rolled is admitted. -/
def fitsDefense (r : Rule) (d : Option Defense) : Bool :=
  let f := r.setting.filter
  match d with
  | some .dodge => f.appliesToDodges
  | some .parry => f.appliesToParries
  | some .special => f.appliesToSpecialDefenses
  | none => true

end Rule

/-- Whether a rule of a book applies in a context. -/
def RuleBook.applies (b : RuleBook) (r : Rule) (ctx : Context) : Bool :=
  let f := r.setting.filter
  let deferred := FieldSet.ofKeys f.autocheckOnly.keys
  let checked := fun (field : MatchField) => ctx.autocheck || !deferred.mem field
  !b.isMalformed r.key && r.works &&
  (ctx.item.all (r.fitsItem checked ·)) &&
  (!checked .stat || r.fitsStats ctx) &&
  (!checked .condition || f.condition.isEmpty || ctx.conditions.hasAny f.condition.keys) &&
  (!checked .otherItem || f.otherItem.isEmpty ||
    ctx.other.any fun o => f.otherItem.intersects o.descriptors.keys) &&
  (!checked .secondReadied || !f.needsSecondReadied ||
    b.actor.otherReadiedWeapons (ctx.item.map (·.id)) != 0) &&
  (!checked .defense || r.fitsDefense ctx.defense) &&
  (!checked .oneInRoll || !f.requiresOneInRoll || ctx.oneInRoll)

theorem RuleBook.applies_malformed (b : RuleBook) (r : Rule) (ctx : Context)
    (h : b.isMalformed r.key = true) : b.applies r ctx = false := by
  simp [RuleBook.applies, h]

end DicePools

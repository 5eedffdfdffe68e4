import DicePools.Text.Split
import DicePools.Item.Id
import DicePools.Item.Slot
import DicePools.Text.Blank
import DicePools.Text.Case
import DicePools.Text.Numeral
import DicePools.Dice.Die
import DicePools.Dice.Basic
import DicePools.Log
import DicePools.Dice.Text
import DicePools.Name
import DicePools.Item.StatRoll
import DicePools.Decimal.Shortest
import DicePools.Decimal.Layout
import DicePools.Json.Basic
import DicePools.Json.Decode
import DicePools.KeyList
import DicePools.Setting.Basic
import DicePools.Item.Basic
import DicePools.Conditions
import DicePools.Fault
import DicePools.Actor.Basic
import DicePools.Decimal.Read
import DicePools.Setting.Read
import DicePools.Actor.Read
import DicePools.Command.Args
import DicePools.Text.Table
import DicePools.Json.Parse
import DicePools.Json.Locate
import DicePools.Setting.Schema
import DicePools.Rules.Book
import DicePools.Rules.Validate
import DicePools.Pool.Construction
import DicePools.Config
import DicePools.Pool.Build
import DicePools.Rules.Context
import DicePools.Rules.Applies
import DicePools.Rules.Chain
import DicePools.Rules.Aggregate
import DicePools.Rules.Transform
import DicePools.Rules.Actions
import DicePools.Pool.Request
import DicePools.Pool.Roll
import DicePools.Rules.Totals
import DicePools.Decimal.Integral
import DicePools.Derived.Coinage
import DicePools.Derived.Encumbrance
import DicePools.Derived.Movement
import DicePools.Derived.Stats
import DicePools.Session
import DicePools.Command.Run
import DicePools.Main
import DicePools.Proofs.Book
import DicePools.Proofs.Chain
import DicePools.Proofs.Fields
import DicePools.Proofs.Aggregate
import DicePools.Proofs.Malformed
import DicePools.Proofs.Keys
import DicePools.Proofs.ExtraDice
import DicePools.Proofs.Builders
import DicePools.Proofs.Spend
import DicePools.Proofs.Exhaust
import DicePools.Proofs.Overflow
import DicePools.Proofs.ChainEnd
import DicePools.Proofs.Applicability
import DicePools.Proofs.StatusBonus
import DicePools.Proofs.NameKey
import DicePools.Proofs.ConditionStore
import DicePools.Proofs.Encumbrance
import DicePools.Proofs.Selection
import DicePools.Proofs.Finish
import DicePools.Proofs.RollCommit
import DicePools.Proofs.Die
import DicePools.Proofs.BucketMoves
import DicePools.Proofs.DiceOrder
import DicePools.Proofs.DiceText
import DicePools.Proofs.StatRollText
import DicePools.Proofs.SkillDice
import DicePools.Proofs.BurdenedSpeed
import DicePools.Proofs.CanonicalJson
import DicePools.Proofs.SettingRead
import DicePools.Proofs.SettingJson

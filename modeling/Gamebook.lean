import Gamebook.Band.Allocation
import Gamebook.Band.DieSet
import Gamebook.Band.Range
import Gamebook.Band.Sets
import Gamebook.Chance
import Gamebook.Check.Classification
import Gamebook.Check.Resolution
import Gamebook.Decimal.Notation
import Gamebook.Decimal.Numeral
import Gamebook.Decimal.Shortest
import Gamebook.Demo
import Gamebook.Dice.Notation
import Gamebook.Dice.Roll
import Gamebook.Fault
import Gamebook.Formula.Builtin
import Gamebook.Formula.Cache
import Gamebook.Formula.Error
import Gamebook.Formula.Eval
import Gamebook.Formula.Expr
import Gamebook.Formula.Lexer
import Gamebook.Formula.Operator
import Gamebook.Formula.Parser
import Gamebook.Formula.Token
import Gamebook.Inventory
import Gamebook.Journal
import Gamebook.Json.Reader
import Gamebook.Json.Writer
import Gamebook.Main
import Gamebook.Number.Basic
import Gamebook.Number.Binary64
import Gamebook.Number.Power
import Gamebook.Play.Action
import Gamebook.Play.Buff
import Gamebook.Play.Effect
import Gamebook.Play.Formula
import Gamebook.Play.Setup
import Gamebook.Play.Snapshot
import Gamebook.Play.Story
import Gamebook.Proofs.Adjustment
import Gamebook.Proofs.Band.Allocation
import Gamebook.Proofs.Band.Range
import Gamebook.Proofs.Band.Sets
import Gamebook.Proofs.Band.Shares
import Gamebook.Proofs.Band.Written
import Gamebook.Proofs.Check.Classification
import Gamebook.Proofs.Check.Die
import Gamebook.Proofs.Decimal.Numeral
import Gamebook.Proofs.Dice.Notation
import Gamebook.Proofs.Dice.Roll
import Gamebook.Proofs.Dice.Totals
import Gamebook.Proofs.Dice.Written
import Gamebook.Proofs.Fields
import Gamebook.Proofs.Formula.Agreement
import Gamebook.Proofs.Formula.Cache
import Gamebook.Proofs.Formula.Chanceless
import Gamebook.Proofs.Formula.Faults
import Gamebook.Proofs.Formula.Grammar
import Gamebook.Proofs.Formula.Integers
import Gamebook.Proofs.Formula.Parsing
import Gamebook.Proofs.Formula.Quotation
import Gamebook.Proofs.Formula.Reader
import Gamebook.Proofs.Formula.Rolling
import Gamebook.Proofs.Formula.Splitting
import Gamebook.Proofs.Formula.Written
import Gamebook.Proofs.Inventory
import Gamebook.Proofs.Inventory.Ledger
import Gamebook.Proofs.Journal
import Gamebook.Proofs.Journal.Window
import Gamebook.Proofs.Json.Leaves
import Gamebook.Proofs.Json.RoundTrip
import Gamebook.Proofs.Number.Finite
import Gamebook.Proofs.Number.Half
import Gamebook.Proofs.Number.Integers
import Gamebook.Proofs.Number.Largest
import Gamebook.Proofs.Number.Nearest
import Gamebook.Proofs.Number.Order
import Gamebook.Proofs.Number.Range
import Gamebook.Proofs.Number.Sum
import Gamebook.Proofs.Outcome
import Gamebook.Proofs.Play.ActionChanges
import Gamebook.Proofs.Play.Batch
import Gamebook.Proofs.Play.BuffOrder
import Gamebook.Proofs.Play.Capacity
import Gamebook.Proofs.Play.Change
import Gamebook.Proofs.Play.ChangeReturns
import Gamebook.Proofs.Play.Choosing
import Gamebook.Proofs.Play.Concur
import Gamebook.Proofs.Play.Course
import Gamebook.Proofs.Play.Days
import Gamebook.Proofs.Play.Depth
import Gamebook.Proofs.Play.EffectChanges
import Gamebook.Proofs.Play.EffectReturns
import Gamebook.Proofs.Play.Ending
import Gamebook.Proofs.Play.Frame
import Gamebook.Proofs.Play.Game
import Gamebook.Proofs.Play.Idle
import Gamebook.Proofs.Play.Looking
import Gamebook.Proofs.Play.Opening
import Gamebook.Proofs.Play.Order
import Gamebook.Proofs.Play.Parts
import Gamebook.Proofs.Play.Periodic
import Gamebook.Proofs.Play.Persistence
import Gamebook.Proofs.Play.Rendering
import Gamebook.Proofs.Play.Restoring
import Gamebook.Proofs.Play.Resume
import Gamebook.Proofs.Play.Returns
import Gamebook.Proofs.Play.Robustness
import Gamebook.Proofs.Play.Run
import Gamebook.Proofs.Play.SameTime
import Gamebook.Proofs.Play.Saving
import Gamebook.Proofs.Play.Scope
import Gamebook.Proofs.Play.Shallow
import Gamebook.Proofs.Play.Shape
import Gamebook.Proofs.Play.ShapedGame
import Gamebook.Proofs.Play.Steady
import Gamebook.Proofs.Play.Sync
import Gamebook.Proofs.Play.SyncFormulas
import Gamebook.Proofs.Play.SyncTogether
import Gamebook.Proofs.Play.Together
import Gamebook.Proofs.Play.Twins
import Gamebook.Proofs.Play.View
import Gamebook.Proofs.Session.Choice
import Gamebook.Proofs.Session.Console
import Gamebook.Proofs.Session.Reach
import Gamebook.Proofs.Session.Refusal
import Gamebook.Proofs.Session.Run
import Gamebook.Proofs.Session.SaveFile
import Gamebook.Proofs.Session.Typing
import Gamebook.Proofs.Stat
import Gamebook.Proofs.State
import Gamebook.Proofs.Text
import Gamebook.Proofs.Value.Detached
import Gamebook.Proofs.Value.Records
import Gamebook.Session.Command
import Gamebook.Session.Console
import Gamebook.Session.Dashboard
import Gamebook.Session.Library
import Gamebook.Session.SaveSlot
import Gamebook.Session.Screen
import Gamebook.Stat
import Gamebook.State
import Gamebook.Text.Blank
import Gamebook.Text.Digit
import Gamebook.Text.DigitLimit
import Gamebook.Text.Lowercase
import Gamebook.Text.Printable
import Gamebook.Text.Quoted
import Gamebook.Value.Access
import Gamebook.Value.Basic
import Gamebook.Value.Key
import Gamebook.Value.Order
import Gamebook.Value.Quantity
import Gamebook.Value.Text
import Gamebook.World

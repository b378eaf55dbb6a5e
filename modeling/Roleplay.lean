import Roleplay.Dictionary
import Roleplay.Value
import Roleplay.Json.Record
import Roleplay.Json.Tree
import Roleplay.Json.Value
import Roleplay.Markup.Event
import Roleplay.Instruction.Cursor
import Roleplay.Speaker
import Roleplay.Storage
import Roleplay.Bridge.Basic
import Roleplay.Script.Basic
import Roleplay.Evaluation.Instruction
import Roleplay.Script.File
import Roleplay.Stats.Pool
import Roleplay.Stats.Party
import Roleplay.Stats.File
import Roleplay.Bridge.Actor
import Roleplay.Session.File
import Roleplay.Proofs.Evaluation.Interpretation
import Roleplay.Proofs.Evaluation.Refinement
import Roleplay.Proofs.Evaluation.Landing
import Roleplay.Proofs.Evaluation.Menu
import Roleplay.Proofs.Markup.Emission
import Roleplay.Proofs.Stats.Ensures
import Roleplay.Proofs.Stats.View
import Roleplay.Proofs.Stats.Walk
import Roleplay.Proofs.Stats.Currency
import Roleplay.Proofs.Stats.Settlement
import Roleplay.Proofs.Session.History
import Roleplay.Proofs.Session.Lifecycle
import Roleplay.Proofs.Session.Resumption
import Roleplay.Proofs.Session.Saving
import Roleplay.Proofs.Json.Scanning
import Roleplay.Proofs.Json.RoundTrip
import Roleplay.Proofs.Stats.Share
import Roleplay.Proofs.Stats.Hooks
import Roleplay.Proofs.Stats.Upkeep
import Roleplay.Proofs.Stats.Bundles
import Roleplay.Proofs.Stats.Moves
import Roleplay.Proofs.Stats.Register
import Roleplay.Proofs.Stats.Registry
import Roleplay.Proofs.Stats.Returning
import Roleplay.Proofs.Stats.Ticks
import Roleplay.Proofs.Stats.Notifying
import Roleplay.Proofs.Stats.Termination
import Roleplay.Proofs.Stats.Overdue
import Roleplay.Proofs.Script.Linkage
import Roleplay.Proofs.Session.Execution
import Roleplay.Proofs.Session.Journey
import Roleplay.Proofs.Markup.Document
import Roleplay.Proofs.Stats.Additions
import Roleplay.Proofs.Stats.Reporting
import Roleplay.Proofs.Bridge.Declarations
import Roleplay.Proofs.Session.Delivery
import Roleplay.Proofs.Bridge.Shadowing
import Roleplay.Proofs.Decimal.Order
import Roleplay.Proofs.Session.Pacing
import Roleplay.Proofs.Stats.Lockstep
import Roleplay.Proofs.Stats.Rearranging
import Roleplay.Proofs.Stats.Vitality
import Roleplay.Proofs.Stats.Protocol
import Roleplay.Proofs.Evaluation.Typing
import Roleplay.Proofs.Evaluation.Writing
import Roleplay.Proofs.Refusal
import Roleplay.Proofs.Stats.Carrying
import Roleplay.Proofs.Instruction.Grammar
import Roleplay.Proofs.Stats.Chains
import Roleplay.Proofs.Stats.Passing
import Roleplay.Proofs.Stats.Outcomes
import Roleplay.Proofs.Stats.Saving
import Roleplay.Proofs.Markup.StyleTags
import Roleplay.Proofs.Session.Visibility
import Roleplay.Proofs.Stats.Removal
import Roleplay.Proofs.Stats.Hits
import Roleplay.Proofs.Stats.Ledger

import Arcade.Act
import Arcade.Badge.Basic
import Arcade.Badge.Catalog
import Arcade.Calendar.Date
import Arcade.Calendar.Duration
import Arcade.Calendar.Instant
import Arcade.Calendar.Spoken
import Arcade.Calendar.Timestamp
import Arcade.Challenge.Basic
import Arcade.Challenge.Catalog
import Arcade.Challenge.Generation
import Arcade.Chat
import Arcade.Dashboard.Badges
import Arcade.Dashboard.Progress
import Arcade.Dict
import Arcade.Fault
import Arcade.Game.Registry
import Arcade.Host.Basic
import Arcade.Host.Room
import Arcade.Hub.Basic
import Arcade.Intent.Basic
import Arcade.Intent.Phrases
import Arcade.Intent.Resolve
import Arcade.Json.Basic
import Arcade.Json.Display
import Arcade.Json.Order
import Arcade.Json.Reader
import Arcade.Json.Writer
import Arcade.Ledger.Award
import Arcade.Ledger.Basic
import Arcade.Ledger.Event
import Arcade.Ledger.Export
import Arcade.Ledger.Opening
import Arcade.Ledger.Play
import Arcade.Listening.Basic
import Arcade.Listening.Control
import Arcade.Listening.Hearing
import Arcade.Listening.Mode
import Arcade.Listening.Recognition
import Arcade.Number.Basic
import Arcade.Number.Double
import Arcade.Number.Reading
import Arcade.Number.Shortest
import Arcade.Number.Total
import Arcade.Permission
import Arcade.Progress.Document
import Arcade.Progress.Record
import Arcade.Progress.Tally
import Arcade.Proofs.Ledger.Change
import Arcade.Proofs.Storage.Texts
import Arcade.Release
import Arcade.Reply.Basic
import Arcade.Reply.Command
import Arcade.Rule.Basic
import Arcade.Rule.Evaluation
import Arcade.Screen
import Arcade.Settings.Basic
import Arcade.Settings.EnvironmentFile
import Arcade.Settings.Loading
import Arcade.Settings.Standard
import Arcade.Sorting.Merge
import Arcade.Sorting.Row
import Arcade.Sorting.Schedule
import Arcade.Speech.WakePhrase
import Arcade.Storage.Backend
import Arcade.Storage.Basic
import Arcade.Storage.File
import Arcade.Text.Alphanumeric
import Arcade.Text.Blank
import Arcade.Text.CodePoint
import Arcade.Text.Digit
import Arcade.Text.Lowercase
import Arcade.Text.Path
import Arcade.Text.Printable
import Arcade.Text.Quoted
import Arcade.Text.Ranges
import Arcade.Text.Search
import Arcade.Text.Spelling
import Arcade.Text.Split
import Arcade.Text.Uppercase
import Arcade.Timer.Queue
import Arcade.Timer.Script
import Arcade.Timer.Slot
import Arcade.Proofs.Ledger.Loading
import Arcade.Proofs.Ledger.Operation
import Arcade.Proofs.Json.Numbers
import Arcade.Proofs.Json.Rereading
import Arcade.Proofs.Calendar.Timestamps
import Arcade.Proofs.Challenge.Generations
import Arcade.Proofs.Progress.Decoding
import Arcade.Proofs.Progress.Sound
import Arcade.Proofs.Ledger.Upkeep
import Arcade.Proofs.Json.Plain
import Arcade.Proofs.Ledger.Restart
import Arcade.Proofs.Ledger.Conservation
import Arcade.Proofs.Progress.Overflow
import Arcade.Proofs.Ledger.SoftLoading
import Arcade.Proofs.Rule.Growth
import Arcade.Proofs.Rule.Isolation
import Arcade.Proofs.Ledger.Awards
import Arcade.Proofs.Ledger.Settling
import Arcade.Proofs.Timer.Fitting
import Arcade.Proofs.Act.Keeping
import Arcade.Proofs.Listening.Stance
import Arcade.Proofs.Listening.Reaction
import Arcade.Proofs.Listening.Occasion
import Arcade.Proofs.Listening.Transition
import Arcade.Proofs.Listening.Airtime
import Arcade.Proofs.Listening.SingleRecognizer
import Arcade.Proofs.Listening.Superseded
import Arcade.Proofs.Listening.Vigilance
import Arcade.Proofs.Listening.Denial
import Arcade.Proofs.Timer.Tracking
import Arcade.Proofs.Timer.Sole
import Arcade.Proofs.Listening.Setbacks
import Arcade.Proofs.Listening.ErrorCap
import Arcade.Proofs.Listening.Promise
import Arcade.Proofs.Ledger.OldStreak
import Arcade.Proofs.Hub.Occurrence
import Arcade.Proofs.Hub.Silence
import Arcade.Proofs.Storage.Attempts
import Arcade.Proofs.Ledger.Strokes
import Arcade.Proofs.Ledger.Chronicle
import Arcade.Proofs.Ledger.Errand
import Arcade.Proofs.Ledger.WriteFailures
import Arcade.Proofs.Ledger.EventLog
import Arcade.Proofs.Text.Lowercase
import Arcade.Proofs.Hub.TypedAndSpoken
import Arcade.Proofs.Act.Yielding
import Arcade.Proofs.Host.Speaking
import Arcade.Proofs.Intent.Complete
import Arcade.Proofs.Reply.Answered
import Arcade.Proofs.Hub.Answering
import Arcade.Proofs.Challenge.Lasting
import Arcade.Proofs.Ledger.Completable
import Arcade.Proofs.Ledger.Mutation
import Arcade.Proofs.Ledger.Commuting
import Arcade.Proofs.Progress.WellTyped
import Arcade.Proofs.Ledger.WellTyped
import Arcade.Proofs.Timer.Cell
import Arcade.Proofs.Timer.Standing
import Arcade.Proofs.Timer.Refining
import Arcade.Proofs.Progress.Normalising
import Arcade.Proofs.Ledger.Importing
import Arcade.Proofs.Listening.Closing
import Arcade.Proofs.Ledger.Twins
import Arcade.Proofs.Hub.Noninterference
import Arcade.Proofs.Number.Rounding
import Arcade.Proofs.Number.Shortest
import Arcade.Proofs.Number.Bits
import Arcade.Proofs.Json.Doubles
import Arcade.Proofs.Json.Halves
import Arcade.Proofs.Json.Legible
import Arcade.Proofs.Json.Showing
import Arcade.Proofs.Progress.Legible
import Arcade.Proofs.Listening.Bulletins
import Arcade.Proofs.Listening.Resumption
import Arcade.Proofs.Reply.Delaying
import Arcade.Proofs.Reply.Delayed
import Arcade.Proofs.Json.Distinct
import Arcade.Proofs.Progress.Reading
import Arcade.Proofs.Ledger.Merging
import Arcade.Proofs.Ledger.RepeatedBadges
import Arcade.Proofs.Ledger.CheckingAgain
import Arcade.Proofs.Ledger.NewPlayers
import Arcade.Proofs.Ledger.FailedReading
import Arcade.Proofs.Calendar.Days
import Arcade.Proofs.Challenge.Lifetime
import Arcade.Proofs.Rule.Recorded
import Arcade.Proofs.Ledger.Streaks
import Arcade.Proofs.Number.Unsigned
import Arcade.Proofs.Rule.Unrecorded
import Arcade.Proofs.Speech.Phrase
import Arcade.Proofs.Text.Order
import Arcade.Proofs.Sorting.Stable
import Arcade.Proofs.Dashboard.Orders
import Arcade.Proofs.Dashboard.Groups
import Arcade.Proofs.Text.Surroundings
import Arcade.Proofs.Speech.Woken
import Arcade.Proofs.Intent.Transparent
import Arcade.Proofs.Number.Ranks
import Arcade.Proofs.Number.Finite
import Arcade.Proofs.Dashboard.Performance
import Arcade.Proofs.Dashboard.Returning
import Arcade.Proofs.Settings.Merging
import Arcade.Proofs.Settings.Variables
import Arcade.Proofs.Settings.Precedence
import Arcade.Proofs.Calendar.TextOrder
import Arcade.Proofs.Ledger.DatedDays
import Arcade.Proofs.Dashboard.RecentDays
import Arcade.Proofs.Ledger.Subscriptions

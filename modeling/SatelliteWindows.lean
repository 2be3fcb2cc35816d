import SatelliteWindows.Activity
import SatelliteWindows.Backlog
import SatelliteWindows.CallTable
import SatelliteWindows.CommandLine.Arguments
import SatelliteWindows.CommandLine.Help
import SatelliteWindows.CommandLine.Log
import SatelliteWindows.CommandLine.Program
import SatelliteWindows.Coordinator
import SatelliteWindows.Coordinator.Cascade
import SatelliteWindows.Datum
import SatelliteWindows.Desktop
import SatelliteWindows.Directory
import SatelliteWindows.Effect
import SatelliteWindows.Fault
import SatelliteWindows.Feed
import SatelliteWindows.Fleet
import SatelliteWindows.Geometry
import SatelliteWindows.Mailbox
import SatelliteWindows.Main
import SatelliteWindows.Message
import SatelliteWindows.NameMap
import SatelliteWindows.Office
import SatelliteWindows.OutputFormat
import SatelliteWindows.Payload
import SatelliteWindows.Payload.Indented
import SatelliteWindows.Platform
import SatelliteWindows.Proofs.Handshake
import SatelliteWindows.Proofs.Roster
import SatelliteWindows.Proofs.History
import SatelliteWindows.Proofs.Traffic
import SatelliteWindows.Proofs.Writing
import SatelliteWindows.Proofs.Mailbox
import SatelliteWindows.Roster
import SatelliteWindows.Scenario
import SatelliteWindows.Scenario.Deed
import SatelliteWindows.Scenario.Party
import SatelliteWindows.Scenario.Report
import SatelliteWindows.Scenario.Run
import SatelliteWindows.Scenario.Script
import SatelliteWindows.Scenario.Stage
import SatelliteWindows.Scenario.Summary
import SatelliteWindows.Scenario.Text
import SatelliteWindows.Scenario.Validation
import SatelliteWindows.Scene
import SatelliteWindows.Scene.Broadcast
import SatelliteWindows.Scene.Closing
import SatelliteWindows.Scene.Opening
import SatelliteWindows.Scene.Registration
import SatelliteWindows.Scene.Request
import SatelliteWindows.Settings
import SatelliteWindows.Settings.Lookup
import SatelliteWindows.Settings.Text
import SatelliteWindows.Simulation
import SatelliteWindows.Tally
import SatelliteWindows.Text.Blank
import SatelliteWindows.Text.Columns
import SatelliteWindows.Text.Kebab
import SatelliteWindows.Text.Letters
import SatelliteWindows.Text.Marks
import SatelliteWindows.Text.Quoted
import SatelliteWindows.Text.Unassigned
import SatelliteWindows.Text.Visible
import SatelliteWindows.Window
import SatelliteWindows.WindowName
import SatelliteWindows.Yaml.BlockScalar
import SatelliteWindows.Yaml.Character
import SatelliteWindows.Yaml.Core
import SatelliteWindows.Yaml.Cursor
import SatelliteWindows.Yaml.Document
import SatelliteWindows.Yaml.FlowScalar
import SatelliteWindows.Yaml.Layout
import SatelliteWindows.Yaml.Node
import SatelliteWindows.Yaml.Property
import SatelliteWindows.Yaml.Shape
import SatelliteWindows.Yaml.Token
import SatelliteWindows.Yaml.Written
import SatelliteWindows.Proofs.Pending
import SatelliteWindows.Proofs.View
import SatelliteWindows.Proofs.Delivery
import SatelliteWindows.Proofs.Delivery.Order
import SatelliteWindows.Proofs.Watch
import SatelliteWindows.Proofs.Delivery.NoLoss
import SatelliteWindows.Proofs.Coordinator.Steps
import SatelliteWindows.Proofs.Coordinator.Timers
import SatelliteWindows.Proofs.Coordinator.GivenUp
import SatelliteWindows.Proofs.Coordinator.Timeout
import SatelliteWindows.Proofs.Reopening
import SatelliteWindows.Proofs.Broadcast
import SatelliteWindows.Proofs.Isolation.Health
import SatelliteWindows.Proofs.Isolation.Harm
import SatelliteWindows.Proofs.Isolation.Seat
import SatelliteWindows.Proofs.Isolation.Apart
import SatelliteWindows.Proofs.Isolation.Alike
import SatelliteWindows.Proofs.Isolation.Twin
import SatelliteWindows.Proofs.Isolation
import SatelliteWindows.Proofs.Expiry.Forgotten
import SatelliteWindows.Proofs.Expiry
import SatelliteWindows.Proofs.Cascade
import SatelliteWindows.Proofs.Standing
import SatelliteWindows.Proofs.Delivery.Bystanders
import SatelliteWindows.Proofs.Office.Turns
import SatelliteWindows.Proofs.Office.Letters
import SatelliteWindows.Proofs.Office.Progress
import SatelliteWindows.Proofs.Office.Conduct
import SatelliteWindows.Proofs.Office.Shutdown
import SatelliteWindows.Proofs.Office.Producers
import SatelliteWindows.Proofs.Roster.Bindings
import SatelliteWindows.Proofs.Books
import SatelliteWindows.Proofs.Books.Metrics
import SatelliteWindows.Proofs.Backlog
import SatelliteWindows.Proofs.Books.Conservation
import SatelliteWindows.Proofs.Provisions
import SatelliteWindows.Proofs.Closing.Bygones
import SatelliteWindows.Proofs.Closing
import SatelliteWindows.Proofs.Confinement
import SatelliteWindows.Proofs.Wire.Reading
import SatelliteWindows.Proofs.Wire
import SatelliteWindows.Proofs.Feed
import SatelliteWindows.Proofs.Scenario.Turns
import SatelliteWindows.Proofs.Scenario.InOffice
import SatelliteWindows.Proofs.Scenario.Attention
import SatelliteWindows.Proofs.Scenario.Rounds.Parties
import SatelliteWindows.Proofs.Scenario.Rounds.Script
import SatelliteWindows.Proofs.Scenario.Rounds
import SatelliteWindows.Proofs.Scenario.Progress.Load
import SatelliteWindows.Proofs.Scenario.Progress.Turns
import SatelliteWindows.Proofs.Scenario.Progress
import SatelliteWindows.Proofs.Scenario.Hosting
import SatelliteWindows.Proofs.Scenario.Encounters
import SatelliteWindows.Proofs.Scenario.Course
import SatelliteWindows.Proofs.Scenario
import SatelliteWindows.Proofs.Flushing
import SatelliteWindows.Proofs.Household.Windows
import SatelliteWindows.Proofs.Household.Entries
import SatelliteWindows.Proofs.Household
import SatelliteWindows.Proofs.Opening
import SatelliteWindows.Proofs.Opening.Restoring
import SatelliteWindows.Proofs.Office.Books
import SatelliteWindows.Proofs.Scenario.Validation
import SatelliteWindows.Proofs.Feed.Receipts
import SatelliteWindows.Proofs.Feed.Standing
import SatelliteWindows.Proofs.Feed.Subscribers
import SatelliteWindows.Proofs.Broadcast.Commands
import SatelliteWindows.Proofs.Scenario.Log
import SatelliteWindows.Proofs.Scenario.Listing
import SatelliteWindows.Proofs.Scenario.Story
import SatelliteWindows.Proofs.Scenario.Account
import SatelliteWindows.Proofs.Scenario.Consistency
import SatelliteWindows.Proofs.WindowName
import SatelliteWindows.Proofs.Settings
import SatelliteWindows.Proofs.Scenario.InStep
import SatelliteWindows.Proofs.Scenario.Abreast
import SatelliteWindows.Proofs.Scenario.Persistence
import SatelliteWindows.Proofs.Scenario.Punctuality
import SatelliteWindows.Proofs.Scenario.Order
import SatelliteWindows.Proofs.Scenario.Lull
import SatelliteWindows.Proofs.Scenario.Upshot
import SatelliteWindows.Proofs.Scenario.Lockstep
import SatelliteWindows.Proofs.Scenario.Occasions
import SatelliteWindows.Proofs.Scenario.Prospect
import SatelliteWindows.Proofs.Scenario.Foresight
import SatelliteWindows.Proofs.Scenario.Biding
import SatelliteWindows.Proofs.Scenario.Waiting

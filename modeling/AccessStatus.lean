import AccessStatus.Text.Decimal
import AccessStatus.Text.Blank
import AccessStatus.Text.Unprintable
import AccessStatus.Text.Quoted
import AccessStatus.Text.Record
import AccessStatus.Table
import AccessStatus.Named
import AccessStatus.Ident
import AccessStatus.TrafficClass
import AccessStatus.Stream.Consumer
import AccessStatus.Stream.Mailroom
import AccessStatus.Stream.Gate
import AccessStatus.Stream.Registry
import AccessStatus.Stream.Notifier
import AccessStatus.Executor.Job
import AccessStatus.Executor.MessageLoop
import AccessStatus.Executor.Basic
import AccessStatus.Json.Value
import AccessStatus.Json.Token
import AccessStatus.Json.Reader
import AccessStatus.Json.Printer
import AccessStatus.Json.Decode
import AccessStatus.Error
import AccessStatus.Answer
import AccessStatus.Status
import AccessStatus.Config.Basic
import AccessStatus.Call.Basic
import AccessStatus.Call.Monitor
import AccessStatus.Data.Basic
import AccessStatus.Data.Monitor
import AccessStatus.Ims.Basic
import AccessStatus.Ims.Monitor
import AccessStatus.Network.Basic
import AccessStatus.Availability.Basic
import AccessStatus.Availability.Monitor
import AccessStatus.Document
import AccessStatus.Provider.Basic
import AccessStatus.Provider.Directory
import AccessStatus.Logging
import AccessStatus.Proofs.Table
import AccessStatus.Proofs.History
import AccessStatus.Proofs.Stream.Gate
import AccessStatus.Proofs.Stream.Notifier
import AccessStatus.Proofs.Stream.Offers
import AccessStatus.Proofs.Stream.Mailroom
import AccessStatus.Proofs.Stream.Registry
import AccessStatus.Proofs.Stream.Members
import AccessStatus.Proofs.Stream.Subscribers
import AccessStatus.Proofs.Stream.World
import AccessStatus.Proofs.Stream.Broadcast
import AccessStatus.Proofs.Stream.Exchange
import AccessStatus.Proofs.Stream.Unwinding
import AccessStatus.Proofs.Stream.Translation
import AccessStatus.Proofs.Stream.Sweeping
import AccessStatus.Proofs.Stream.Stillness
import AccessStatus.Proofs.Executor.Turns
import AccessStatus.Proofs.Executor.Record
import AccessStatus.Proofs.Executor.Order
import AccessStatus.Proofs.Executor.Exhaustion
import AccessStatus.Proofs.Network.Families
import AccessStatus.Proofs.Availability.DefaultNetwork
import AccessStatus.Proofs.Availability.Run
import AccessStatus.Proofs.Availability.LastInfo
import AccessStatus.Proofs.Availability.Slot
import AccessStatus.Proofs.Availability.Told
import AccessStatus.Proofs.Availability.Coherence
import AccessStatus.Proofs.Availability.Edge
import AccessStatus.Proofs.Availability.View
import AccessStatus.Proofs.Availability.Isolation
import AccessStatus.Proofs.Availability.Forgetting
import AccessStatus.Proofs.Availability.Repetition
import AccessStatus.Proofs.Call.Legs
import AccessStatus.Proofs.Call.Emergency
import AccessStatus.Proofs.Call.Run
import AccessStatus.Proofs.Call.CallType
import AccessStatus.Proofs.Call.Overlay
import AccessStatus.Proofs.Call.Identity
import AccessStatus.Proofs.Call.Streams
import AccessStatus.Proofs.Call.Idle
import AccessStatus.Proofs.Call.Thresholds
import AccessStatus.Proofs.Call.Closing
import AccessStatus.Proofs.Data.Grammar
import AccessStatus.Proofs.Data.Records
import AccessStatus.Proofs.Data.Members
import AccessStatus.Proofs.Data.Projection
import AccessStatus.Proofs.Ims.Subscription
import AccessStatus.Proofs.Provider.Housing
import AccessStatus.Proofs.Provider.Slots
import AccessStatus.Proofs.Provider.Isolation
import AccessStatus.Proofs.Provider.Bays
import AccessStatus.Proofs.Provider.Lifecycle
import AccessStatus.Proofs.Provider.HandOut
import AccessStatus.Proofs.Provider.Residue
import AccessStatus.Proofs.Config.BySlot
import AccessStatus.Proofs.Json.Token
import AccessStatus.Proofs.Json.Reading
import AccessStatus.Proofs.Config.Document
import AccessStatus.Proofs.Silence
import AccessStatus.Proofs.Provider.Backlog
import AccessStatus.Proofs.Provider.Refusal

import Pasteboard.Lib.Wire
import Pasteboard.Lib.Capped
import Pasteboard.Lib.Runs
import Pasteboard.Lib.Register
import Pasteboard.Lib.OrderedMap
import Pasteboard.Lib.Tally
import Pasteboard.Lib.Locks
import Pasteboard.Lib.Linearize
import Pasteboard.Lib.Compose
import Pasteboard.Lib.Tickets
import Pasteboard.Data.Record
import Pasteboard.Data.PasteData
import Pasteboard.Data.Mutators
import Pasteboard.Data.History
import Pasteboard.Data.Views
import Pasteboard.Ipc.Parcel
import Pasteboard.Ipc.Marshalling
import Pasteboard.Ipc.RoundTrip
import Pasteboard.Ipc.Framing
import Pasteboard.Ipc.Decoded
import Pasteboard.Ipc.Constructed
import Pasteboard.Ipc.MimeCache
import Pasteboard.Ipc.Transfer
import Pasteboard.Service.State
import Pasteboard.Service.Ops
import Pasteboard.Service.Store
import Pasteboard.Service.Content
import Pasteboard.Service.Sizes
import Pasteboard.Service.Dump
import Pasteboard.Service.AccessHistory
import Pasteboard.Service.Lifecycle
import Pasteboard.Service.Isolation
import Pasteboard.Service.Notifications
import Pasteboard.Service.Stub
import Pasteboard.Service.Hostile
import Pasteboard.Service.TextLimit
import Pasteboard.Service.EndToEnd
import Pasteboard.Service.Clipboard
import Pasteboard.Service.Failures
import Pasteboard.Service.Handlers
import Pasteboard.Service.Solo
import Pasteboard.Service.Deadlock
import Pasteboard.Service.Effects
import Pasteboard.Service.Commits
import Pasteboard.Service.Linearizable
import Pasteboard.Dfx.Levels
import Pasteboard.Dfx.TimeConsuming
import Pasteboard.Dfx.Statistics
import Pasteboard.Dfx.Behaviour
import Pasteboard.Dfx.Timer
import Pasteboard.Dfx.Reporting
import Pasteboard.Dfx.Measuring
import Pasteboard.Client.Connection
import Pasteboard.Client.Recovery
import Pasteboard.Client.Observers
import Pasteboard.Napi.Env
import Pasteboard.Napi.Observers
import Pasteboard.Napi.Records
import Pasteboard.Napi.Completion
import Pasteboard.Napi.Objects
import Pasteboard.Napi.Works
import Pasteboard.Napi.System
import Pasteboard.Napi.CopyPaste
import Pasteboard.Napi.Calls
import Pasteboard.Napi.Settling
import Pasteboard.Napi.Slots
import Pasteboard.Napi.Refinement
import Pasteboard.Napi.Separation
import Pasteboard.Napi.Observing
import Pasteboard.Napi.Posting
import Pasteboard.Napi.Delivery
import Pasteboard.Napi.EventLoop

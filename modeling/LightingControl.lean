import LightingControl.Abort
import LightingControl.Address.Basic
import LightingControl.Address.Range
import LightingControl.Answer.Basic
import LightingControl.Answer.Bitmap
import LightingControl.Answer.Controller
import LightingControl.Answer.Gear
import LightingControl.Answer.Input
import LightingControl.Bytes
import LightingControl.Colour
import LightingControl.Command.Basic
import LightingControl.Command.Operation
import LightingControl.Config.Basic
import LightingControl.Config.Duration
import LightingControl.Document.Address
import LightingControl.Document.Answer
import LightingControl.Document.Basic
import LightingControl.Document.Event
import LightingControl.Document.Operation
import LightingControl.Document.Response
import LightingControl.Document.Settings
import LightingControl.Event.Basic
import LightingControl.Event.Decode
import LightingControl.Event.Value
import LightingControl.EventSettings
import LightingControl.Field
import LightingControl.Frame
import LightingControl.Listener.Basic
import LightingControl.Net.Address
import LightingControl.Net.Host
import LightingControl.Net.Parser
import LightingControl.Proofs.Answer.Bitmaps
import LightingControl.Proofs.Answer.Checks
import LightingControl.Proofs.Answer.Lengths
import LightingControl.Proofs.Answer.Positions
import LightingControl.Proofs.Answer.RecordLists
import LightingControl.Proofs.BigEndian
import LightingControl.Proofs.Checks
import LightingControl.Proofs.Colours
import LightingControl.Proofs.Command.Acceptance
import LightingControl.Proofs.Command.Filters
import LightingControl.Proofs.Command.Settings
import LightingControl.Proofs.Command.Wire
import LightingControl.Proofs.Event.Acceptance
import LightingControl.Proofs.Event.Contents
import LightingControl.Proofs.Frame.Codec
import LightingControl.Proofs.Frame.Damage
import LightingControl.Proofs.Frame.Grammar
import LightingControl.Proofs.Frame.Truncation
import LightingControl.Proofs.Limits
import LightingControl.Proofs.Listener.Accounting
import LightingControl.Proofs.Listener.Calls
import LightingControl.Proofs.Listener.Delivery
import LightingControl.Proofs.Listener.Duplicates
import LightingControl.Proofs.Listener.Events
import LightingControl.Proofs.Listener.Readable
import LightingControl.Proofs.Numbers
import LightingControl.Proofs.Records
import LightingControl.Proofs.Registry.Calls
import LightingControl.Proofs.Registry.ClosedSessions
import LightingControl.Proofs.Registry.Entries
import LightingControl.Proofs.Registry.FirstUse
import LightingControl.Proofs.Registry.Identification
import LightingControl.Proofs.Registry.Isolation
import LightingControl.Proofs.Registry.KnownMacs
import LightingControl.Proofs.Registry.Sessions
import LightingControl.Proofs.Runs
import LightingControl.Proofs.Session.Arrivals
import LightingControl.Proofs.Session.AttemptBound
import LightingControl.Proofs.Session.Attempts
import LightingControl.Proofs.Session.Closing
import LightingControl.Proofs.Session.Datagrams
import LightingControl.Proofs.Session.Deliveries
import LightingControl.Proofs.Session.Linked
import LightingControl.Proofs.Session.Numbering
import LightingControl.Proofs.Session.Replies
import LightingControl.Proofs.Session.Schedule
import LightingControl.Proofs.Session.Send
import LightingControl.Proofs.Session.Steps
import LightingControl.Proofs.Session.Timeouts
import LightingControl.Proofs.Session.Waits
import LightingControl.Proofs.Settings
import LightingControl.Proofs.Text.Labels
import LightingControl.Proofs.Text.Utf8
import LightingControl.Proofs.Tracker.Balance
import LightingControl.Proofs.Tracker.Calls
import LightingControl.Proofs.Tracker.Entries
import LightingControl.Proofs.Tracker.Expiry
import LightingControl.Proofs.Tracker.Fates
import LightingControl.Proofs.Tracker.Independence
import LightingControl.Proofs.Tracker.Rotation
import LightingControl.Proofs.Tracker.Slots
import LightingControl.Registry.Basic
import LightingControl.Response
import LightingControl.Session.Basic
import LightingControl.Session.Error
import LightingControl.Session.Result
import LightingControl.Text.Hex
import LightingControl.Text.Utf8
import LightingControl.Tracker.Basic
import LightingControl.Tracker.Slot
import LightingControl.Tracker.Table
import LightingControl.WireError

import PelionClientLite.Lib.Run
import PelionClientLite.Lib.History
import PelionClientLite.Lib.CLib
import PelionClientLite.Lib.Numeral
import PelionClientLite.Lib.Ledger
import PelionClientLite.Lib.Ownership
import PelionClientLite.Lib.Mailbox
import PelionClientLite.Lib.Latch
import PelionClientLite.Environment
import PelionClientLite.Setup
import PelionClientLite.Link
import PelionClientLite.Connection
import PelionClientLite.Consistency
import PelionClientLite.Attempts
import PelionClientLite.Blinky
import PelionClientLite.Client
import PelionClientLite.Playback
import PelionClientLite.PatternPlayer
import PelionClientLite.Reading
import PelionClientLite.Progress
import PelionClientLite.Schedule
import PelionClientLite.WrittenDelays
import PelionClientLite.Handlers
import PelionClientLite.Resources
import PelionClientLite.Reconnect
import PelionClientLite.Device
import PelionClientLite.ButtonCounter
import PelionClientLite.ExecuteResponse
import PelionClientLite.Timers
import PelionClientLite.Registration
import PelionClientLite.WakeUp
import PelionClientLite.Attach
import PelionClientLite.DeviceConnection
import PelionClientLite.DevicePlayer
import PelionClientLite.Spelling
import PelionClientLite.Overlap
import PelionClientLite.Buffer
import PelionClientLite.Nesting
import PelionClientLite.Stranded
import PelionClientLite.WayBack
import PelionClientLite.Faults
import PelionClientLite.GivingUp
import PelionClientLite.Unregistering
import PelionClientLite.RtosHandles
import PelionClientLite.RtosObjects
import PelionClientLite.RtosWaits
import PelionClientLite.MemoryStatistics
import PelionClientLite.Draining

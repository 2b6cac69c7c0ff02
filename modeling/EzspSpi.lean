import EzspSpi.Ash.Loop
import EzspSpi.Spi.ChipSelect
import EzspSpi.Ash.Receiver
import EzspSpi.Spi.Command
import EzspSpi.Ash.Relay
import EzspSpi.Core.RingLog
import EzspSpi.Session.Observer
import EzspSpi.Ash.Retransmit
import EzspSpi.Session.Invariant
import EzspSpi.Session.Steps
import EzspSpi.Session.Handling
import EzspSpi.Session.Run
import EzspSpi.Session.Handshake
import EzspSpi.Session.Replay
import EzspSpi.Session.Turns
import EzspSpi.Core.Transducer
import EzspSpi.Session.Link
import EzspSpi.Session.LinkSteps
import EzspSpi.Session.LinkHandling
import EzspSpi.Session.Simulation
import EzspSpi.Session.Backlog
import EzspSpi.Session.Window
import EzspSpi.Session.Verbatim
import EzspSpi.Ash.Version
import EzspSpi.Session.Clients
import EzspSpi.Ash.Grammar
import EzspSpi.Session.Upkeep
import EzspSpi.Session.Timer
import EzspSpi.Session.Ncp
import EzspSpi.Session.InBounds
import EzspSpi.Ash.Arrays
import EzspSpi.Ash.InBounds
import EzspSpi.Core.Twin
import EzspSpi.Session.Twins
import EzspSpi.Session.Isolation
import EzspSpi.Board.Pins
import EzspSpi.Board.Forbidden
import EzspSpi.Core.Monitor
import EzspSpi.Board.Boot
import EzspSpi.Router.Ezsp
import EzspSpi.Router.Control
import EzspSpi.Router.Flows
import EzspSpi.Router.Run
import EzspSpi.Core.Modular
import EzspSpi.Ash.Parts
import EzspSpi.Router.Parts
import EzspSpi.Router.Alive
import EzspSpi.Router.Configured
import EzspSpi.Router.Wakeup
import EzspSpi.Core.ShiftRegister
import EzspSpi.Ash.FrameCheck
import EzspSpi.Ash.Voided
import EzspSpi.Router.Codec
import EzspSpi.Router.Negotiation
import EzspSpi.Router.Verify
import EzspSpi.Router.Attributes
import EzspSpi.Router.ZclArrays
import EzspSpi.Ash.Attached
import EzspSpi.Session.Callbacks
import EzspSpi.Router.Replies
import EzspSpi.Router.Amounts
import EzspSpi.Spi.Decode
import EzspSpi.Router.Callbacks
import EzspSpi.Router.Drain
import EzspSpi.Router.Stale
import EzspSpi.Router.Upheld
import EzspSpi.Router.Scan
import EzspSpi.Router.Attempts
import EzspSpi.Router.Join
import EzspSpi.Router.ExtPanId
import EzspSpi.Core.Books
import EzspSpi.Router.Reports
import EzspSpi.Core.Lines
import EzspSpi.Router.Neighbors
import EzspSpi.Router.IdOption
import EzspSpi.Router.Schedule
import EzspSpi.Router.ScanText
import EzspSpi.Router.ScanPage
import EzspSpi.Core.Grouping
import EzspSpi.Router.Dedupe
import EzspSpi.Board.Flash
import EzspSpi.Board.HandBack
import EzspSpi.Router.EzspArrays
import EzspSpi.Core.GetOpt
import EzspSpi.Router.Commands
import EzspSpi.Router.Conduct
import EzspSpi.Router.ConductRun
import EzspSpi.Router.Sessions
import EzspSpi.Router.CommandLine
import EzspSpi.Router.InitScript
import EzspSpi.Router.JoinButton
import EzspSpi.Router.Unicasts
import EzspSpi.Spi.Discipline
import EzspSpi.Router.Discipline

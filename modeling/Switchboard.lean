import Switchboard.Cache.Basic
import Switchboard.Cache.Race
import Switchboard.Capture.Remote
import Switchboard.Capture.Service
import Switchboard.Capture.Shell
import Switchboard.Capture.Store
import Switchboard.Capture.User
import Switchboard.CommandLine.Basic
import Switchboard.CommandLine.Grammar
import Switchboard.CommandLine.HelpPage
import Switchboard.Files.Basic
import Switchboard.Files.Path
import Switchboard.Files.Tree
import Switchboard.Json.Double
import Switchboard.Json.Draft
import Switchboard.Json.Fault
import Switchboard.Json.Printer
import Switchboard.Json.Scan
import Switchboard.Json.Value
import Switchboard.Log.Logger
import Switchboard.Log.Priority
import Switchboard.Main
import Switchboard.Parcel.Basic
import Switchboard.Parcel.Fault
import Switchboard.Parcel.Read
import Switchboard.Parcel.Shape
import Switchboard.Power.Data
import Switchboard.Power.Device
import Switchboard.Power.Facade
import Switchboard.Power.Query
import Switchboard.Power.Remote
import Switchboard.Program.Basic
import Switchboard.Program.Machine
import Switchboard.Program.Sessions
import Switchboard.Registry.Directory
import Switchboard.Registry.Object
import Switchboard.Scenario.Single
import Switchboard.Scenario.Step
import Switchboard.Service.Act
import Switchboard.Service.Basic
import Switchboard.Service.Error
import Switchboard.Service.Plain
import Switchboard.Settings.Basic
import Switchboard.Socket.Dialogue
import Switchboard.Socket.Message
import Switchboard.Socket.Network
import Switchboard.Socket.Path
import Switchboard.Socket.Poll
import Switchboard.Socket.Serving
import Switchboard.Socket.Turns
import Switchboard.Socket.Watch
import Switchboard.SystemError
import Switchboard.Text.Case
import Switchboard.Text.GraphemeExtend
import Switchboard.Text.Integer
import Switchboard.Text.Printable
import Switchboard.Text.Quoted
import Switchboard.Text.Ranges
import Switchboard.Text.Utf8
import Switchboard.Thread.Life
import Switchboard.Thread.Lock
import Switchboard.Thread.Promise
import Switchboard.Thread.Worker
import Switchboard.Tube.Duplex
import Switchboard.Tube.Error
import Switchboard.Tube.Frame
import Switchboard.World.Backend
import Switchboard.World.Basic
import Switchboard.Proofs.Cache.Generations
import Switchboard.Proofs.Cache.Interleaving
import Switchboard.Proofs.Socket.Moves
import Switchboard.Proofs.Socket.DeathLink
import Switchboard.Proofs.Socket.Handlers
import Switchboard.Proofs.Json.Strings
import Switchboard.Proofs.Json.Numbers
import Switchboard.Proofs.Json.RoundTrip
import Switchboard.Proofs.Json.Canonical
import Switchboard.Proofs.Parcel.Bounds
import Switchboard.Proofs.Socket.Messages
import Switchboard.Proofs.Socket.Publishing
import Switchboard.Proofs.Socket.Transparency
import Switchboard.Proofs.Socket.Hosts
import Switchboard.Proofs.Socket.Names
import Switchboard.Proofs.Socket.Dialogue
import Switchboard.Proofs.Socket.ByteStreams
import Switchboard.Proofs.World.Deaths
import Switchboard.Proofs.Socket.Bindings
import Switchboard.Proofs.World.Gets
import Switchboard.Proofs.Power.Facade
import Switchboard.Proofs.World.Ledger
import Switchboard.Proofs.World.Registry
import Switchboard.Proofs.Power.Queries
import Switchboard.Proofs.Power.Parallel
import Switchboard.Proofs.Power.Registries
import Switchboard.Proofs.Parcel.RoundTrip
import Switchboard.Proofs.Power.Remote
import Switchboard.Proofs.Capture.Shell
import Switchboard.Proofs.Parcel.Grammar
import Switchboard.Proofs.Tube.Streams
import Switchboard.Proofs.World.Caches
import Switchboard.Proofs.Power.Accounting
import Switchboard.Proofs.Capture.Sessions
import Switchboard.Proofs.Socket.Turns
import Switchboard.Proofs.Socket.Links
import Switchboard.Proofs.Socket.Watch
import Switchboard.Proofs.Capture.Exit
import Switchboard.Proofs.Text.LowerCase
import Switchboard.Proofs.Capture.Words
import Switchboard.Proofs.Capture.Overlooked
import Switchboard.Proofs.CommandLine.ShellWords
import Switchboard.Proofs.Parcel.Forms
import Switchboard.Proofs.Parcel.Retract
import Switchboard.Proofs.Service.Stubs
import Switchboard.Proofs.Power.Selection
import Switchboard.Proofs.Text.Integer
import Switchboard.Proofs.Capture.Users
import Switchboard.Proofs.Socket.Polling
import Switchboard.Proofs.Text.UpperCase
import Switchboard.Proofs.Log.Filters
import Switchboard.Proofs.Json.Literals
import Switchboard.Proofs.Json.FlatObjects
import Switchboard.Proofs.Settings.Files
import Switchboard.Proofs.Settings.Precedence
import Switchboard.Proofs.Thread.Life
import Switchboard.Proofs.Thread.Worker

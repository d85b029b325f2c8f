import TwoPhaseLocking.Cli.Help
import TwoPhaseLocking.Cli.Interface
import TwoPhaseLocking.Cli.Parse
import TwoPhaseLocking.Cli.Run
import TwoPhaseLocking.Cli.Similar
import TwoPhaseLocking.Cli.Spec
import TwoPhaseLocking.Cluster.Action
import TwoPhaseLocking.Cluster.Run
import TwoPhaseLocking.Cluster.World
import TwoPhaseLocking.Config.Basic
import TwoPhaseLocking.Config.File
import TwoPhaseLocking.Config.Read
import TwoPhaseLocking.Config.Write
import TwoPhaseLocking.Coordinator
import TwoPhaseLocking.Deadlock.Graph
import TwoPhaseLocking.Deadlock.Resolve
import TwoPhaseLocking.Error
import TwoPhaseLocking.Failure
import TwoPhaseLocking.Host.Connection
import TwoPhaseLocking.Host.Database
import TwoPhaseLocking.Host.Files
import TwoPhaseLocking.IdSet
import TwoPhaseLocking.ItemMap
import TwoPhaseLocking.Json.Binary64
import TwoPhaseLocking.Json.Reader
import TwoPhaseLocking.Json.Value
import TwoPhaseLocking.Json.Writer
import TwoPhaseLocking.Lock.Basic
import TwoPhaseLocking.Lock.Mode
import TwoPhaseLocking.Lock.Table
import TwoPhaseLocking.Main
import TwoPhaseLocking.Net.Link
import TwoPhaseLocking.Net.Session
import TwoPhaseLocking.Protocol.Decode
import TwoPhaseLocking.Protocol.Error
import TwoPhaseLocking.Protocol.Frame
import TwoPhaseLocking.Site.Agent
import TwoPhaseLocking.Site.Control
import TwoPhaseLocking.Store
import TwoPhaseLocking.Text.Blank
import TwoPhaseLocking.Text.Debug
import TwoPhaseLocking.Text.Lines
import TwoPhaseLocking.Text.Printable
import TwoPhaseLocking.Text.Utf8
import TwoPhaseLocking.Toml.Document
import TwoPhaseLocking.Toml.Reader
import TwoPhaseLocking.Transaction.Basic
import TwoPhaseLocking.Transaction.Id
import TwoPhaseLocking.Transaction.Load
import TwoPhaseLocking.Transaction.Operation
import TwoPhaseLocking.Transaction.Run
import TwoPhaseLocking.Transaction.Script
import TwoPhaseLocking.Value
import TwoPhaseLocking.Proofs.ItemMap
import TwoPhaseLocking.Proofs.Lock.Table
import TwoPhaseLocking.Proofs.Lock.Invariant
import TwoPhaseLocking.Proofs.Deadlock.Search
import TwoPhaseLocking.Proofs.Deadlock.Detection
import TwoPhaseLocking.Transaction.Serial
import TwoPhaseLocking.System.Basic
import TwoPhaseLocking.Proofs.Lock.Ownership
import TwoPhaseLocking.Proofs.Lock.Queue
import TwoPhaseLocking.Proofs.System.World
import TwoPhaseLocking.Proofs.Transaction.Serial
import TwoPhaseLocking.Proofs.System.Invariant
import TwoPhaseLocking.Proofs.System.Agent
import TwoPhaseLocking.Proofs.System.Coordinator
import TwoPhaseLocking.Proofs.System.Serializable
import TwoPhaseLocking.System.Faults
import TwoPhaseLocking.Proofs.System.Agreement
import TwoPhaseLocking.Proofs.Json.Tokens
import TwoPhaseLocking.Proofs.Json.RoundTrip
import TwoPhaseLocking.Proofs.Protocol.Frames
import TwoPhaseLocking.Proofs.Lock.Release
import TwoPhaseLocking.Proofs.Deadlock.Cycle
import TwoPhaseLocking.Proofs.Deadlock.Resolution
import TwoPhaseLocking.Net.Exchange
import TwoPhaseLocking.Proofs.Protocol.Stream
import TwoPhaseLocking.Proofs.Net.Transport
import TwoPhaseLocking.Proofs.Lock.Request
import TwoPhaseLocking.Proofs.Transaction.Ids
import TwoPhaseLocking.Proofs.Transaction.Execute
import TwoPhaseLocking.Proofs.Script.Line
import TwoPhaseLocking.Proofs.Script.Reading
import TwoPhaseLocking.Proofs.Deadlock.CycleTest
import TwoPhaseLocking.Proofs.Toml.Reads
import TwoPhaseLocking.Proofs.Toml.Scalars
import TwoPhaseLocking.Proofs.Toml.Strings
import TwoPhaseLocking.Proofs.Toml.Quote
import TwoPhaseLocking.Proofs.Toml.Document
import TwoPhaseLocking.Proofs.Host.Files
import TwoPhaseLocking.Proofs.Config.Text
import TwoPhaseLocking.Proofs.Config.Saving

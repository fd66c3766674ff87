import ScriptBridge.Bridge.Basic
import ScriptBridge.Bridge.Operation
import ScriptBridge.Bridge.Seeding
import ScriptBridge.Bridge.State
import ScriptBridge.Capture.Buffer
import ScriptBridge.Capture.Context
import ScriptBridge.Capture.HeaderBlock
import ScriptBridge.Capture.Policy
import ScriptBridge.Command
import ScriptBridge.CommandLine.Grammar
import ScriptBridge.CommandLine.Help
import ScriptBridge.CommandLine.Invocation
import ScriptBridge.CommandLine.LogFilter
import ScriptBridge.CommandLine.Pattern
import ScriptBridge.CommandLine.Reading
import ScriptBridge.Config.Basic
import ScriptBridge.Config.Document
import ScriptBridge.Config.Expansion
import ScriptBridge.Config.Load
import ScriptBridge.Config.Section
import ScriptBridge.Config.Validation
import ScriptBridge.Cookie.Header
import ScriptBridge.Cookie.Jar
import ScriptBridge.Duration
import ScriptBridge.Environment
import ScriptBridge.Fault
import ScriptBridge.FileTree
import ScriptBridge.Form
import ScriptBridge.Http.Message
import ScriptBridge.Http.Response
import ScriptBridge.Http.Status
import ScriptBridge.Interpreter
import ScriptBridge.Json.Reader
import ScriptBridge.Json.Value
import ScriptBridge.Json.Writer
import ScriptBridge.Main
import ScriptBridge.Path
import ScriptBridge.Program
import ScriptBridge.Proofs.Bridge.Answering
import ScriptBridge.Proofs.Bridge.Arguments
import ScriptBridge.Proofs.Bridge.Deferral
import ScriptBridge.Proofs.Bridge.Forgetting
import ScriptBridge.Proofs.Bridge.Leakage
import ScriptBridge.Proofs.Bridge.Lifecycle
import ScriptBridge.Proofs.Bridge.Phases
import ScriptBridge.Proofs.Bridge.Protocol
import ScriptBridge.Proofs.Bridge.Readiness
import ScriptBridge.Proofs.Bridge.Resting
import ScriptBridge.Proofs.Bridge.Splitting
import ScriptBridge.Proofs.Bridge.Settings
import ScriptBridge.Proofs.Bridge.Stages
import ScriptBridge.Proofs.Bridge.Visibility
import ScriptBridge.Proofs.Bridge.Writing
import ScriptBridge.Proofs.Capture.Accounting
import ScriptBridge.Proofs.Capture.Collecting
import ScriptBridge.Proofs.Capture.Exactness
import ScriptBridge.Proofs.Capture.Growth
import ScriptBridge.Proofs.Capture.Headers
import ScriptBridge.Proofs.Capture.Histories
import ScriptBridge.Proofs.Capture.Keeping
import ScriptBridge.Proofs.Capture.Merging
import ScriptBridge.Proofs.Capture.Room
import ScriptBridge.Proofs.Capture.Throttling
import ScriptBridge.Proofs.Environment
import ScriptBridge.Proofs.Form
import ScriptBridge.Proofs.Form.Encoding
import ScriptBridge.Proofs.Form.Separation
import ScriptBridge.Proofs.Http.Framing
import ScriptBridge.Proofs.Http.Language
import ScriptBridge.Proofs.Resolution
import ScriptBridge.Proofs.Relocation
import ScriptBridge.Proofs.Script.Deferral
import ScriptBridge.Proofs.Script.Forgetting
import ScriptBridge.Proofs.Script.Holding
import ScriptBridge.Proofs.Script.Running
import ScriptBridge.Proofs.Table
import ScriptBridge.Proofs.Text.Cutting
import ScriptBridge.Proofs.Text.Escaping
import ScriptBridge.Proofs.Text.Words
import ScriptBridge.Proofs.Value
import ScriptBridge.Recorder
import ScriptBridge.Request.Descriptor
import ScriptBridge.Request.ServerInfo
import ScriptBridge.Script.Access
import ScriptBridge.Script.Allowance
import ScriptBridge.Script.Datum
import ScriptBridge.Script.Decimal
import ScriptBridge.Script.Engine
import ScriptBridge.Script.Evaluation
import ScriptBridge.Script.Fault
import ScriptBridge.Script.Function
import ScriptBridge.Script.Operation
import ScriptBridge.Script.Outlet
import ScriptBridge.Script.Parser
import ScriptBridge.Script.Position
import ScriptBridge.Script.Simplification
import ScriptBridge.Script.Syntax
import ScriptBridge.Script.Token.Basic
import ScriptBridge.Script.Token.Lexer
import ScriptBridge.Server.Basic
import ScriptBridge.Server.Incoming
import ScriptBridge.Server.Network
import ScriptBridge.Server.Service
import ScriptBridge.Server.Traffic
import ScriptBridge.Signal
import ScriptBridge.SocketAddress
import ScriptBridge.Table
import ScriptBridge.Text.Base64
import ScriptBridge.Text.Blank
import ScriptBridge.Text.CodePoint
import ScriptBridge.Text.Cut
import ScriptBridge.Text.Letter
import ScriptBridge.Text.Numeral
import ScriptBridge.Text.Percent
import ScriptBridge.Text.Quoted
import ScriptBridge.Text.Utf8
import ScriptBridge.Toml.Tree
import ScriptBridge.Toml.Value
import ScriptBridge.Value
import ScriptBridge.Word
import ScriptBridge.Worker.Basic
import ScriptBridge.Worker.Job
import ScriptBridge.Yaml.Cursor
import ScriptBridge.Yaml.Layout
import ScriptBridge.Yaml.Scalar
import ScriptBridge.Yaml.Tree
import ScriptBridge.Proofs.Cookie
import ScriptBridge.Proofs.Cookie.Histories
import ScriptBridge.Proofs.Server.Handling
import ScriptBridge.Proofs.Server.Replay
import ScriptBridge.Proofs.Worker.Order
import ScriptBridge.Proofs.Worker.Clients
import ScriptBridge.Proofs.Worker.Progress
import ScriptBridge.Proofs.Worker.Serialising
import ScriptBridge.Proofs.Server.Storing
import ScriptBridge.Proofs.Bridge.Commands
import ScriptBridge.Proofs.Json.Reading
import ScriptBridge.Proofs.Duration
import ScriptBridge.Proofs.Config.References
import ScriptBridge.Proofs.Config.Substitution
import ScriptBridge.Proofs.SocketAddress
import ScriptBridge.Proofs.Config.Excerpts
import ScriptBridge.Proofs.Config.Loading
import ScriptBridge.Proofs.Config.Printing
import ScriptBridge.Proofs.Script.Caching
import ScriptBridge.Proofs.Script.Drafts
import ScriptBridge.Proofs.Bridge.Seeding
import ScriptBridge.Proofs.Bridge.Delivery
import ScriptBridge.Proofs.Bridge.Failing
import ScriptBridge.Proofs.Text.Numeral
import ScriptBridge.Proofs.Cookie.Expiry
import ScriptBridge.Proofs.Http.Fields
import ScriptBridge.Proofs.Script.Streams
import ScriptBridge.Proofs.Bridge.HostVariables

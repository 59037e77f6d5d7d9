import QueryGate.Calendar
import QueryGate.CommandLine.Grammar
import QueryGate.CommandLine.Parse
import QueryGate.CommandLine.Program
import QueryGate.Database.Service
import QueryGate.Disk
import QueryGate.Fault
import QueryGate.Gate
import QueryGate.Health
import QueryGate.Json.Document
import QueryGate.Json.Read
import QueryGate.Log.Line
import QueryGate.Log.Logbook
import QueryGate.Main
import QueryGate.Number.Decimal
import QueryGate.Number.Double
import QueryGate.Number.Reading
import QueryGate.Payload.Content
import QueryGate.Payload.Record
import QueryGate.Proofs.CommandLine.Agreement
import QueryGate.Proofs.CommandLine.Reading
import QueryGate.Proofs.Database.Addressing
import QueryGate.Proofs.Database.Attempt
import QueryGate.Proofs.Database.Balance
import QueryGate.Proofs.Database.Calls
import QueryGate.Proofs.Database.Lookups
import QueryGate.Proofs.Database.Operation
import QueryGate.Proofs.Database.Parts
import QueryGate.Proofs.Database.Probing
import QueryGate.Proofs.Database.Query
import QueryGate.Proofs.Database.Reaching
import QueryGate.Proofs.Database.Statements
import QueryGate.Proofs.Database.States
import QueryGate.Proofs.Database.Surfacing
import QueryGate.Proofs.Database.Transaction
import QueryGate.Proofs.Database.Translation
import QueryGate.Proofs.Gate.Disguise
import QueryGate.Proofs.Gate.LetterCase
import QueryGate.Proofs.Gate.Report
import QueryGate.Proofs.Health
import QueryGate.Proofs.Json.Ascii
import QueryGate.Proofs.Json.Floats
import QueryGate.Proofs.Json.RoundTrip
import QueryGate.Proofs.Json.Scalars
import QueryGate.Proofs.Log.Line
import QueryGate.Proofs.Log.Reconfiguration
import QueryGate.Proofs.Number.Integer
import QueryGate.Proofs.Number.Numeral
import QueryGate.Proofs.Number.Rounding
import QueryGate.Proofs.Number.Shortest
import QueryGate.Proofs.Payload.Plain
import QueryGate.Proofs.Payload.ReadingBack
import QueryGate.Proofs.Server.Answering
import QueryGate.Proofs.Server.Coherence
import QueryGate.Proofs.Server.Committed
import QueryGate.Proofs.Server.Lifetime
import QueryGate.Proofs.Server.Listening
import QueryGate.Proofs.Server.Pools
import QueryGate.Proofs.Server.Requests
import QueryGate.Proofs.Server.Serving
import QueryGate.Proofs.Server.StartUp
import QueryGate.Proofs.Server.Surfacing
import QueryGate.Proofs.Settings.Checking
import QueryGate.Proofs.Settings.Environment
import QueryGate.Proofs.Settings.Fields
import QueryGate.Proofs.Sql.Composition
import QueryGate.Proofs.Sql.Concatenation
import QueryGate.Proofs.Sql.Decoding
import QueryGate.Proofs.Sql.Disguise
import QueryGate.Proofs.Sql.Doubling
import QueryGate.Proofs.Sql.Keyword
import QueryGate.Proofs.Sql.Lexeme
import QueryGate.Proofs.Sql.Padding
import QueryGate.Proofs.Sql.Quoting
import QueryGate.Proofs.Sql.Standalone
import QueryGate.Proofs.Sql.Suspicion
import QueryGate.Proofs.Text.LetterCase
import QueryGate.Proofs.Text.Trim
import QueryGate.Proofs.Tool.Query
import QueryGate.Proofs.Tool.Table
import QueryGate.Proofs.Validation.Reporting
import QueryGate.Proofs.Value.Mapping
import QueryGate.Proofs.World.Behaviour
import QueryGate.Proofs.World.Clock
import QueryGate.Proofs.World.Confining
import QueryGate.Proofs.World.Keeping
import QueryGate.Server.Basic
import QueryGate.Server.Run
import QueryGate.Settings
import QueryGate.Sql.Identifier
import QueryGate.Sql.Statement
import QueryGate.Sql.Suspicion
import QueryGate.Text.Character
import QueryGate.Text.Encoding
import QueryGate.Text.Literal
import QueryGate.Text.Lower
import QueryGate.Tool
import QueryGate.Transport
import QueryGate.Validation.Check
import QueryGate.Value.Basic
import QueryGate.Value.Conversion
import QueryGate.World

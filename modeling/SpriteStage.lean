import SpriteStage.About
import SpriteStage.Client.Bridge
import SpriteStage.Client.Exchange
import SpriteStage.Main
import SpriteStage.Playground.Event
import SpriteStage.Proofs.Run.Moment
import SpriteStage.Proofs.Run.FlatTrace
import SpriteStage.Proofs.Run.Abandonment
import SpriteStage.Proofs.Run.Settlement
import SpriteStage.Proofs.Playground.Commitment
import SpriteStage.Proofs.Playground.Isolation
import SpriteStage.Proofs.Program.Codec
import SpriteStage.Proofs.Program.Compiled
import SpriteStage.Proofs.Program.Relisting
import SpriteStage.Proofs.Program.Vocabulary
import SpriteStage.Proofs.Program.Exporting
import SpriteStage.Proofs.Number.Packing
import SpriteStage.Proofs.Number.Scientific
import SpriteStage.Proofs.Number.Shortest
import SpriteStage.Proofs.Number.Numeral
import SpriteStage.Proofs.Number.Notation
import SpriteStage.Proofs.Script.Numeral
import SpriteStage.Proofs.Script.Lexing
import SpriteStage.Proofs.Script.Expression
import SpriteStage.Proofs.Script.Statement
import SpriteStage.Proofs.Program.Constant
import SpriteStage.Proofs.Program.Normalization
import SpriteStage.Proofs.Program.Transcript
import SpriteStage.Proofs.Program.Compilation
import SpriteStage.Proofs.Program.RoundTrip
import SpriteStage.Proofs.Run.Replay
import SpriteStage.Proofs.Run.Invariant
import SpriteStage.Proofs.Text.Utf8
import SpriteStage.Proofs.Json.Writing
import SpriteStage.Proofs.Json.Numeral
import SpriteStage.Proofs.Json.Text
import SpriteStage.Proofs.Json.Reading
import SpriteStage.Proofs.Json.Payload
import SpriteStage.Proofs.Json.Keys
import SpriteStage.Proofs.Service.Serving
import SpriteStage.Proofs.Service.Refusal
import SpriteStage.Proofs.Service.Outcome
import SpriteStage.Proofs.Client.Delivery
import SpriteStage.Proofs.Client.Agreement
import SpriteStage.Proofs.Json.Size
import SpriteStage.Proofs.Client.Bridging
import SpriteStage.Proofs.Number.Order
import SpriteStage.Proofs.Number.Remainder
import SpriteStage.Proofs.Stage.Change
import SpriteStage.Proofs.Stage.Chronicle
import SpriteStage.Proofs.Stage.Bounds
import SpriteStage.Proofs.Run.Waiting
import SpriteStage.Proofs.Program.Names
import SpriteStage.Proofs.Program.Escape
import SpriteStage.Proofs.Playground.Announcement
import SpriteStage.Proofs.Json.Short
import SpriteStage.Proofs.Program.Grammar
import SpriteStage.Proofs.Program.Canonical
import SpriteStage.Proofs.Command.Reporting
import SpriteStage.Proofs.Service.Answering
import SpriteStage.Proofs.Service.ToolCall
import SpriteStage.Proofs.Program.Magnitude
import SpriteStage.Proofs.Number.Range
import SpriteStage.Proofs.Stage.Numbers
import SpriteStage.Proofs.Program.Likeness
import SpriteStage.Proofs.Script.Abreast.Basic
import SpriteStage.Proofs.Script.Abreast.Block
import SpriteStage.Proofs.Script.Abreast.Compound
import SpriteStage.Proofs.Script.Abreast.Excerpt
import SpriteStage.Proofs.Script.Abreast.Line
import SpriteStage.Proofs.Script.Abreast.Tokenizing
import SpriteStage.Proofs.Program.Rounds
import SpriteStage.Proofs.Program.Warnings
import SpriteStage.Proofs.Program.Pointing
import SpriteStage.Proofs.Program.Concatenation
import SpriteStage.Proofs.Run.Extent
import SpriteStage.Proofs.Client.Refusing
import SpriteStage.Proofs.Run.Counting
import SpriteStage.Proofs.Stage.Edge
import SpriteStage.Proofs.Stage.Heading
import SpriteStage.Proofs.Stage.Report

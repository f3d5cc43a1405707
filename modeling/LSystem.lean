import LSystem.Ascending
import LSystem.Chance.ChaCha
import LSystem.Chance.Weighted
import LSystem.CommandLine.Arguments
import LSystem.CommandLine.Files
import LSystem.CommandLine.Run
import LSystem.Curve.Assembly
import LSystem.Curve.Buffer
import LSystem.Curve.Json
import LSystem.Curve.Trace
import LSystem.Decimal.Binary
import LSystem.Decimal.Layout
import LSystem.Decimal.Numeral
import LSystem.Decimal.Reading
import LSystem.Decimal.Shortest
import LSystem.Description.Basic
import LSystem.Description.Json
import LSystem.Error
import LSystem.Grammar.Basic
import LSystem.Grammar.Expansion
import LSystem.Grammar.Loading
import LSystem.Grammar.Word
import LSystem.Json.Fault
import LSystem.Json.Lexeme
import LSystem.Json.Number
import LSystem.Json.Reader
import LSystem.Json.Tree
import LSystem.Json.Value
import LSystem.Log.Event
import LSystem.Log.Filter
import LSystem.Log.Narration
import LSystem.Log.Pattern
import LSystem.Log.Pattern.Atom
import LSystem.Log.Pattern.Brackets
import LSystem.Main
import LSystem.Proofs.CommandLine.Delivery
import LSystem.Proofs.CommandLine.FileSystem
import LSystem.Proofs.Curve.Totality
import LSystem.Proofs.Curve.Validity
import LSystem.Proofs.Decimal.Digits
import LSystem.Proofs.Description.Bindings
import LSystem.Proofs.Description.Format
import LSystem.Proofs.Grammar.Composition
import LSystem.Proofs.Grammar.Derivation
import LSystem.Proofs.Grammar.Faithfulness
import LSystem.Proofs.Grammar.Grouping
import LSystem.Proofs.Grammar.Growth
import LSystem.Proofs.Grammar.Insertion
import LSystem.Proofs.Grammar.Levels
import LSystem.Proofs.Grammar.Loading
import LSystem.Proofs.Grammar.Range
import LSystem.Proofs.Grammar.Renaming
import LSystem.Proofs.Grammar.Rendering
import LSystem.Proofs.Grammar.Resumption
import LSystem.Proofs.Grammar.Steady
import LSystem.Proofs.Grammar.Unbound
import LSystem.Proofs.Json.Lexing
import LSystem.Proofs.Json.Reading
import LSystem.Proofs.Json.Records
import LSystem.Proofs.Json.RoundTrip
import LSystem.Proofs.Json.Trees
import LSystem.Proofs.Json.Writing
import LSystem.Proofs.Outcome
import LSystem.Proofs.Pairs
import LSystem.Proofs.Ribbon.Evaluation
import LSystem.Proofs.Ribbon.Loading
import LSystem.Proofs.Ribbon.Overrides
import LSystem.Proofs.Ribbon.Parameters
import LSystem.Proofs.Ribbon.Presentation
import LSystem.Proofs.Ribbon.Replanting
import LSystem.Proofs.Single
import LSystem.Proofs.Symbol.History
import LSystem.Proofs.Turtle.Branches
import LSystem.Proofs.Turtle.Changes
import LSystem.Proofs.Turtle.Isolation
import LSystem.Proofs.Turtle.Orientation
import LSystem.Proofs.Turtle.Path
import LSystem.Proofs.Turtle.Repertoire
import LSystem.Proofs.Turtle.Segments
import LSystem.Proofs.Turtle.Stance
import LSystem.Proofs.Turtle.Steps
import LSystem.Proofs.Turtle.Strands
import LSystem.Ribbon
import LSystem.Settings
import LSystem.Space.Rotation
import LSystem.Space.Vec3
import LSystem.Symbol.Table
import LSystem.Text.Alphanumeric
import LSystem.Text.Character
import LSystem.Text.Hidden
import LSystem.Text.Quoted
import LSystem.Turtle.Frame
import LSystem.Turtle.Json
import LSystem.Turtle.Operation
import LSystem.Turtle.Repertoire
import LSystem.Turtle.Walk

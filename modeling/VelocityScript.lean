import VelocityScript.Text.Table
import VelocityScript.Text.Position
import VelocityScript.Text.Split
import VelocityScript.Text.Blank
import VelocityScript.Text.Letter
import VelocityScript.Number.Double
import VelocityScript.Number.Decimal
import VelocityScript.Number.Literal
import VelocityScript.Json
import VelocityScript.Diagnostic
import VelocityScript.Template.Kind
import VelocityScript.Template.Tree
import VelocityScript.Template.Walk
import VelocityScript.Template.Layout
import VelocityScript.Template.Printer
import VelocityScript.Template.Check
import VelocityScript.Catalogue
import VelocityScript.Output.Path
import VelocityScript.Output.Plan
import VelocityScript.Script.Operator
import VelocityScript.Script.Tree
import VelocityScript.Script.SyntaxError
import VelocityScript.Script.Punctuator
import VelocityScript.Script.Cursor
import VelocityScript.Script.Parser
import VelocityScript.Script.Literal
import VelocityScript.Script.Skipping
import VelocityScript.Script.Grammar.Nested
import VelocityScript.Script.Grammar.Function
import VelocityScript.Script.Grammar.Expression
import VelocityScript.Script.Grammar.Statement
import VelocityScript.Script.Grammar.Item
import VelocityScript.Script.Scope
import VelocityScript.Lowering.Complaint
import VelocityScript.Lowering.State
import VelocityScript.Lowering.Expression
import VelocityScript.Lowering.Statement
import VelocityScript.Lowering.Function
import VelocityScript.Transpile
import VelocityScript.Yaml.Node
import VelocityScript.Yaml.Glyph
import VelocityScript.Yaml.Scalar
import VelocityScript.Yaml.BlockScalar
import VelocityScript.Yaml.Property
import VelocityScript.Yaml.Token
import VelocityScript.Yaml.Document
import VelocityScript.Settings
import VelocityScript.Session.Arguments
import VelocityScript.Session.Files
import VelocityScript.Session.Configuration
import VelocityScript.Session.Warning
import VelocityScript.Session.Deed
import VelocityScript.Session.Run
import VelocityScript.Session.Machine
import VelocityScript.Main
import VelocityScript.Proofs.Lowering.Derivation
import VelocityScript.Proofs.Lowering.Settlement
import VelocityScript.Proofs.Lowering.Adequacy
import VelocityScript.Proofs.Lowering.Accounting
import VelocityScript.Proofs.Lowering.Accountability
import VelocityScript.Proofs.Script.Names
import VelocityScript.Proofs.Template.Temporary
import VelocityScript.Proofs.Lowering.Validity
import VelocityScript.Proofs.Script.Meaning
import VelocityScript.Proofs.Lowering.Hoisting
import VelocityScript.Proofs.Lowering.AssignmentOrder
import VelocityScript.Proofs.Script.Grouping
import VelocityScript.Proofs.Script.Precedence
import VelocityScript.Proofs.Template.Grouping
import VelocityScript.Proofs.Script.Reading
import VelocityScript.Proofs.Template.Contents
import VelocityScript.Proofs.Template.Spelling
import VelocityScript.Proofs.Template.Writing
import VelocityScript.Proofs.Template.Scoping
import VelocityScript.Proofs.Lowering.Transpilation
import VelocityScript.Proofs.Lowering.Grouping
import VelocityScript.Proofs.Lowering.Provenance
import VelocityScript.Proofs.Lowering.Interpolation
import VelocityScript.Proofs.Lowering.Quotation
import VelocityScript.Proofs.Lowering.Allotment
import VelocityScript.Proofs.Lowering.SingleAssignment
import VelocityScript.Proofs.Lowering.Reach
import VelocityScript.Proofs.Lowering.Binding
import VelocityScript.Proofs.Lowering.Variables
import VelocityScript.Proofs.Lowering.Capture
import VelocityScript.Proofs.Lowering.Counterpart
import VelocityScript.Proofs.Lowering.Parallel
import VelocityScript.Proofs.Lowering.Matching
import VelocityScript.Proofs.Lowering.ParallelLowering
import VelocityScript.Proofs.Lowering.Targets
import VelocityScript.Proofs.Lowering.Shadowing
import VelocityScript.Proofs.Script.Aliasing
import VelocityScript.Proofs.Template.Relocation
import VelocityScript.Proofs.Script.Relocation
import VelocityScript.Proofs.Lowering.RelocatedExpression
import VelocityScript.Proofs.Lowering.Relocation
import VelocityScript.Proofs.Lowering.Renaming
import VelocityScript.Proofs.Lowering.ImportAlias
import VelocityScript.Proofs.Template.Flow
import VelocityScript.Proofs.Lowering.Directness
import VelocityScript.Proofs.Lowering.Outline
import VelocityScript.Proofs.Lowering.Returning
import VelocityScript.Proofs.Script.Climbing
import VelocityScript.Proofs.Script.Lexing
import VelocityScript.Proofs.Script.Progress
import VelocityScript.Proofs.Script.SafeFunctions
import VelocityScript.Proofs.Script.SafeExpressions
import VelocityScript.Proofs.Script.SafeStatements
import VelocityScript.Proofs.Script.Safety
import VelocityScript.Proofs.Script.Facing
import VelocityScript.Proofs.Script.Delivering
import VelocityScript.Proofs.Script.ArrowHeads
import VelocityScript.Proofs.Script.Restoring
import VelocityScript.Proofs.Script.RestoredOperands
import VelocityScript.Proofs.Script.RoundTrip
import VelocityScript.Proofs.Script.Leading
import VelocityScript.Proofs.Script.SpannedFunctions
import VelocityScript.Proofs.Script.SpannedExpressions
import VelocityScript.Proofs.Script.SpannedStatements
import VelocityScript.Proofs.Script.ShiftedLexing
import VelocityScript.Proofs.Script.ShiftedFunctions
import VelocityScript.Proofs.Script.ShiftedExpressions
import VelocityScript.Proofs.Script.ShiftedStatements
import VelocityScript.Proofs.Script.Prefixing
import VelocityScript.Proofs.Script.StringSpelling
import VelocityScript.Proofs.Template.StringReading
import VelocityScript.Proofs.Session.Storing
import VelocityScript.Proofs.Session.Performing
import VelocityScript.Proofs.Session.Configuring
import VelocityScript.Proofs.Session.Gathering
import VelocityScript.Proofs.Session.Handling
import VelocityScript.Proofs.Session.Delivery
import VelocityScript.Proofs.Session.Failing
import VelocityScript.Proofs.Session.Causes
import VelocityScript.Proofs.Output.Pieces
import VelocityScript.Proofs.Output.Trimming
import VelocityScript.Proofs.Output.Places
import VelocityScript.Proofs.Output.Extensions
import VelocityScript.Proofs.Output.Planning
import VelocityScript.Proofs.Output.Containment
import VelocityScript.Proofs.Output.Distinctness
import VelocityScript.Proofs.Script.FunctionNames
import VelocityScript.Proofs.Session.Overwriting
import VelocityScript.Proofs.Lowering.Isolation
import VelocityScript.Proofs.Script.Declaring
import VelocityScript.Proofs.Script.Resolution
import VelocityScript.Proofs.Script.Annotation
import VelocityScript.Proofs.Template.Printable
import VelocityScript.Proofs.Lowering.Printable
import VelocityScript.Proofs.Lowering.Chain
import VelocityScript.Proofs.Script.OperatorTokens
import VelocityScript.Proofs.Script.Composition
import VelocityScript.Proofs.Script.Bodies
import VelocityScript.Proofs.Script.TypeEnds
import VelocityScript.Proofs.Script.AnnotatedDeclarations
import VelocityScript.Proofs.Script.ArrowFunctions
import VelocityScript.Proofs.Script.Occurrences
import VelocityScript.Proofs.Lowering.Visiting
import VelocityScript.Proofs.Lowering.Preludes
import VelocityScript.Proofs.Template.Writer
import VelocityScript.Proofs.Template.Indentation
import VelocityScript.Proofs.Output.SharedDirectory
import VelocityScript.Proofs.Template.UnsetReads
import VelocityScript.Proofs.Text.Positions
import VelocityScript.Proofs.Number.Exactness
import VelocityScript.Proofs.Number.IntegerSpelling

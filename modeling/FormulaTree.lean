import FormulaTree.Bindings
import FormulaTree.Decimal.Basic
import FormulaTree.Decimal.Literal
import FormulaTree.Double.Layout
import FormulaTree.Double.Reading
import FormulaTree.Double.Shortest
import FormulaTree.Error
import FormulaTree.Evaluation.Compile
import FormulaTree.Evaluation.Evaluator
import FormulaTree.Evaluation.Library
import FormulaTree.Evaluation.Prelude
import FormulaTree.Evaluation.Scope
import FormulaTree.Formula.Basic
import FormulaTree.Formula.Children
import FormulaTree.Formula.Encoding
import FormulaTree.Formula.Equality
import FormulaTree.Formula.Kind
import FormulaTree.Formula.Rebuild
import FormulaTree.Formula.Transform
import FormulaTree.Formula.Walk
import FormulaTree.Json.Basic
import FormulaTree.Json.Reader
import FormulaTree.Json.Token
import FormulaTree.Json.Writer
import FormulaTree.Proofs.Bindings
import FormulaTree.Proofs.Decimal.Grammar
import FormulaTree.Proofs.Decimal.Literal
import FormulaTree.Proofs.Decimal.Quantity
import FormulaTree.Proofs.Decimal.Spelling
import FormulaTree.Proofs.Decimal.Words
import FormulaTree.Proofs.Double.Equality
import FormulaTree.Proofs.Double.Fields
import FormulaTree.Proofs.Double.Interval
import FormulaTree.Proofs.Double.Layout
import FormulaTree.Proofs.Double.Reading
import FormulaTree.Proofs.Double.Rounding
import FormulaTree.Proofs.Double.Special
import FormulaTree.Proofs.Evaluation.Absence
import FormulaTree.Proofs.Evaluation.Alike
import FormulaTree.Proofs.Evaluation.Arguments
import FormulaTree.Proofs.Evaluation.Assignments
import FormulaTree.Proofs.Evaluation.Blame
import FormulaTree.Proofs.Evaluation.Comparison
import FormulaTree.Proofs.Evaluation.Conditional
import FormulaTree.Proofs.Evaluation.Effects
import FormulaTree.Proofs.Evaluation.Equivalence
import FormulaTree.Proofs.Evaluation.History
import FormulaTree.Proofs.Evaluation.Independence
import FormulaTree.Proofs.Evaluation.Interpreter
import FormulaTree.Proofs.Evaluation.Library
import FormulaTree.Proofs.Evaluation.Parameters
import FormulaTree.Proofs.Evaluation.Renaming
import FormulaTree.Proofs.Evaluation.Resolution
import FormulaTree.Proofs.Evaluation.Setting
import FormulaTree.Proofs.Exec
import FormulaTree.Proofs.Formula.Calls
import FormulaTree.Proofs.Formula.Canonical
import FormulaTree.Proofs.Formula.Depth
import FormulaTree.Proofs.Formula.Elimination
import FormulaTree.Proofs.Formula.Equality
import FormulaTree.Proofs.Formula.Frame
import FormulaTree.Proofs.Formula.Invariant
import FormulaTree.Proofs.Formula.Labels
import FormulaTree.Proofs.Formula.Names
import FormulaTree.Proofs.Formula.Nodes
import FormulaTree.Proofs.Formula.Obtainable
import FormulaTree.Proofs.Formula.Parts
import FormulaTree.Proofs.Formula.Pass
import FormulaTree.Proofs.Formula.Places
import FormulaTree.Proofs.Formula.Rebuild
import FormulaTree.Proofs.Formula.RoundTrip
import FormulaTree.Proofs.Formula.Sound
import FormulaTree.Proofs.Formula.Substitution
import FormulaTree.Proofs.Json.Depth
import FormulaTree.Proofs.Json.Keyed
import FormulaTree.Proofs.Json.Numbers
import FormulaTree.Proofs.Json.Parts
import FormulaTree.Proofs.Json.Texts
import FormulaTree.Proofs.Record
import FormulaTree.Proofs.Registry.Fields
import FormulaTree.Proofs.Registry.Grammar
import FormulaTree.Proofs.Registry.Reading
import FormulaTree.Proofs.Registry.Sound
import FormulaTree.Proofs.Render.Bracketed
import FormulaTree.Proofs.Render.Branches
import FormulaTree.Proofs.Render.Grouping
import FormulaTree.Proofs.Render.Html
import FormulaTree.Proofs.Render.Lexing
import FormulaTree.Proofs.Render.Lines
import FormulaTree.Proofs.Render.Modes
import FormulaTree.Proofs.Render.Neutral
import FormulaTree.Proofs.Render.Numbers
import FormulaTree.Proofs.Render.Operands
import FormulaTree.Proofs.Render.Phrase
import FormulaTree.Proofs.Render.Reading
import FormulaTree.Proofs.Render.Signs
import FormulaTree.Proofs.Render.Tex
import FormulaTree.Proofs.Render.Transparent
import FormulaTree.Proofs.Render.Unambiguous
import FormulaTree.Proofs.Scope
import FormulaTree.Proofs.Text.Numeral
import FormulaTree.Proofs.Value.Canonical
import FormulaTree.Proofs.Value.Depth
import FormulaTree.Proofs.Value.Equality
import FormulaTree.Proofs.Value.Fields
import FormulaTree.Proofs.Value.Grammar
import FormulaTree.Proofs.Value.Keyed
import FormulaTree.Proofs.Value.RoundTrip
import FormulaTree.Proofs.Value.Truth
import FormulaTree.Record
import FormulaTree.Registry
import FormulaTree.Render.Formula
import FormulaTree.Render.Markup
import FormulaTree.Render.Options
import FormulaTree.Render.Precedence
import FormulaTree.Text.Alphabetic
import FormulaTree.Text.Blank
import FormulaTree.Text.Entities
import FormulaTree.Text.Numeral
import FormulaTree.Text.Quoted
import FormulaTree.Text.Ranges
import FormulaTree.Text.Shapeless
import FormulaTree.Value.Basic
import FormulaTree.Value.Display
import FormulaTree.Value.Encoding
import FormulaTree.Value.Equality
import FormulaTree.Value.Truth

import BalineseChart.Analysis
import BalineseChart.Audit
import BalineseChart.Chart
import BalineseChart.Chart.Layers
import BalineseChart.Chart.Printer
import BalineseChart.Command.Arguments
import BalineseChart.Command.Files
import BalineseChart.Command.Options
import BalineseChart.Command.Run
import BalineseChart.Command.Session
import BalineseChart.Derivation
import BalineseChart.Evaluation
import BalineseChart.Grammar
import BalineseChart.Grammar.Printer
import BalineseChart.Grammar.Reader
import BalineseChart.Lexicon
import BalineseChart.Lexicon.Balinese
import BalineseChart.Log
import BalineseChart.Main
import BalineseChart.Nonterminal
import BalineseChart.NonterminalSet
import BalineseChart.Rule
import BalineseChart.Segmentation
import BalineseChart.Text.CaseProperty
import BalineseChart.Text.CodeRange
import BalineseChart.Text.Column
import BalineseChart.Text.Decimal
import BalineseChart.Text.Lines
import BalineseChart.Text.LowerCase
import BalineseChart.Text.Printable
import BalineseChart.Text.Quoted
import BalineseChart.Text.WhiteSpace
import BalineseChart.Tree
import BalineseChart.Tree.Printer
import BalineseChart.Proofs.Chart.Consistency
import BalineseChart.Proofs.Chart.Recognition
import BalineseChart.Proofs.Chart.Search
import BalineseChart.Proofs.Chart.Gaps
import BalineseChart.Proofs.Chart.Composition
import BalineseChart.Proofs.Reconstruction
import BalineseChart.Proofs.Chart.Commitment
import BalineseChart.Proofs.Chart.DeadEnds
import BalineseChart.Proofs.Grammar.Format
import BalineseChart.Proofs.Grammar.Reading
import BalineseChart.Proofs.Grammar.Printing
import BalineseChart.Proofs.Grammar.Grouping
import BalineseChart.Proofs.Grammar.Contents
import BalineseChart.Proofs.Agreement
import BalineseChart.Proofs.RoundTrip
import BalineseChart.Proofs.Lexicon.Table
import BalineseChart.Proofs.Lexicon.Phrases
import BalineseChart.Proofs.Lexicon.Sentence
import BalineseChart.Proofs.Audit.Productive
import BalineseChart.Proofs.Audit.Reachable
import BalineseChart.Proofs.Audit.Pruning
import BalineseChart.Proofs.Tree.Layout
import BalineseChart.Proofs.Audit.Usage
import BalineseChart.Proofs.RuleOrder
import BalineseChart.Proofs.Command.Conversation
import BalineseChart.Proofs.Text.Spacing
import BalineseChart.Proofs.Text.Trimming
import BalineseChart.Proofs.Text.Lowering
import BalineseChart.Proofs.Segmentation.Cutting
import BalineseChart.Proofs.Segmentation.Echo
import BalineseChart.Proofs.Segmentation.Blocks
import BalineseChart.Proofs.Command.Records
import BalineseChart.Proofs.Command.Verdicts
import BalineseChart.Proofs.Audit.Findings
import BalineseChart.Proofs.Text.Lines
import BalineseChart.Proofs.Lexicon.Vocabulary
import BalineseChart.Proofs.Tree.Outline
import BalineseChart.Proofs.Text.Runs
import BalineseChart.Proofs.Tree.Unambiguity
import BalineseChart.Proofs.Evaluation
import BalineseChart.Proofs.Grammar.Settling
import BalineseChart.Proofs.Chart.Rows
import BalineseChart.Proofs.Chart.Rows.Access
import BalineseChart.Proofs.Chart.Rows.Filling
import BalineseChart.Proofs.Chart.Rows.Searching
import BalineseChart.Proofs.Chart.Spans
import BalineseChart.Proofs.Chart.Unambiguity

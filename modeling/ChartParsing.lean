import ChartParsing.Command.Arguments
import ChartParsing.Command.Execution
import ChartParsing.Command.FileTree
import ChartParsing.Main
import ChartParsing.Proofs.Cancellation
import ChartParsing.Proofs.Chart.Acceptance
import ChartParsing.Proofs.Chart.Additions
import ChartParsing.Proofs.Chart.Alike
import ChartParsing.Proofs.Chart.Beginning
import ChartParsing.Proofs.Chart.Lockstep
import ChartParsing.Proofs.Chart.Prediction
import ChartParsing.Proofs.Chart.Refinement
import ChartParsing.Proofs.Chart.Shape
import ChartParsing.Proofs.Chart.Stopping
import ChartParsing.Proofs.Chart.Viability
import ChartParsing.Proofs.Command.Independence
import ChartParsing.Proofs.Command.LimitedOutput
import ChartParsing.Proofs.Completeness
import ChartParsing.Proofs.Grammar.Building
import ChartParsing.Proofs.Grammar.Coverage
import ChartParsing.Proofs.Grammar.Loading
import ChartParsing.Proofs.Grammar.Pairing
import ChartParsing.Proofs.Grammar.Room
import ChartParsing.Proofs.GrammarText.Faults
import ChartParsing.Proofs.GrammarText.Lines
import ChartParsing.Proofs.GrammarText.Reordering
import ChartParsing.Proofs.Nesting
import ChartParsing.Proofs.PairedTrees
import ChartParsing.Proofs.Reordering
import ChartParsing.Proofs.Rescoring
import ChartParsing.Proofs.Sentence.Runs
import ChartParsing.Proofs.Soundness
import ChartParsing.Proofs.Tree.Bracketed
import ChartParsing.Proofs.Tree.Indented
import ChartParsing.Proofs.Tree.Spelling
import ChartParsing.Proofs.TreeWords
import ChartParsing.Proofs.WordExchange

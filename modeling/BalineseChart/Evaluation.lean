import BalineseChart.Analysis
import BalineseChart.Text.Column
import BalineseChart.Text.Decimal

/-!
# Scoring a grammar on labelled sentences

A grammar is scored on sentences that are labelled grammatical or ungrammatical.
The outcome of a sentence sets its label beside the grammar's verdict; the
evaluation counts the four kinds of outcome and gives the share of correct ones.
-/

namespace BalineseChart

open Text

/-- A labelled sentence and the verdict on it. -/
structure Outcome where
  sentence : String
  tokens : List String
  /-- Whether the sentence is labelled grammatical. -/
  expected : Bool
  /-- Whether the grammar accepts the sentence. -/
  predicted : Bool
deriving DecidableEq

namespace Outcome

/-- Whether the verdict agrees with the label. -/
def isCorrect (outcome : Outcome) : Bool :=
  outcome.expected == outcome.predicted

/-- The kind of outcome: a true or false, positive or negative verdict. -/
def label (outcome : Outcome) : String :=
  match outcome.expected, outcome.predicted with
  | true, true => "TP"
  | true, false => "FN"
  | false, false => "TN"
  | false, true => "FP"

end Outcome

/-- The outcomes of all sentences. -/
structure Evaluation where
  outcomes : List Outcome
deriving DecidableEq

/-- The outcome of a sentence with a label. -/
def Grammar.outcome (g : Grammar) (expected : Bool) (sentence : String) : Outcome :=
  let sentence := trimmed sentence
  let analysis := g.analyse sentence
  { sentence, tokens := analysis.tokens, expected, predicted := analysis.accepted }

/-- The outcomes of the grammatical sentences, then of the ungrammatical ones. -/
def Grammar.evaluate (g : Grammar) (positives negatives : List String) : Evaluation where
  outcomes := positives.map (g.outcome true) ++ negatives.map (g.outcome false)

namespace Evaluation

/-- The number of outcomes with a label and a verdict. -/
def count (evaluation : Evaluation) (expected predicted : Bool) : Nat :=
  evaluation.outcomes.countP fun o => o.expected == expected && o.predicted == predicted

/-- The number of accepted grammatical sentences. -/
def truePositives (evaluation : Evaluation) : Nat :=
  evaluation.count true true

/-- The number of rejected grammatical sentences. -/
def falseNegatives (evaluation : Evaluation) : Nat :=
  evaluation.count true false

/-- The number of rejected ungrammatical sentences. -/
def trueNegatives (evaluation : Evaluation) : Nat :=
  evaluation.count false false

/-- The number of accepted ungrammatical sentences. -/
def falsePositives (evaluation : Evaluation) : Nat :=
  evaluation.count false true

/-- The number of sentences. -/
def total (evaluation : Evaluation) : Nat :=
  evaluation.outcomes.length

/-- The number of correct verdicts. -/
def correct (evaluation : Evaluation) : Nat :=
  evaluation.outcomes.countP Outcome.isCorrect

/-- The percentage of correct verdicts, zero if there are no sentences. -/
def accuracy (evaluation : Evaluation) : Float :=
  if evaluation.total = 0 then 0.0
  else evaluation.correct.toFloat / evaluation.total.toFloat * 100.0

/-! ## The report -/

/-- A verdict or a label in words. -/
def verdictText (valid : Bool) : String :=
  if valid then "valid" else "invalid"

/-- A line of the report's table. -/
def row (number tokens expected predicted result : String) : String :=
  column 4 number ++ " | " ++ column 45 tokens ++ " | " ++ column 8 expected ++ " | " ++
    column 8 predicted ++ " | " ++ result ++ "\n"

/-- The line of an outcome, numbered from one. -/
def outcomeRow (outcome : Outcome) (index : Nat) : String :=
  row (toString (index + 1)) (" ".intercalate outcome.tokens) (verdictText outcome.expected)
    (verdictText outcome.predicted) outcome.label

/-- The table of outcomes, the counts and the accuracy with two places. -/
def report (evaluation : Evaluation) : String :=
  row "no" "tokens" "expected" "predicted" "result" ++
    String.join (evaluation.outcomes.zipIdx.map fun (outcome, index) => outcomeRow outcome index) ++
    "\n" ++
    "total:           " ++ toString evaluation.total ++ "\n" ++
    "true positives:  " ++ toString evaluation.truePositives ++ "\n" ++
    "false negatives: " ++ toString evaluation.falseNegatives ++ "\n" ++
    "true negatives:  " ++ toString evaluation.trueNegatives ++ "\n" ++
    "false positives: " ++ toString evaluation.falsePositives ++ "\n" ++
    "accuracy:        " ++ fixed 2 evaluation.accuracy ++ "%"

end Evaluation

end BalineseChart

import BalineseChart.Analysis
import BalineseChart.Chart.Printer
import BalineseChart.Command.Files
import BalineseChart.Command.Options
import BalineseChart.Log
import BalineseChart.Text.WhiteSpace
import BalineseChart.Tree.Printer

/-!
# Conversations

In a conversation the command prompts for one sentence after the other and writes a
record for each: its tokens, its chart if that was asked for, whether it is valid,
and then its tree or the words that the grammar does not know. A sentence with too
many tokens gets a line among the errors instead. What is reported of a sentence
also goes there, in the order in which it happens. No line of the input has an
influence on the record of another.
-/

namespace BalineseChart

open Text

/-- What the command writes and the number with which it ends. -/
structure Transcript where
  output : String
  errors : List Notice
  exitCode : Nat
deriving DecidableEq

/-- What the command writes for one line of input. -/
structure Reply where
  output : String
  errors : List Notice
deriving DecidableEq

/-- What stands before every line that is read. -/
def prompt : String :=
  "> "

/-- The line that reports a failure to analyse a sentence. -/
def failureLine (failure : ParseError) : String :=
  "error: " ++ failure.message ++ "\n"

/-- The start of a sentence's record: its tokens and, if asked for, its chart. -/
def recordHead (options : Options) (analysis : Analysis) : String :=
  "tokens: " ++ " ".intercalate analysis.tokens ++ "\n" ++
    if options.chart then "chart:\n" ++ analysis.chart.text ++ "\n" else ""

/-- The lines for the tokens that the grammar does not know. -/
def gapLines (gaps : List Gap) : String :=
  String.join (gaps.map fun gap => "  " ++ gap.text ++ "\n")

/-- The record of an analysed sentence. -/
def record (g : Grammar) (options : Options) (analysis : Analysis) : Reply :=
  let head := recordHead options analysis
  if analysis.accepted then
    if options.noTree then
      ⟨head ++ "valid\n" ++ "\n", []⟩
    else
      match analysis.tree g with
      | .error failure => ⟨head ++ "valid\n", [.line (failureLine failure)]⟩
      | .ok none => ⟨head ++ "valid\n" ++ "\n", []⟩
      | .ok (some tree) => ⟨head ++ "valid\n" ++ tree.text ++ "\n" ++ "\n", []⟩
  else
    ⟨head ++ "invalid\n" ++ gapLines analysis.gaps ++ "\n", []⟩

/-- The reply to a sentence. It is analysed before anything is written of it. -/
def replyTo (g : Grammar) (options : Options) (sentence : String) : Reply :=
  match g.analyseWithin options.limit sentence with
  | .error failure =>
    ⟨"", (g.splitEvents sentence).map .event ++ [.line (failureLine failure)]⟩
  | .ok analysis =>
    let written := record g options analysis
    ⟨written.output, (g.splitEvents sentence ++ analysis.events).map .event ++ written.errors⟩

/-- The reply to a line of input, of which white space at the ends is no part. A blank
line has an empty reply. -/
def respond (g : Grammar) (options : Options) (line : List UInt8) : Except Fatal Reply :=
  match decode? line with
  | none => .error .notText
  | some text =>
    let sentence := trimmed text
    .ok (if sentence = "" then ⟨"", []⟩ else replyTo g options sentence)

/-- The lines of an input, each with the line feed that ends it. -/
def inputLines : List UInt8 → List (List UInt8)
  | [] => []
  | byte :: rest =>
    if byte = 10 then
      [byte] :: inputLines rest
    else
      match inputLines rest with
      | [] => [[byte]]
      | line :: others => (byte :: line) :: others

/-- A conversation over the lines of an input. -/
def converse (g : Grammar) (options : Options) : List (List UInt8) → Transcript
  | [] => ⟨prompt, [], 0⟩
  | line :: others =>
    match respond g options line with
    | .error fatal => ⟨prompt, [.line fatal.line], 1⟩
    | .ok reply =>
      let later := converse g options others
      ⟨prompt ++ reply.output ++ later.output, reply.errors ++ later.errors, later.exitCode⟩

end BalineseChart

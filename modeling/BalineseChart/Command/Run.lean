import BalineseChart.Audit
import BalineseChart.Command.Session
import BalineseChart.Evaluation
import BalineseChart.Grammar.Reader
import BalineseChart.Lexicon.Balinese
import BalineseChart.Text.Lines

/-!
# The command

The command loads its grammar and then does one of three things: it audits the
grammar, scores it on two files of sentences, or holds a conversation. `runOptions`
is the whole command as a function of its options, of what the files hold and of
the bytes of its input. A file that is the input itself is read like any other, and
the command goes on with what is left of the input then.
-/

namespace BalineseChart

open Text

/-- The grammar that the options ask for. -/
def loadGrammar (options : Options) (read : FileReader) : Except Fatal Grammar :=
  match options.file with
  | none => .ok Grammar.balinese
  | some path =>
    match read path with
    | .error failure => .error (.unreadable failure)
    | .ok bytes =>
      match decode? bytes with
      | none => .error .notText
      | some text =>
        match Grammar.ofText text with
        | .error failure => .error (.message failure.message)
        | .ok g => .ok g

/-- The sentences of a text: its lines without the white space at their ends, blank
lines left out. -/
def sentencesOf (text : String) : List String :=
  ((linesOf text).map trimmed).filter (· ≠ "")

/-- The sentences of a file. -/
def readSentences (read : FileReader) (path : String) : Except Fatal (List String) :=
  match read path with
  | .error failure =>
    .error (.message
      (path ++ ": " ++ failure.reason ++ " (os error " ++ toString failure.code ++ ")"))
  | .ok bytes =>
    match decode? bytes with
    | none => .error (.message (path ++ ": " ++ notTextReason))
    | some text => .ok (sentencesOf text)

/-- The findings of an audit, one to a line. -/
def auditText (g : Grammar) : String :=
  match g.audit with
  | [] => "no issues\n"
  | issues => String.join (issues.map fun issue => issue.text ++ "\n")

/-- What the command writes when it scores a grammar on the sentences of two files. -/
def scoreFiles (g : Grammar) (files : Files) (input : List UInt8) (positives negatives : String) :
    Transcript :=
  match readSentences (files.reader input) positives with
  | .error fatal => ⟨"", [.line fatal.line], 1⟩
  | .ok grammatical =>
    match readSentences (files.reader (files.left input positives)) negatives with
    | .error fatal => ⟨"", [.line fatal.line], 1⟩
    | .ok ungrammatical =>
      let sentences := (grammatical ++ ungrammatical).map trimmed
      ⟨(g.evaluate grammatical ungrammatical).report ++ "\n",
        (sentences.flatMap g.parseEvents).map .event, 0⟩

/-- What the command writes once its grammar is loaded. An audit goes before an
evaluation. -/
def runWith (g : Grammar) (options : Options) (files : Files) (input : List UInt8) : Transcript :=
  if options.audit then
    ⟨auditText g, [], 0⟩
  else
    match options.eval with
    | some (positives, negatives) => scoreFiles g files input positives negatives
    | none => converse g options (inputLines input)

/-- What is reported of a grammar when it is loaded. -/
def loadedEvent (g : Grammar) : LogEvent :=
  .grammarLoaded g.start g.ruleCount

/-- What the command writes for options, files and an input. -/
def runOptions (options : Options) (files : Files) (input : List UInt8) : Transcript :=
  match loadGrammar options (files.reader input) with
  | .error fatal => ⟨"", [.line fatal.line], 1⟩
  | .ok g =>
    let written := runWith g options files (files.leftAfter input options.file.toList)
    { written with errors := .event (loadedEvent g) :: written.errors }

end BalineseChart

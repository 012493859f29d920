import BalineseChart.Command.Run
import BalineseChart.Proofs.Command.Lines
import BalineseChart.Proofs.Grammar.Reading

/-!
# Conversations compose

A conversation answers the lines of its input one after the other, and the answer to a
line depends on that line only. Lines of text are all answered, and the conversation then
goes on as if it began with what is left of the input (`converse_append`).

So the command may be run on one input after another instead of on both at once, if the
first is text and is empty or ends in a line feed (`runOptions_append`). Whether the
second is text does not matter. But each run reports once that it has loaded its grammar, and
the grammar must not be read from the input.
-/

namespace BalineseChart

open Text

variable {g : Grammar} {options : Options}

/-! ## The answer to a line -/

/-- The reply to a line of text. -/
def replyToLine (g : Grammar) (options : Options) (line : String) : Reply :=
  if trimmed line = "" then ⟨"", []⟩ else replyTo g options (trimmed line)

theorem respond_utf8Bytes (g : Grammar) (options : Options) (line : String) :
    respond g options (utf8Bytes line) = .ok (replyToLine g options line) := by
  rw [respond, decode?_utf8Bytes, replyToLine]

/-! ## The answers to all lines -/

/-- What is written in answer to some lines, a prompt before each reply. -/
def repliesText (reply : String → Reply) (lines : List String) : String :=
  String.join (lines.map fun line => prompt ++ (reply line).output)

/-- What is written among the errors in answer to some lines. -/
def repliesErrors (reply : String → Reply) (lines : List String) : List Notice :=
  lines.flatMap fun line => (reply line).errors

/-- Lines of text are answered, and then the conversation goes on with what is left. -/
theorem converse_append (g : Grammar) (options : Options) (lines : List String)
    (later : List (List UInt8)) :
    converse g options (lines.map utf8Bytes ++ later) =
      ⟨repliesText (replyToLine g options) lines ++ (converse g options later).output,
        repliesErrors (replyToLine g options) lines ++ (converse g options later).errors,
        (converse g options later).exitCode⟩ := by
  induction lines with
  | nil => simp [repliesText, repliesErrors]
  | cons line others ih =>
    rw [List.map_cons, List.cons_append, converse, respond_utf8Bytes]
    simp only [ih, repliesText, repliesErrors, List.map_cons, List.flatMap_cons, String.join_cons,
      String.append_assoc, List.append_assoc]

/-- A text is answered line by line. -/
theorem converse_textLines (g : Grammar) (options : Options) (text : String) :
    converse g options (inputLines (utf8Bytes text)) =
      ⟨repliesText (replyToLine g options) (textLines text) ++ prompt,
        repliesErrors (replyToLine g options) (textLines text), 0⟩ := by
  rw [inputLines_utf8Bytes, ← List.append_nil ((textLines text).map utf8Bytes), converse_append,
    converse, List.append_nil]

/-! ## The command -/

/-- A run without an audit and an evaluation reports its grammar and then converses. -/
theorem runOptions_of_loadGrammar {files : Files} {input : List UInt8}
    (noAudit : options.audit = false) (noEval : options.eval = none)
    (loaded : loadGrammar options (files.reader input) = .ok g) :
    runOptions options files input =
      let conversation :=
        converse g options (inputLines (files.leftAfter input options.file.toList))
      ⟨conversation.output, .event (loadedEvent g) :: conversation.errors,
        conversation.exitCode⟩ := by
  simp only [runOptions, loaded, runWith, noAudit, noEval, Bool.false_eq_true, if_false]

/-- If what it then has to answer is text, it answers all lines and ends well. -/
theorem runOptions_of_decode? {files : Files} {input : List UInt8} {text : String}
    (noAudit : options.audit = false) (noEval : options.eval = none)
    (loaded : loadGrammar options (files.reader input) = .ok g)
    (decoded : decode? (files.leftAfter input options.file.toList) = some text) :
    runOptions options files input =
      ⟨repliesText (replyToLine g options) (textLines text) ++ prompt,
        .event (loadedEvent g) :: repliesErrors (replyToLine g options) (textLines text), 0⟩ := by
  rw [runOptions_of_loadGrammar noAudit noEval loaded, decode?_eq_some_iff.mp decoded,
    converse_textLines]

section Apart

variable {files : Files} (apart : ∀ path ∈ options.file, files.isInput path = false)
  (input : List UInt8)

include apart

/-- A grammar that is not read from the input is the same whatever the input is. -/
theorem loadGrammar_reader :
    loadGrammar options (files.reader input) = loadGrammar options files.read := by
  unfold loadGrammar
  split
  · rfl
  · next path file => rw [Files.reader, if_neg (Bool.eq_false_iff.mp (apart path file))]

theorem leftAfter_file : files.leftAfter input options.file.toList = input := by
  cases file : options.file with
  | none => rfl
  | some path =>
    rw [Option.toList_some, Files.leftAfter, List.foldl_cons, List.foldl_nil, Files.left,
      if_neg (Bool.eq_false_iff.mp (apart path file))]

/-- So a run on any input converses about it, and over all of the input. -/
theorem runOptions_of_apart (noAudit : options.audit = false) (noEval : options.eval = none)
    (loaded : loadGrammar options files.read = .ok g) :
    runOptions options files input =
      ⟨(converse g options (inputLines input)).output,
        .event (loadedEvent g) :: (converse g options (inputLines input)).errors,
        (converse g options (inputLines input)).exitCode⟩ := by
  rw [runOptions_of_loadGrammar noAudit noEval ((loadGrammar_reader apart input).trans loaded),
    leftAfter_file apart]

end Apart

/-- The text of some notices and of more after them. -/
theorem noticesText_append (format : LogFormat) (notices others : List Notice) :
    noticesText format (notices ++ others) =
      noticesText format notices ++
        noticesText (fun number => format (number + notices.length)) others := by
  have shifted : (fun number notice => Notice.text format (number + notices.length) notice) =
      Notice.text fun number => format (number + notices.length) := by
    funext number notice
    cases notice <;> rfl
  rw [noticesText, List.mapIdx_append, String.join_append, shifted]
  rfl

/-- An event that a log without the time does not show might as well not have happened. -/
theorem noticesText_event_of_unseen {write : LogEvent → String} {event : LogEvent}
    (unseen : write event = "") (notices : List Notice) :
    noticesText (fun _ => write) (.event event :: notices) =
      noticesText (fun _ => write) notices := by
  rw [← List.singleton_append, noticesText_append, noticesText, List.mapIdx_singleton, Notice.text,
    unseen]
  exact String.empty_append

/-- If the options lead to a conversation about a grammar that is not read from the input, the
command may answer an input in two runs, cut after a text that is empty or ends in a line feed.
Only the last prompt of the first run has then been written once too often, and what is
reported when a grammar is loaded. So the errors read the same if the log shows neither that
nor the time. -/
theorem runOptions_append {files : Files} (noAudit : options.audit = false)
    (noEval : options.eval = none) (loaded : loadGrammar options files.read = .ok g)
    (apart : ∀ path ∈ options.file, files.isInput path = false) {earlier : List UInt8}
    {text : String} (decoded : decode? earlier = some text)
    (ended : earlier = [] ∨ earlier.getLast? = some 10) (later : List UInt8) :
    ∃ (body : String) (rest : List Notice),
      (runOptions options files earlier).output = body ++ "> " ∧
      (runOptions options files later).errors = .event (loadedEvent g) :: rest ∧
      runOptions options files (earlier ++ later) =
        ⟨body ++ (runOptions options files later).output,
          (runOptions options files earlier).errors ++ rest,
          (runOptions options files later).exitCode⟩ ∧
      ∀ write : LogEvent → String, write (loadedEvent g) = "" →
        noticesText (fun _ => write) (runOptions options files (earlier ++ later)).errors =
          noticesText (fun _ => write) (runOptions options files earlier).errors ++
            noticesText (fun _ => write) (runOptions options files later).errors := by
  have run (input : List UInt8) := runOptions_of_apart apart input noAudit noEval loaded
  obtain rfl := decode?_eq_some_iff.mp decoded
  have whole : runOptions options files (utf8Bytes text ++ later) =
      ⟨repliesText (replyToLine g options) (textLines text) ++
          (converse g options (inputLines later)).output,
        .event (loadedEvent g) :: (repliesErrors (replyToLine g options) (textLines text) ++
          (converse g options (inputLines later)).errors),
        (converse g options (inputLines later)).exitCode⟩ := by
    rw [run, inputLines_append ended, inputLines_utf8Bytes, converse_append]
  have alone := run (utf8Bytes text)
  rw [converse_textLines] at alone
  refine ⟨repliesText (replyToLine g options) (textLines text),
    (converse g options (inputLines later)).errors, ?_, ?_, ?_, ?_⟩
  · rw [alone]
    rfl
  · rw [run]
  · rw [whole, alone, run later]
    rfl
  · intro write unseen
    rw [whole, alone, run later, noticesText_event_of_unseen unseen,
      noticesText_event_of_unseen unseen, noticesText_event_of_unseen unseen]
    exact noticesText_append _ _ _

/-- No file can be read, and none is the input. -/
def noFiles : Files where
  read := fun _ => .error .notFound
  isInput := fun _ => false

/-- A sentence and a blank line first, then a line that is no text. -/
theorem runOptions_append_no_text :
    loadGrammar { noTree := true } noFiles.read = .ok Grammar.balinese ∧
      decode? (utf8Bytes "jegeg putu\n\t\n") = some "jegeg putu\n\t\n" ∧
      (utf8Bytes "jegeg putu\n\t\n").getLast? = some 10 ∧
      warningLog 0 (loadedEvent Grammar.balinese) = "" ∧
      ∃ (body : String) (rest : List Notice),
        (runOptions { noTree := true } noFiles (utf8Bytes "jegeg putu\n\t\n")).output =
            body ++ "> " ∧
          (runOptions { noTree := true } noFiles [0x6A, 0xFF, 0x0A]).errors =
            .event (loadedEvent Grammar.balinese) :: rest ∧
          runOptions { noTree := true } noFiles
              (utf8Bytes "jegeg putu\n\t\n" ++ [0x6A, 0xFF, 0x0A]) =
            ⟨body ++ (runOptions { noTree := true } noFiles [0x6A, 0xFF, 0x0A]).output,
              (runOptions { noTree := true } noFiles (utf8Bytes "jegeg putu\n\t\n")).errors ++
                rest,
              (runOptions { noTree := true } noFiles [0x6A, 0xFF, 0x0A]).exitCode⟩ ∧
          noticesText warningLog (runOptions { noTree := true } noFiles
              (utf8Bytes "jegeg putu\n\t\n" ++ [0x6A, 0xFF, 0x0A])).errors =
            noticesText warningLog
                (runOptions { noTree := true } noFiles (utf8Bytes "jegeg putu\n\t\n")).errors ++
              noticesText warningLog
                (runOptions { noTree := true } noFiles [0x6A, 0xFF, 0x0A]).errors := by
  have loaded : loadGrammar { noTree := true } noFiles.read = .ok Grammar.balinese := rfl
  have decoded : decode? (utf8Bytes "jegeg putu\n\t\n") = some "jegeg putu\n\t\n" :=
    decode?_utf8Bytes _
  have ended : (utf8Bytes "jegeg putu\n\t\n").getLast? = some 10 := rfl
  obtain ⟨body, rest, prompted, reported, answered, shown⟩ :=
    runOptions_append rfl rfl loaded (fun _ _ => rfl) decoded (Or.inr ended) [0x6A, 0xFF, 0x0A]
  exact ⟨loaded, decoded, ended, rfl, body, rest, prompted, reported, answered, shown _ rfl⟩

/-- A file with one rule is at every path. -/
def ruleFile : Files where
  read := fun _ => .ok (utf8Bytes "K -> a;\n")
  isInput := fun _ => false

/-- The input is at every path. -/
def onlyInput : Files where
  read := fun _ => .error .notFound
  isInput := fun _ => true

theorem readRules_single_rule :
    Grammar.readRules "K -> a;\n".toList = .ok ([⟨.sentence, .word "a"⟩], []) := by
  decide +kernel

theorem loadGrammar_of_readRules (path : String) (read : FileReader) {text : String}
    {rules : List Rule} (held : read path = .ok (utf8Bytes text))
    (stated : Grammar.readRules text.toList = .ok (rules, [])) :
    loadGrammar { file := some path } read =
      (Grammar.ofStated rules).mapError fun failure => .message failure.message := by
  simp only [loadGrammar, held, decode?_utf8Bytes, Grammar.ofText, stated]
  cases Grammar.ofStated rules <;> rfl

/-- A log of everything tells two runs from one. And if the grammar is read from the input, it may
be in all of the input, but not in what there is for the second of two runs. -/
theorem one_report_for_each_run :
    noticesText fullLog
        (runOptions { file := some "-" } ruleFile (utf8Bytes "\n" ++ utf8Bytes "\n")).errors ≠
      noticesText fullLog (runOptions { file := some "-" } ruleFile (utf8Bytes "\n")).errors ++
        noticesText fullLog (runOptions { file := some "-" } ruleFile (utf8Bytes "\n")).errors ∧
      (runOptions { file := some "-" } onlyInput (utf8Bytes "K -> a;\n")).exitCode = 0 ∧
      (runOptions { file := some "-" } onlyInput (utf8Bytes "K -> a;\n" ++ [])).exitCode = 0 ∧
      (runOptions { file := some "-" } onlyInput []).exitCode = 1 := by
  have alone : (runOptions { file := some "-" } onlyInput (utf8Bytes "K -> a;\n")).exitCode = 0 := by
    have loaded := loadGrammar_of_readRules "-" (onlyInput.reader (utf8Bytes "K -> a;\n")) rfl
      readRules_single_rule
    rw [runOptions_of_decode? rfl rfl loaded (decode?_utf8Bytes "")]
  refine ⟨?_, alone, ?_, ?_⟩
  · have loaded (input : List UInt8) :=
      loadGrammar_of_readRules "-" (ruleFile.reader input) rfl readRules_single_rule
    rw [runOptions_of_decode? rfl rfl (loaded (utf8Bytes "\n")) (decode?_utf8Bytes "\n"),
      runOptions_of_decode? rfl rfl (loaded (utf8Bytes "\n" ++ utf8Bytes "\n"))
        (decode?_utf8Bytes "\n\n")]
    decide +kernel
  · rw [List.append_nil]
    exact alone
  · have nothing : Grammar.readRules "".toList = .ok ([], []) := Grammar.readRules_of_gap .none
    rw [runOptions, loadGrammar_of_readRules "-" (onlyInput.reader []) rfl nothing]
    rfl

end BalineseChart

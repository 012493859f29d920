import BalineseChart.Proofs.Command.Records
import Mathlib.Data.List.Forall2

/-!
# Conversations and evaluations agree

A text may be put to the command as its input or in a file of sentences. A conversation
cuts its input after each line feed and keeps the ends of the lines; a file of sentences is
cut into lines without their ends. The ends are white space, however, and both trim their
lines and pass over the blank ones. So the sentences of the file are the lines of the
conversation that are not blank, trimmed (`sentencesOf_eq`).

`ShowsOutcome` says that a record has the tokens and the verdict of an outcome. By
`conversation_agrees_with_evaluation` each record does so for the outcome of its sentence,
whether that was labelled grammatical or not.
-/

namespace BalineseChart

open Text

/-! ## Lines with and without their ends -/

/-- The lines of a text without their ends, beside the pieces that end in a line feed: the
difference is white space. -/
theorem forall₂_lines_cutAfter (cs : List Char) :
    List.Forall₂ (fun line piece => ∃ ending, Blank ending ∧ piece = line ++ ending)
      (lines cs) (cutAfter (· == '\n') cs) := by
  induction cs with
  | nil => exact .nil
  | cons c rest ih =>
    by_cases lineFeed : c = '\n'
    · subst lineFeed
      rw [lines, if_pos rfl, cutAfter_cons_of_end rfl]
      exact .cons ⟨['\n'], by decide, rfl⟩ ih
    · have inner : (c == '\n') = false := beq_false_of_ne lineFeed
      rw [lines, if_neg lineFeed, cutAfter, inner, if_neg Bool.false_ne_true]
      split
      · next returned =>
        -- The carriage return and the line feed after it are the end of an empty line.
        obtain ⟨rfl, next⟩ := returned
        obtain ⟨others, rfl⟩ := List.head?_eq_some_iff.mp next
        rw [lines, if_pos rfl, cutAfter_cons_of_end rfl] at ih ⊢
        cases ih with
        | cons _ later => exact .cons ⟨['\r', '\n'], by decide, rfl⟩ later
      · generalize lines rest = found at ih
        generalize cutAfter (· == '\n') rest = pieces at ih
        cases ih with
        | nil => exact .cons ⟨[], by decide, (List.append_nil [c]).symm⟩ .nil
        | cons here later =>
          obtain ⟨ending, blank, rfl⟩ := here
          exact .cons ⟨ending, blank, rfl⟩ later

/-- Trimmed, the lines of a text are the same with and without their ends. -/
theorem map_trimmed_linesOf (text : String) :
    (linesOf text).map trimmed = (textLines text).map trimmed := by
  rw [linesOf, textLines, List.map_map, List.map_map, ← List.forall₂_eq_eq_eq,
    List.forall₂_map_left_iff, List.forall₂_map_right_iff]
  refine (forall₂_lines_cutAfter text.toList).imp ?_
  intro line piece ended
  obtain ⟨ending, blank, rfl⟩ := ended
  simp only [Function.comp_apply, trimmed, String.toList_ofList, trim_append_blank blank]

/-- The lines of a text that are not blank. -/
def spokenLines (text : String) : List String :=
  (textLines text).filter fun line => ¬ Blank line.toList

/-- The sentences of a file are the lines of its text that are not blank, trimmed. -/
theorem sentencesOf_eq (text : String) : sentencesOf text = (spokenLines text).map trimmed := by
  rw [sentencesOf, map_trimmed_linesOf, List.filter_map, spokenLines]
  congr 1
  apply List.filter_congr
  intro line _
  simp only [Function.comp_apply, trimmed_eq_empty_iff, ne_eq]

/-! ## Records and outcomes -/

/-- A record starts with the tokens of an outcome and goes on, after the chart if that is
shown, with the verdict of the outcome and with no other. -/
structure ShowsOutcome (g : Grammar) (options : Options) (outcome : Outcome) (output : String) :
    Prop where
  tokens : ∃ rest, output = "tokens: " ++ " ".intercalate outcome.tokens ++ "\n" ++ rest
  verdict : ∀ valid : Bool,
    (∃ rest, output = recordHead options (g.analyseTokens outcome.tokens) ++
      (Evaluation.verdictText valid ++ "\n") ++ rest) ↔ outcome.predicted = valid

/-- The verdict stands right after the start of a record. -/
theorem exists_record_output (g : Grammar) (options : Options) (analysis : Analysis) :
    ∃ rest, (record g options analysis).output =
      recordHead options analysis ++ (Evaluation.verdictText analysis.accepted ++ "\n") ++ rest := by
  have valid : Evaluation.verdictText true ++ "\n" = "valid\n" := rfl
  have invalid : Evaluation.verdictText false ++ "\n" = "invalid\n" := rfl
  rw [record]
  cases analysis.accepted with
  | false =>
    rw [if_neg Bool.false_ne_true, invalid]
    exact ⟨_, String.append_assoc⟩
  | true =>
    rw [if_pos rfl, valid]
    split
    · exact ⟨"\n", rfl⟩
    · split
      · exact ⟨"", String.append_empty.symm⟩
      · exact ⟨"\n", rfl⟩
      · exact ⟨_, by rw [String.append_assoc, String.append_assoc]⟩

/-- The two verdicts differ in their first letters. -/
theorem eq_of_verdictText_append {valid valid' : Bool} {rest rest' : String}
    (same : Evaluation.verdictText valid ++ rest = Evaluation.verdictText valid' ++ rest') :
    valid = valid' := by
  have first : ∀ (valid : Bool) (rest : String),
      (Evaluation.verdictText valid ++ rest).toList.head? = some (if valid then 'v' else 'i') := by
    intro valid rest
    rw [String.toList_append]
    cases valid <;> rfl
  have letters := first valid rest
  rw [same, first valid' rest'] at letters
  revert letters
  cases valid <;> cases valid' <;> simp

/-- The record of an analysis shows every outcome with the same tokens and verdict. -/
theorem showsOutcome_record {g : Grammar} {options : Options} {tokens : List String}
    {outcome : Outcome} (sameTokens : outcome.tokens = tokens)
    (sameVerdict : outcome.predicted = (g.analyseTokens tokens).accepted) :
    ShowsOutcome g options outcome (record g options (g.analyseTokens tokens)).output := by
  subst sameTokens
  obtain ⟨rest, written⟩ := exists_record_output g options (g.analyseTokens outcome.tokens)
  constructor
  · rw [written, recordHead]
    simp only [String.append_assoc]
    exact ⟨_, rfl⟩
  · intro valid
    rw [sameVerdict]
    constructor
    · intro shown
      obtain ⟨rest', written'⟩ := shown
      rw [written'] at written
      simp only [String.append_assoc] at written
      exact (eq_of_verdictText_append ((String.append_right_inj _).mp written)).symm
    · rintro rfl
      exact ⟨rest, written⟩

/-- The record of a line that is not blank and not too long shows the outcome of the
trimmed line, whichever label that has. -/
theorem showsOutcome_replyToLine {g : Grammar} {options : Options} {line : String}
    (spoken : ¬ Blank line.toList) (short : (g.tokens line).length ≤ options.limit)
    (expected : Bool) :
    ShowsOutcome g options (g.outcome expected (trimmed line)) (replyToLine g options line).output := by
  have something : trimmed line ≠ "" := mt trimmed_eq_empty_iff.mp spoken
  have recorded : (replyToLine g options line).output =
      (record g options (g.analyse line)).output := by
    rw [replyToLine, if_neg something, replyTo, g.analyseWithin_trimmed, analyseWithin_of_le short]
  rw [recorded, g.outcome_eq, g.analyse_trimmed]
  exact showsOutcome_record rfl rfl

/-! ## All lines of a text -/

/-- The records of the lines that are not too long show the outcomes, one by one. -/
def ShowOutcomes (g : Grammar) (options : Options) (reply : String → Reply) :
    List String → List Outcome → Prop :=
  List.Forall₂ fun line outcome => (g.tokens line).length ≤ options.limit →
    ShowsOutcome g options outcome (reply line).output

theorem showOutcomes_spokenLines (g : Grammar) (options : Options) (text : String)
    (expected : Bool) :
    ShowOutcomes g options (replyToLine g options) (spokenLines text)
      (((spokenLines text).map trimmed).map (g.outcome expected)) := by
  rw [ShowOutcomes, List.map_map, List.forall₂_map_right_iff, List.forall₂_same]
  intro line member short
  rw [spokenLines, List.mem_filter, decide_eq_true_eq] at member
  exact showsOutcome_replyToLine member.2 short expected

/-- If a text is held by a file and is also the input of a conversation, the sentences of the
file are the lines of the conversation that are not blank, one by one and in order, and the
record of each that is not too long shows its outcome in an evaluation, whichever of the two
files it was in. Blank lines are passed over. -/
theorem conversation_agrees_with_evaluation (g : Grammar) (options : Options) {read : FileReader}
    {path : String} {bytes : List UInt8} {text : String} (held : read path = .ok bytes)
    (decoded : decode? bytes = some text) :
    ∃ (reply : String → Reply) (sentences : List String),
      (∀ line, respond g options (utf8Bytes line) = .ok (reply line)) ∧
      converse g options (inputLines bytes) =
        ⟨String.join ((textLines text).map fun line => "> " ++ (reply line).output) ++ "> ",
          (textLines text).flatMap fun line => (reply line).errors, 0⟩ ∧
      (∀ line, Blank line.toList → reply line = ⟨"", []⟩) ∧
      readSentences read path = .ok sentences ∧
      List.Forall₂ (fun line sentence => sentence = trimmed line) (spokenLines text) sentences ∧
      ∀ others : List String,
        ShowOutcomes g options reply (spokenLines text)
          ((g.evaluate sentences others).outcomes.take sentences.length) ∧
        ShowOutcomes g options reply (spokenLines text)
          ((g.evaluate others sentences).outcomes.drop others.length) := by
  obtain rfl := decode?_eq_some_iff.mp decoded
  refine ⟨replyToLine g options, (spokenLines text).map trimmed, respond_utf8Bytes g options,
    converse_textLines g options text, ?_, ?_, ?_, fun others => ⟨?_, ?_⟩⟩
  · intro line blank
    rw [replyToLine, if_pos (trimmed_eq_empty_iff.mpr blank)]
  · rw [readSentences, held]
    simp only [decoded, sentencesOf_eq]
  · rw [List.forall₂_map_right_iff, List.forall₂_same]
    exact fun line _ => rfl
  · rw [Grammar.evaluate, List.take_left' (List.length_map _)]
    exact showOutcomes_spokenLines g options text true
  · rw [Grammar.evaluate, List.drop_left' (List.length_map _)]
    exact showOutcomes_spokenLines g options text false

/-- Every path leads to a file with this text. -/
def everywhere (text : String) : FileReader :=
  fun _ => .ok (utf8Bytes text)

/-- Two ends of lines, a line with nothing but a space that does not break, a line that is too
long, and a last line without an end. -/
theorem agreement_over_mixed_lineEnds :
    everywhere "a a\r\n\u00a0\na a a\n\tA" "sentences" =
        .ok (utf8Bytes "a a\r\n\u00a0\na a a\n\tA") ∧
      decode? (utf8Bytes "a a\r\n\u00a0\na a a\n\tA") = some "a a\r\n\u00a0\na a a\n\tA" ∧
      spokenLines "a a\r\n\u00a0\na a a\n\tA" = ["a a\r\n", "a a a\n", "\tA"] ∧
      ∃ (reply : String → Reply) (sentences : List String),
        readSentences (everywhere "a a\r\n\u00a0\na a a\n\tA") "sentences" = .ok sentences ∧
        ShowOutcomes (.ofRules .sentence (repetition "a")) { maxTokens := some 2 } reply
          ["a a\r\n", "a a a\n", "\tA"]
          (((Grammar.ofRules .sentence (repetition "a")).evaluate sentences ["b"]).outcomes.take
            sentences.length) := by
  have held : everywhere "a a\r\n\u00a0\na a a\n\tA" "sentences" =
      .ok (utf8Bytes "a a\r\n\u00a0\na a a\n\tA") := rfl
  have decoded : decode? (utf8Bytes "a a\r\n\u00a0\na a a\n\tA") =
      some "a a\r\n\u00a0\na a a\n\tA" := decode?_utf8Bytes _
  have spoken : spokenLines "a a\r\n\u00a0\na a a\n\tA" =
      ["a a\r\n", "a a a\n", "\tA"] := by
    decide +kernel
  obtain ⟨reply, sentences, -, -, -, sentencesRead, -, shown⟩ :=
    conversation_agrees_with_evaluation (.ofRules .sentence (repetition "a"))
      { maxTokens := some 2 } held decoded
  rw [spoken] at shown
  exact ⟨held, decoded, spoken, reply, sentences, sentencesRead, (shown ["b"]).1⟩

end BalineseChart

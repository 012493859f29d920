import BalineseChart.Command.Session
import BalineseChart.Evaluation
import BalineseChart.Lexicon.Balinese
import BalineseChart.Proofs.Text.Trimming

/-!
# White space only separates

The tokens of a sentence are those of its two sides, wherever it is cut at white space
(`tokens_push_append`). They depend on nothing but its words (`tokens_eq_of_words_eq`), since each
word is put into lower case as if it were the whole sentence. So which white space stands between
the words, or how much of it, has no influence on an analysis.

`white_space_only_separates` says this together with what it means for evaluations and for
conversations, which trim their sentences before they analyse them.
-/

namespace BalineseChart

open Text

namespace Grammar

variable (g : Grammar)

/-! ## Sentences that are cut apart -/

theorem tokens_ofList_append_cons {c : Char} (white : isWhiteSpace c = true)
    (cs rest : List Char) :
    g.tokens (.ofList (cs ++ c :: rest)) = g.tokens (.ofList cs) ++ g.tokens (.ofList rest) := by
  simp only [tokens, String.toList_ofList]
  rw [words_lowerCase_append_cons white, List.flatMap_append]

/-- A sentence may be cut at any white space. -/
theorem tokens_push_append {c : Char} (white : isWhiteSpace c = true) (earlier later : String) :
    g.tokens (earlier.push c ++ later) = g.tokens earlier ++ g.tokens later := by
  have cut := g.tokens_ofList_append_cons white earlier.toList later.toList
  have whole : earlier.push c ++ later = .ofList (earlier.toList ++ c :: later.toList) := by
    rw [← String.toList_inj, String.toList_append, String.toList_push, String.toList_ofList,
      ← List.append_cons]
  rw [whole, cut, String.ofList_toList, String.ofList_toList]

/-- Sentences with a space between any two have their tokens one after the other. -/
theorem tokens_intercalate (sentences : List String) :
    g.tokens (" ".intercalate sentences) = sentences.flatMap g.tokens := by
  induction sentences with
  | nil => rfl
  | cons sentence others ih =>
    rcases others with _ | ⟨next, others⟩
    · rw [String.intercalate_singleton, List.flatMap_singleton]
    · have white : isWhiteSpace ' ' = true := rfl
      have spaced : sentence ++ " " = sentence.push ' ' := by
        rw [← String.toList_inj, String.toList_append, String.toList_push]
        rfl
      rw [List.flatMap_cons, ← ih, String.intercalate_cons_cons, spaced,
        g.tokens_push_append white]

/-- Sentences with the same words have the same tokens. -/
theorem tokens_eq_of_words_eq {sentence sentence' : String}
    (same : words sentence.toList = words sentence'.toList) :
    g.tokens sentence = g.tokens sentence' := by
  rw [tokens, tokens, words_lowerCase_congr same]

/-- They also lose the same clitics. -/
theorem splitEvents_eq_of_words_eq {sentence sentence' : String}
    (same : words sentence.toList = words sentence'.toList) :
    g.splitEvents sentence = g.splitEvents sentence' := by
  rw [splitEvents, splitEvents, words_lowerCase_congr same]

/-! ## Sentences that are trimmed -/

/-- White space at the ends of a sentence has no part in its tokens. -/
theorem tokens_trimmed (sentence : String) : g.tokens (trimmed sentence) = g.tokens sentence :=
  g.tokens_eq_of_words_eq (words_trimmed sentence)

theorem splitEvents_trimmed (sentence : String) :
    g.splitEvents (trimmed sentence) = g.splitEvents sentence :=
  g.splitEvents_eq_of_words_eq (words_trimmed sentence)

theorem analyseWithin_trimmed (limit : Nat) (sentence : String) :
    g.analyseWithin limit (trimmed sentence) = g.analyseWithin limit sentence := by
  rw [analyseWithin, analyseWithin, tokens_trimmed]

theorem analyse_trimmed (sentence : String) :
    g.analyse (trimmed sentence) = g.analyse sentence := by
  rw [analyse, analyse, tokens_trimmed]

/-- The outcome of a sentence is that of its analysis, although the sentence is trimmed first. -/
theorem outcome_eq (expected : Bool) (sentence : String) :
    g.outcome expected sentence =
      ⟨trimmed sentence, (g.analyse sentence).tokens, expected, (g.analyse sentence).accepted⟩ := by
  rw [outcome, analyse_trimmed]

end Grammar

/-! ## White space between the words of a sentence -/

/-- White space around two texts and between them, of whatever kind and amount, leaves the
words of the two. -/
theorem words_spaced {before gap after : String} (blankBefore : Blank before.toList)
    (blankGap : Blank gap.toList) (separated : gap ≠ "") (blankAfter : Blank after.toList)
    (earlier later : String) :
    words (before ++ earlier ++ gap ++ later ++ after).toList =
      words earlier.toList ++ words later.toList := by
  have some_left : gap.toList ≠ [] := mt String.toList_eq_nil_iff.mp separated
  simp only [String.toList_append, List.append_assoc]
  rw [words_blank_append blankBefore, words_append_gap blankGap some_left,
    words_append_blank blankAfter]

/-- White space in a sentence does nothing but separate its words: the sentence may be cut
at it, its kind and amount do not matter, and the trimming in evaluations and conversations
changes neither verdicts nor records. -/
theorem white_space_only_separates (g : Grammar) :
    (∀ (earlier later : String) (c : Char), isWhiteSpace c = true →
      g.tokens (earlier.push c ++ later) = g.tokens earlier ++ g.tokens later) ∧
    (∀ sentence sentence' : String, words sentence.toList = words sentence'.toList →
      g.analyse sentence = g.analyse sentence') ∧
    (∀ before earlier gap gap' later after : String, Blank before.toList → Blank gap.toList →
      gap ≠ "" → Blank gap'.toList → gap' ≠ "" → Blank after.toList →
      g.analyse (before ++ earlier ++ gap ++ later ++ after) =
        g.analyse (earlier ++ gap' ++ later)) ∧
    (∀ (expected : Bool) (sentence : String),
      (g.outcome expected sentence).tokens = (g.analyse sentence).tokens ∧
        (g.outcome expected sentence).predicted = (g.analyse sentence).accepted) ∧
    ∀ (options : Options) (sentence : String),
      replyTo g options (trimmed sentence) = replyTo g options sentence := by
  have same : ∀ sentence sentence' : String, words sentence.toList = words sentence'.toList →
      g.analyse sentence = g.analyse sentence' := by
    intro sentence sentence' same
    rw [Grammar.analyse, Grammar.analyse, g.tokens_eq_of_words_eq same]
  refine ⟨fun earlier later c white => g.tokens_push_append white earlier later, same, ?_, ?_, ?_⟩
  · intro before earlier gap gap' later after blankBefore blankGap separated blankGap' separated'
      blankAfter
    apply same
    have nothing : Blank "".toList := fun _ absurd => nomatch absurd
    have tight := words_spaced nothing blankGap' separated' nothing earlier later
    rw [String.empty_append, String.append_empty] at tight
    rw [words_spaced blankBefore blankGap separated blankAfter, tight]
  · intro expected sentence
    rw [g.outcome_eq]
    exact ⟨rfl, rfl⟩
  · intro options sentence
    rw [replyTo, replyTo, g.analyseWithin_trimmed, g.splitEvents_trimmed]

/-- A capital sigma before an ideographic space, and two spellings of one sentence. -/
theorem sigma_before_white_space :
    (isWhiteSpace '\u3000' = true ∧
      Grammar.balinese.tokens ("ΟΔΟΣ".push '\u3000' ++ "ΣΟΦΟΣ") =
        Grammar.balinese.tokens "ΟΔΟΣ" ++ Grammar.balinese.tokens "ΣΟΦΟΣ") ∧
      (words "Jegeg\tputu".toList = words " Jegeg  putu\n".toList ∧
        Grammar.balinese.analyse "Jegeg\tputu" = Grammar.balinese.analyse " Jegeg  putu\n") ∧
      Blank "\t".toList ∧ Blank "\u3000 ".toList ∧ Blank "\n".toList ∧ Blank "\r\n".toList ∧
        Grammar.balinese.analyse ("\t" ++ "Jegeg" ++ "\u3000 " ++ "Putu" ++ "\r\n") =
          Grammar.balinese.analyse ("Jegeg" ++ "\n" ++ "Putu") := by
  obtain ⟨cut, sameWords, spaced, -, -⟩ := white_space_only_separates Grammar.balinese
  have white : isWhiteSpace '\u3000' = true := rfl
  obtain ⟨tab, wide, lineFeed, lineEnd⟩ : Blank "\t".toList ∧ Blank "\u3000 ".toList ∧
      Blank "\n".toList ∧ Blank "\r\n".toList := by decide
  obtain ⟨separated, separated'⟩ : "\u3000 " ≠ "" ∧ "\n" ≠ "" := by decide
  have same : words "Jegeg\tputu".toList = words " Jegeg  putu\n".toList := rfl
  exact ⟨⟨white, cut "ΟΔΟΣ" "ΣΟΦΟΣ" '\u3000' white⟩, ⟨same, sameWords _ _ same⟩,
    tab, wide, lineFeed, lineEnd,
    spaced "\t" "Jegeg" "\u3000 " "\n" "Putu" "\r\n" tab wide separated lineFeed separated'
      lineEnd⟩

end BalineseChart

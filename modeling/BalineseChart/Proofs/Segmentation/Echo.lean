import BalineseChart.Proofs.Chart.Gaps
import BalineseChart.Proofs.RoundTrip
import BalineseChart.Proofs.RuleOrder
import BalineseChart.Proofs.Segmentation.Cutting
import BalineseChart.Proofs.Text.Lowering
import Mathlib.Data.List.Basic

/-!
# Tokens as a sentence

The tokens of an analysis, with spaces between them, are a sentence again. In general it has
other tokens: what was left of a word when a clitic was cut off may end in a clitic itself,
and is then cut once more. But tokens without a gap are all known, and a known word is never
cut. So the sentence of these tokens has the same analysis (`analyse_intercalate_tokens`).

Each token is a word by itself (`LowerWord`): it is not empty, has no white space, and is in
lower case already. For a clitic this takes that no pronoun is empty.
-/

namespace BalineseChart

open Text

/-! ## Words that lowering and cutting leave alone -/

/-- Not empty, without white space, and in lower case wherever it stands. -/
structure Text.LowerWord (cs : List Char) : Prop where
  nonempty : cs ≠ []
  unspaced : Unspaced cs
  lowered : ∀ c ∈ cs, Lowered c

namespace Text

theorem LowerWord.part {cs part : List Char} (word : LowerWord cs) (nonempty : part ≠ [])
    (within : ∀ c ∈ part, c ∈ cs) : LowerWord part where
  nonempty := nonempty
  unspaced c member := word.unspaced c (within c member)
  lowered c member := word.lowered c (within c member)

theorem lowerWord_of_mem_words {cs word : List Char} (member : word ∈ words (lowerCase cs)) :
    LowerWord word := by
  obtain ⟨nonempty, unspaced, within⟩ := of_mem_words member
  exact ⟨nonempty, unspaced, fun c here => lowered_of_mem_lowerFrom (within c here)⟩

theorem LowerWord.words_lowerCase {word : List Char} (lower : LowerWord word) :
    words (lowerCase word) = [word] := by
  rw [lowerCase, lowerFrom_of_lowered lower.lowered, words_of_unspaced lower.unspaced lower.nonempty]

end Text

/-! ## Stems and clitics -/

theorem suffix_of_endsIn {word clitic : String} (ends : endsIn word clitic = true) :
    clitic.toList <:+ word.toList ∧ clitic.toList.length < word.toList.length := by
  rw [endsIn, Bool.and_eq_true, decide_eq_true_eq, List.isSuffixOf_iff_suffix] at ends
  exact ends

theorem lowerWord_stemOf {word clitic : String} (lower : LowerWord word.toList)
    (ends : endsIn word clitic = true) : LowerWord (stemOf word clitic).toList := by
  obtain ⟨-, shorter⟩ := suffix_of_endsIn ends
  rw [stemOf, String.toList_ofList]
  apply lower.part
  · rw [← List.length_pos_iff, List.length_take]
    omega
  · exact fun c member => List.mem_of_mem_take member

namespace Grammar

variable {g : Grammar}

theorem tokensOfWord_of_known {word : String} (known : g.knows word = true) :
    g.tokensOfWord word = [word] := by
  rw [tokensOfWord, if_pos known]

/-- The tokens of a word are words by themselves, if no clitic is empty. -/
theorem lowerWord_of_mem_tokensOfWord (proper : "" ∉ g.clitics) {word token : String}
    (lower : LowerWord word.toList) (member : token ∈ g.tokensOfWord word) :
    LowerWord token.toList := by
  rw [tokensOfWord] at member
  split at member
  · rwa [List.mem_singleton.mp member]
  · split at member
    · next clitic found =>
      have ends := List.find?_some found
      rcases List.mem_cons.mp member with rfl | last
      · exact lowerWord_stemOf lower ends
      · obtain rfl := List.mem_singleton.mp last
        apply lower.part
        · intro empty
          rw [String.toList_eq_nil_iff.mp empty] at found
          exact proper (List.mem_of_find?_eq_some found)
        · exact fun c here => (suffix_of_endsIn ends).1.subset here
    · rwa [List.mem_singleton.mp member]

theorem lowerWord_of_mem_tokens (proper : "" ∉ g.clitics) {sentence token : String}
    (member : token ∈ g.tokens sentence) : LowerWord token.toList := by
  obtain ⟨word, cut, within⟩ := List.mem_flatMap.mp member
  apply lowerWord_of_mem_tokensOfWord proper _ within
  rw [String.toList_ofList]
  exact lowerWord_of_mem_words cut

/-- A word in lower case is cut as a word of any sentence. -/
theorem tokens_of_lowerWord (g : Grammar) {word : String} (lower : LowerWord word.toList) :
    g.tokens word = g.tokensOfWord word := by
  rw [tokens, lower.words_lowerCase, List.flatMap_singleton, String.ofList_toList]

/-- Known tokens of a sentence, put together again, are cut into the same tokens. -/
theorem tokens_intercalate_tokens (proper : "" ∉ g.clitics) {sentence : String}
    (known : ∀ token ∈ g.tokens sentence, g.knows token = true) :
    g.tokens (" ".intercalate (g.tokens sentence)) = g.tokens sentence := by
  have kept : ∀ token ∈ g.tokens sentence, g.tokens token = [token] := by
    intro token member
    rw [g.tokens_of_lowerWord (lowerWord_of_mem_tokens proper member),
      tokensOfWord_of_known (known token member)]
  rw [g.tokens_intercalate, List.flatMap_congr kept, List.flatMap_singleton']

/-- Tokens that are not known may be cut again. -/
example :
    (ofRules .nounPhrase possessives).tokens "bukunene" = ["bukune", "ne"] ∧
      (ofRules .nounPhrase possessives).tokens "bukune ne" = ["buku", "ne", "ne"] := by
  decide +kernel

/-! ## Grammars without an empty pronoun -/

theorem empty_not_mem_clitics {rules : List Rule} (plain : PlainRules rules)
    (start : Nonterminal) : "" ∉ (ofRules start rules).clitics := by
  intro member
  rw [clitics_ofRules, mem_declaredWords] at member
  exact (plain _ member "" rfl).1 rfl

end Grammar

/-- The tokens of an analysis without gaps, put together again, have the same analysis, if
no pronoun is empty. Accepted sentences have no gaps, and no pronoun is empty in a grammar
that was read or in the built-in one. -/
theorem analyse_intercalate_tokens :
    (∀ g : Grammar, "" ∉ g.clitics → ∀ sentence : String,
      ((g.analyse sentence).accepted = true → (g.analyse sentence).gaps = []) ∧
        ((g.analyse sentence).gaps = [] →
          g.analyse (" ".intercalate (g.analyse sentence).tokens) = g.analyse sentence)) ∧
    (∀ (text : String) (g : Grammar), Grammar.ofText text = .ok g → "" ∉ g.clitics) ∧
    "" ∉ Grammar.balinese.clitics := by
  refine ⟨?_, ?_, Grammar.empty_not_mem_clitics Grammar.statable_balinese.plain .sentence⟩
  · intro g proper sentence
    refine ⟨Grammar.gaps_eq_nil_of_accepted, ?_⟩
    intro none_left
    have same := Grammar.tokens_intercalate_tokens proper (Grammar.gaps_eq_nil_iff.mp none_left)
    exact congrArg g.analyseTokens same
  · intro text g read
    rcases Grammar.exists_grammarText_of_ofText read with ⟨first, others, stated, rfl⟩
    exact Grammar.empty_not_mem_clitics (Grammar.plainRules_of_grammarText stated) _

/-- Two clitics are cut off, and the tokens are a sentence with the same analysis. -/
theorem analyse_stems_and_clitics :
    "" ∉ (Grammar.ofRules .nounPhrase possessives).clitics ∧
      ((Grammar.ofRules .nounPhrase possessives).analyse "Bukune Adine").accepted = true ∧
      ((Grammar.ofRules .nounPhrase possessives).analyse "Bukune Adine").gaps = [] ∧
      (Grammar.ofRules .nounPhrase possessives).analyse
          (" ".intercalate
            ((Grammar.ofRules .nounPhrase possessives).analyse "Bukune Adine").tokens) =
        (Grammar.ofRules .nounPhrase possessives).analyse "Bukune Adine" := by
  have proper : "" ∉ (Grammar.ofRules .nounPhrase possessives).clitics := by decide
  have accepted :
      ((Grammar.ofRules .nounPhrase possessives).analyse "Bukune Adine").accepted = true := by
    decide +kernel
  obtain ⟨closed, same⟩ := analyse_intercalate_tokens.1 _ proper "Bukune Adine"
  exact ⟨proper, accepted, closed accepted, same (closed accepted)⟩

end BalineseChart

import BalineseChart.Proofs.Lexicon.Table

/-!
# The parts of a sentence and their phrases

A subject is a noun phrase, a predicate an adjective phrase, and so on, but no rule can
rename one symbol to another: the table repeats the shapes and words of the phrases
instead. The rules `mem_rules_subject`, `mem_rules_predicate`, `mem_rules_complement`
and `mem_rules_adverbial` say that nothing was forgotten and nothing was added.

So in the chart of any tokens each of the four parts is found exactly where one of its
phrases is (`cell_parts_iff_phrases`), whatever the word lists are. An adverbial can
besides be a prepositional phrase before a phrase of time, which is no phrase itself.
-/

namespace BalineseChart

namespace Lexicon

variable {lexicon : Lexicon} {body : Production}

/-- Symbols with the same shapes and the same words have the same rules. -/
theorem mem_rules_congr {a b : Nonterminal} (shapes : shapesOf a = shapesOf b)
    (words : lexicon.vocabularyOf a = lexicon.vocabularyOf b) :
    ⟨a, body⟩ ∈ lexicon.rules ↔ ⟨b, body⟩ ∈ lexicon.rules := by
  cases body with
  | word text => rw [word_mem_rules_iff, word_mem_rules_iff, words]
  | pair left right => rw [pair_mem_rules_iff, pair_mem_rules_iff, shapes]

theorem mem_rules_subject :
    ⟨.subject, body⟩ ∈ lexicon.rules ↔ ⟨.nounPhrase, body⟩ ∈ lexicon.rules :=
  mem_rules_congr rfl rfl

theorem mem_rules_predicate :
    ⟨.predicate, body⟩ ∈ lexicon.rules ↔ ⟨.adjectivePhrase, body⟩ ∈ lexicon.rules :=
  mem_rules_congr rfl rfl

theorem mem_rules_complement :
    ⟨.complement, body⟩ ∈ lexicon.rules ↔
      ⟨.nounPhrase, body⟩ ∈ lexicon.rules ∨ ⟨.verbPhrase, body⟩ ∈ lexicon.rules ∨
        ⟨.prepositionalPhrase, body⟩ ∈ lexicon.rules := by
  cases body with
  | word text => simp [word_mem_rules_iff, vocabularyOf]
  | pair left right => simp only [pair_mem_rules_iff, shapesOf, List.mem_append, or_assoc]

/-- The one shape of an adverbial that no phrase has is that of two phrases in a row. -/
theorem mem_rules_adverbial :
    ⟨.adverbial, body⟩ ∈ lexicon.rules ↔
      (⟨.prepositionalPhrase, body⟩ ∈ lexicon.rules ∨ ⟨.timePhrase, body⟩ ∈ lexicon.rules ∨
        ⟨.numeralPhrase, body⟩ ∈ lexicon.rules) ∨
        body = .pair .prepositionalPhrase .timePhrase := by
  cases body with
  | word text => simp [word_mem_rules_iff, vocabularyOf]
  | pair left right => simp [pair_mem_rules_iff, shapesOf, or_assoc]

/-- In every chart the subject is found where the noun phrase is, the predicate where the
adjective phrase is, the complement where a noun, verb or prepositional phrase is, and
the adverbial where a prepositional phrase, a phrase of time or a numeral phrase is, or
a prepositional phrase before a phrase of time. -/
theorem cell_parts_iff_phrases (lexicon : Lexicon) (tokens : List String) {i j : Nat}
    (ordered : i ≤ j) (inside : j < tokens.length) :
    (.subject ∈ (Chart.fill lexicon.grammar tokens).cell i j ordered inside ↔
      .nounPhrase ∈ (Chart.fill lexicon.grammar tokens).cell i j ordered inside) ∧
    (.predicate ∈ (Chart.fill lexicon.grammar tokens).cell i j ordered inside ↔
      .adjectivePhrase ∈ (Chart.fill lexicon.grammar tokens).cell i j ordered inside) ∧
    (.complement ∈ (Chart.fill lexicon.grammar tokens).cell i j ordered inside ↔
      .nounPhrase ∈ (Chart.fill lexicon.grammar tokens).cell i j ordered inside ∨
      .verbPhrase ∈ (Chart.fill lexicon.grammar tokens).cell i j ordered inside ∨
      .prepositionalPhrase ∈ (Chart.fill lexicon.grammar tokens).cell i j ordered inside) ∧
    (.adverbial ∈ (Chart.fill lexicon.grammar tokens).cell i j ordered inside ↔
      (.prepositionalPhrase ∈ (Chart.fill lexicon.grammar tokens).cell i j ordered inside ∨
        .timePhrase ∈ (Chart.fill lexicon.grammar tokens).cell i j ordered inside ∨
        .numeralPhrase ∈ (Chart.fill lexicon.grammar tokens).cell i j ordered inside) ∨
      ∃ (k : Nat) (lower : i ≤ k) (upper : k < j),
        .prepositionalPhrase ∈ (Chart.fill lexicon.grammar tokens).cell i k lower
          (Nat.lt_trans upper inside) ∧
        .timePhrase ∈ (Chart.fill lexicon.grammar tokens).cell (k + 1) j upper inside) := by
  rw [← @Chart.realises_pair_iff _ tokens _ _ _ _ inside]
  simp only [mem_cell_grammar_iff ordered inside]
  refine ⟨?_, ?_, ?_, ?_⟩
  · simp only [mem_rules_subject]
  · simp only [mem_rules_predicate]
  · simp only [mem_rules_complement, or_and_right, exists_or]
  · simp only [mem_rules_adverbial, or_and_right, exists_or, exists_eq_left]

/-- Two phrases in a row are an adverbial, though they are no phrase together. -/
theorem adverbial_of_two_phrases :
    ∃ (ordered : 0 ≤ 2) (inside : 2 < ["ring", "nasi", "dibi"].length),
      .adverbial ∈
        (Chart.fill fewWords.grammar ["ring", "nasi", "dibi"]).cell 0 2 ordered inside ∧
      .prepositionalPhrase ∉
        (Chart.fill fewWords.grammar ["ring", "nasi", "dibi"]).cell 0 2 ordered inside ∧
      .timePhrase ∉
        (Chart.fill fewWords.grammar ["ring", "nasi", "dibi"]).cell 0 2 ordered inside ∧
      .numeralPhrase ∉
        (Chart.fill fewWords.grammar ["ring", "nasi", "dibi"]).cell 0 2 ordered inside := by
  refine ⟨by decide, by decide, ?_, ?_⟩
  · apply (cell_parts_iff_phrases fewWords _ _ _).2.2.2.mpr
    exact Or.inr ⟨1, by decide, by decide, by decide +kernel, by decide +kernel⟩
  · decide +kernel

end Lexicon

end BalineseChart

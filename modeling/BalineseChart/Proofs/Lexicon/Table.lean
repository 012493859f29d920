import BalineseChart.Lexicon
import BalineseChart.Proofs.Chart.Composition

/-!
# The rules of a lexicon by their heads

`Lexicon.rules` declares its rules in blocks, and a head may have several of them. This
module reads the table the other way round: `shapesOf` has the pairs and `vocabularyOf`
the words that a nonterminal may consist of. `rules_eq_flatMap` says that the table declares
these and nothing else, in the order of `Nonterminal.all` and whatever the word lists are, so
`pair_mem_rules_iff` and `word_mem_rules_iff` hold of its rules.

Nothing else of the table is needed to say what a chart of the lexicon's grammar holds:
`mem_cell_grammar_iff` asks for a rule and for a span that realises its production.
-/

namespace BalineseChart

section Blocks

variable {head a b c : Nonterminal} {pairs : List (Nonterminal × Nonterminal)}
  {words : List String} {word : String}

@[simp]
theorem pair_mem_pairRules :
    ⟨a, .pair b c⟩ ∈ pairRules head pairs ↔ head = a ∧ (b, c) ∈ pairs := by
  simp only [pairRules, List.mem_map, Rule.mk.injEq, Production.pair.injEq]
  refine ⟨fun declared => ?_, fun declared => ?_⟩
  · obtain ⟨pair, member, same, rfl, rfl⟩ := declared
    exact ⟨same, member⟩
  · obtain ⟨same, member⟩ := declared
    exact ⟨_, member, same, rfl, rfl⟩

@[simp]
theorem word_not_mem_pairRules : ⟨a, .word word⟩ ∉ pairRules head pairs := by
  simp [pairRules]

@[simp]
theorem word_mem_wordRules : ⟨a, .word word⟩ ∈ wordRules head words ↔ head = a ∧ word ∈ words := by
  simp only [wordRules, List.mem_map, Rule.mk.injEq, Production.word.injEq]
  refine ⟨fun declared => ?_, fun declared => ?_⟩
  · obtain ⟨text, member, same, rfl⟩ := declared
    exact ⟨same, member⟩
  · obtain ⟨same, member⟩ := declared
    exact ⟨_, member, same, rfl⟩

@[simp]
theorem pair_not_mem_wordRules : ⟨a, .pair b c⟩ ∉ wordRules head words := by
  simp [wordRules]

theorem pairRules_nil : pairRules head [] = [] :=
  rfl

theorem wordRules_nil : wordRules head [] = [] :=
  rfl

theorem pairRules_append (others : List (Nonterminal × Nonterminal)) :
    pairRules head (pairs ++ others) = pairRules head pairs ++ pairRules head others :=
  List.map_append

theorem wordRules_append (others : List String) :
    wordRules head (words ++ others) = wordRules head words ++ wordRules head others :=
  List.map_append

end Blocks

namespace Lexicon

/-- The two parts that a nonterminal can have, the same for every lexicon. -/
def shapesOf : Nonterminal → List (Nonterminal × Nonterminal)
  | .sentence =>
    [(.predicate, .subject), (.predComp, .subject), (.predicate, .subjComp),
     (.predCompSubj, .adverbial), (.predSubjComp, .adverbial)]
  | .predComp => [(.predicate, .complement)]
  | .subjComp => [(.subject, .complement)]
  | .predCompSubj => [(.predComp, .subject)]
  | .predSubjComp => [(.predicate, .subjComp)]
  | .predicate | .adjectivePhrase => adjectivePhraseShapes
  | .subject | .nounPhrase => nounPhraseShapes
  | .complement => nounPhraseShapes ++ verbPhraseShapes ++ prepositionalPhraseShapes
  | .adverbial =>
    prepositionalPhraseShapes ++ timePhraseShapes ++
      [(.numeralPhrase, .timePhrase), (.prepositionalPhrase, .timePhrase)]
  | .verbPhrase => verbPhraseShapes
  | .prepositionalPhrase => prepositionalPhraseShapes
  | .numeralPhrase => [(.numeralPhrase, .timePhrase)]
  | .timePhrase => timePhraseShapes
  | .adverb | .adjective | .noun | .verb | .properNoun | .pronoun | .determiner | .particle
  | .preposition | .numeral | .timeNoun | .timeAdjective => []

/-- The words that a nonterminal can be. -/
def vocabularyOf (lexicon : Lexicon) : Nonterminal → List String
  | .sentence | .predComp | .subjComp | .predCompSubj | .predSubjComp
  | .prepositionalPhrase => []
  | .predicate | .adjectivePhrase | .adjective => lexicon.adjectives
  | .subject | .nounPhrase => lexicon.nominals
  | .complement => lexicon.nominals ++ lexicon.verbs
  | .adverbial => lexicon.timeNouns ++ lexicon.numerals
  | .verbPhrase | .verb => lexicon.verbs
  | .numeralPhrase | .numeral => lexicon.numerals
  | .timePhrase | .timeNoun => lexicon.timeNouns
  | .adverb => lexicon.adverbs
  | .noun => lexicon.nouns
  | .properNoun => lexicon.properNouns
  | .pronoun => lexicon.pronouns
  | .determiner => lexicon.determiners
  | .particle => lexicon.particles
  | .preposition => lexicon.prepositions
  | .timeAdjective => lexicon.timeAdjectives

variable {lexicon : Lexicon}

/-- The blocks come nonterminal by nonterminal, with the pairs of each before its words. -/
theorem rules_eq_flatMap :
    lexicon.rules = Nonterminal.all.flatMap fun a =>
      pairRules a (shapesOf a) ++ wordRules a (lexicon.vocabularyOf a) := by
  simp only [Nonterminal.all, List.flatMap_cons, List.flatMap_nil, rules, sentenceRules, partRules,
    phraseRules, classRules, shapesOf, vocabularyOf, nominals, pairRules_append, wordRules_append,
    pairRules_nil, wordRules_nil, List.append_assoc, List.nil_append, List.append_nil]

theorem pair_mem_rules_iff {a b c : Nonterminal} :
    ⟨a, .pair b c⟩ ∈ lexicon.rules ↔ (b, c) ∈ shapesOf a := by
  simp [rules_eq_flatMap, Nonterminal.mem_all]

theorem word_mem_rules_iff {a : Nonterminal} {word : String} :
    ⟨a, .word word⟩ ∈ lexicon.rules ↔ word ∈ lexicon.vocabularyOf a := by
  simp [rules_eq_flatMap, Nonterminal.mem_all]

/-- What the chart of any tokens has over a span is what the rules make of the span. -/
theorem mem_cell_grammar_iff {tokens : List String} {i j : Nat} (ordered : i ≤ j)
    (inside : j < tokens.length) {a : Nonterminal} :
    a ∈ (Chart.fill lexicon.grammar tokens).cell i j ordered inside ↔
      ∃ body, ⟨a, body⟩ ∈ lexicon.rules ∧
        (Chart.fill lexicon.grammar tokens).Realises tokens body i j :=
  Chart.mem_cell_fill_iff_realises ordered inside

/-- A lexicon of few words. -/
def fewWords : Lexicon where
  adjectives := ["seneng"]
  adverbs := ["pisan"]
  nouns := ["nasi"]
  properNouns := []
  pronouns := ["tiang"]
  determiners := []
  particles := []
  prepositions := ["ring"]
  verbs := ["ngajeng"]
  timeNouns := ["dibi"]
  timeAdjectives := []
  numerals := []

end Lexicon

end BalineseChart

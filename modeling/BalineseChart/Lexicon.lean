import BalineseChart.Grammar

/-!
# Lexicons and their grammar

A lexicon is a list of words for each word class. `Lexicon.grammar` composes the
lists into the grammar of a sentence whose predicate is an adjective phrase:
predicate and subject, with a complement on either side of the subject, and with
an adverbial at the end if there is a complement.

A rule has no room for a third symbol and none renames a symbol, so the table
spells both out. Sentences of three and four parts go through the helpers
`predComp`, `subjComp`, `predCompSubj` and `predSubjComp`; a subject, a complement,
a predicate and an adverbial repeat the shapes and words of the phrases that they
may consist of.
-/

namespace BalineseChart

/-- The words of each class. -/
structure Lexicon where
  adjectives : List String
  adverbs : List String
  nouns : List String
  properNouns : List String
  /-- Also the bound forms that may end a word. -/
  pronouns : List String
  determiners : List String
  particles : List String
  prepositions : List String
  verbs : List String
  timeNouns : List String
  timeAdjectives : List String
  numerals : List String
deriving DecidableEq

/-- The rules that let `head` consist of each of the pairs. -/
def pairRules (head : Nonterminal) (pairs : List (Nonterminal × Nonterminal)) : List Rule :=
  pairs.map fun pair => ⟨head, .pair pair.1 pair.2⟩

/-- The rules that let `head` consist of each of the words. -/
def wordRules (head : Nonterminal) (words : List String) : List Rule :=
  words.map fun text => ⟨head, .word text⟩

/-! ## Shapes of phrases -/

/-- The two parts that a noun phrase can have. -/
def nounPhraseShapes : List (Nonterminal × Nonterminal) :=
  [(.nounPhrase, .noun), (.particle, .nounPhrase), (.nounPhrase, .determiner),
   (.nounPhrase, .pronoun), (.nounPhrase, .properNoun), (.nounPhrase, .particle),
   (.nounPhrase, .adjectivePhrase)]

/-- The two parts that a prepositional phrase can have. -/
def prepositionalPhraseShapes : List (Nonterminal × Nonterminal) :=
  [(.preposition, .nounPhrase), (.preposition, .timeAdjective), (.preposition, .timePhrase),
   (.prepositionalPhrase, .prepositionalPhrase)]

/-- The two parts that an adjective phrase can have. -/
def adjectivePhraseShapes : List (Nonterminal × Nonterminal) :=
  [(.adjectivePhrase, .adverb), (.adjectivePhrase, .adjective)]

/-- The two parts that a verb phrase can have. -/
def verbPhraseShapes : List (Nonterminal × Nonterminal) :=
  [(.verbPhrase, .nounPhrase), (.verbPhrase, .verb)]

/-- The two parts that a phrase of time can have. -/
def timePhraseShapes : List (Nonterminal × Nonterminal) :=
  [(.timePhrase, .timeNoun), (.timePhrase, .determiner)]

namespace Lexicon

/-- The words that can head a noun phrase. -/
def nominals (lexicon : Lexicon) : List String :=
  lexicon.nouns ++ lexicon.properNouns ++ lexicon.pronouns

/-- The rules of the sentence and of the helpers that hold its parts. -/
def sentenceRules : List Rule :=
  pairRules .sentence
    [(.predicate, .subject), (.predComp, .subject), (.predicate, .subjComp),
     (.predCompSubj, .adverbial), (.predSubjComp, .adverbial)] ++
  pairRules .predComp [(.predicate, .complement)] ++
  pairRules .subjComp [(.subject, .complement)] ++
  pairRules .predCompSubj [(.predComp, .subject)] ++
  pairRules .predSubjComp [(.predicate, .subjComp)]

/-- The rules of the parts of a sentence, and of adjectives and their phrases. -/
def partRules (lexicon : Lexicon) : List Rule :=
  pairRules .predicate adjectivePhraseShapes ++
  wordRules .predicate lexicon.adjectives ++
  pairRules .adjectivePhrase adjectivePhraseShapes ++
  wordRules .adjectivePhrase lexicon.adjectives ++
  wordRules .adverb lexicon.adverbs ++
  wordRules .adjective lexicon.adjectives ++
  pairRules .subject nounPhraseShapes ++
  wordRules .subject lexicon.nominals ++
  pairRules .complement nounPhraseShapes ++
  pairRules .complement verbPhraseShapes ++
  pairRules .complement prepositionalPhraseShapes ++
  wordRules .complement (lexicon.nominals ++ lexicon.verbs) ++
  pairRules .adverbial prepositionalPhraseShapes ++
  pairRules .adverbial
    (timePhraseShapes ++ [(.numeralPhrase, .timePhrase), (.prepositionalPhrase, .timePhrase)]) ++
  wordRules .adverbial lexicon.timeNouns ++
  wordRules .adverbial lexicon.numerals

/-- The rules of the remaining phrases. -/
def phraseRules (lexicon : Lexicon) : List Rule :=
  pairRules .nounPhrase nounPhraseShapes ++
  wordRules .nounPhrase lexicon.nominals ++
  pairRules .verbPhrase verbPhraseShapes ++
  wordRules .verbPhrase lexicon.verbs ++
  pairRules .prepositionalPhrase prepositionalPhraseShapes ++
  pairRules .numeralPhrase [(.numeralPhrase, .timePhrase)] ++
  wordRules .numeralPhrase lexicon.numerals ++
  pairRules .timePhrase timePhraseShapes ++
  wordRules .timePhrase lexicon.timeNouns

/-- The rules of the remaining word classes. -/
def classRules (lexicon : Lexicon) : List Rule :=
  wordRules .noun lexicon.nouns ++
  wordRules .verb lexicon.verbs ++
  wordRules .properNoun lexicon.properNouns ++
  wordRules .pronoun lexicon.pronouns ++
  wordRules .determiner lexicon.determiners ++
  wordRules .particle lexicon.particles ++
  wordRules .preposition lexicon.prepositions ++
  wordRules .numeral lexicon.numerals ++
  wordRules .timeNoun lexicon.timeNouns ++
  wordRules .timeAdjective lexicon.timeAdjectives

/-- All rules, in the order in which they are declared. -/
def rules (lexicon : Lexicon) : List Rule :=
  sentenceRules ++ lexicon.partRules ++ lexicon.phraseRules ++ lexicon.classRules

/-- The grammar of the lexicon. -/
def grammar (lexicon : Lexicon) : Grammar :=
  Grammar.ofRules .sentence lexicon.rules

end Lexicon

end BalineseChart

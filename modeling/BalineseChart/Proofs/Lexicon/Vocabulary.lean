import BalineseChart.Proofs.Grammar.Contents
import BalineseChart.Proofs.Lexicon.Table

/-!
# The nonterminals of a word

The rules of a lexicon are declared nonterminal by nonterminal, in the order of
`Nonterminal.all` (`rules_eq_flatMap`), so the heads of every word are in this order, too. They
are those of the classes in which the word is listed, however often and wherever it is listed
(`headsOfWord_of_classes`), and the word is known exactly if it is listed in one of them.
-/

namespace BalineseChart

/-- The rules of a nonterminal head a word once for each time that the word is listed. -/
theorem heads_of_blocks (head : Nonterminal) (pairs : List (Nonterminal × Nonterminal))
    (words : List String) (word : String) :
    ((pairRules head pairs ++ wordRules head words).filter fun rule =>
        rule.body = .word word).map Rule.head =
      List.replicate (words.count word) head := by
  have noPair : (pairRules head pairs).filter (fun rule => rule.body = .word word) = [] := by
    rw [List.filter_eq_nil_iff]
    intro rule member
    obtain ⟨pair, -, rfl⟩ := List.mem_map.mp member
    simp
  rw [List.filter_append, noPair, List.nil_append, wordRules, List.filter_map, List.map_map]
  simp only [Function.comp_def, Production.word.injEq, List.map_const', List.count,
    List.countP_eq_length_filter]
  rfl

/-- Of lists that each repeat one member, what is left without repeats are the members that
occur at all. -/
theorem eraseDups_flatMap_replicate {as : List Nonterminal} (distinct : as.Nodup)
    (count : Nonterminal → Nat) :
    (as.flatMap fun a => List.replicate (count a) a).eraseDups = as.filter fun a => 0 < count a := by
  induction as with
  | nil => rfl
  | cons a as ih =>
    obtain ⟨fresh, distinct⟩ := List.nodup_cons.mp distinct
    have apart : (as.flatMap fun b => List.replicate (count b) b).removeAll
        (List.replicate (count a) a) = as.flatMap fun b => List.replicate (count b) b := by
      rw [List.removeAll, List.filter_eq_self]
      intro b member
      obtain ⟨c, here, same⟩ := List.mem_flatMap.mp member
      rw [List.eq_of_mem_replicate same, Bool.not_eq_true', List.elem_eq_mem,
        decide_eq_false_iff_not]
      exact fun again => fresh (List.eq_of_mem_replicate again ▸ here)
    rw [List.flatMap_cons, List.eraseDups_append, apart, ih distinct, List.filter_cons]
    cases count a with
    | zero => rfl
    | succ n => simp [List.replicate_succ, List.eraseDups_cons]

/-- The words of a class, and the nonterminals that each of them can be. -/
structure WordClass where
  words : List String
  heads : List Nonterminal

namespace Lexicon

variable (lexicon : Lexicon)

/-- The heads of a word come as the table has them. -/
theorem headsOfWord_grammar (word : String) :
    lexicon.grammar.headsOfWord word =
      Nonterminal.all.filter fun a => word ∈ lexicon.vocabularyOf a := by
  rw [grammar, Grammar.headsOfWord_ofRules, headsOf, rules_eq_flatMap, List.filter_flatMap,
    List.map_flatMap]
  simp only [heads_of_blocks]
  rw [eraseDups_flatMap_replicate (by decide)]
  simp only [List.count_pos_iff]

/-! ## Word classes -/

/-- The classes of a lexicon. -/
def classes : List WordClass :=
  [⟨lexicon.adjectives, [.predicate, .adjectivePhrase, .adjective]⟩,
   ⟨lexicon.adverbs, [.adverb]⟩,
   ⟨lexicon.nouns, [.subject, .complement, .nounPhrase, .noun]⟩,
   ⟨lexicon.properNouns, [.subject, .complement, .nounPhrase, .properNoun]⟩,
   ⟨lexicon.pronouns, [.subject, .complement, .nounPhrase, .pronoun]⟩,
   ⟨lexicon.determiners, [.determiner]⟩,
   ⟨lexicon.particles, [.particle]⟩,
   ⟨lexicon.prepositions, [.preposition]⟩,
   ⟨lexicon.verbs, [.complement, .verbPhrase, .verb]⟩,
   ⟨lexicon.timeNouns, [.adverbial, .timePhrase, .timeNoun]⟩,
   ⟨lexicon.timeAdjectives, [.timeAdjective]⟩,
   ⟨lexicon.numerals, [.adverbial, .numeralPhrase, .numeral]⟩]

/-- A nonterminal can be the words of the classes that have it among their heads. -/
theorem mem_vocabularyOf_iff (a : Nonterminal) (word : String) :
    word ∈ lexicon.vocabularyOf a ↔
      ∃ wordClass ∈ lexicon.classes, word ∈ wordClass.words ∧ a ∈ wordClass.heads := by
  cases a <;> simp [vocabularyOf, nominals, classes]

theorem knows_grammar_iff (word : String) :
    lexicon.grammar.knows word = true ↔ ∃ a, word ∈ lexicon.vocabularyOf a := by
  rw [grammar, Grammar.knows_ofRules]
  constructor
  · intro produced
    obtain ⟨⟨a, _⟩, member, rfl⟩ := produced
    exact ⟨a, word_mem_rules_iff.mp member⟩
  · intro produced
    obtain ⟨a, listed⟩ := produced
    exact ⟨_, word_mem_rules_iff.mpr listed, rfl⟩

theorem exists_mem_heads {wordClass : WordClass} (member : wordClass ∈ lexicon.classes) :
    ∃ a, a ∈ wordClass.heads := by
  have headed : ∀ wordClass ∈ lexicon.classes, wordClass.heads ≠ [] := by simp [classes]
  exact List.exists_mem_of_ne_nil _ (headed wordClass member)

/-- The heads of a word are those of the classes in which it is listed, each once and in the
order of all nonterminals; and the word is known exactly if a class lists it. -/
theorem headsOfWord_of_classes (word : String) :
    lexicon.grammar.headsOfWord word =
      Nonterminal.all.filter (fun a =>
        ∃ wordClass ∈ lexicon.classes, word ∈ wordClass.words ∧ a ∈ wordClass.heads) ∧
    (lexicon.grammar.knows word = true ↔
      ∃ wordClass ∈ lexicon.classes, word ∈ wordClass.words) := by
  constructor
  · rw [headsOfWord_grammar]
    simp only [mem_vocabularyOf_iff]
  · rw [knows_grammar_iff]
    simp only [mem_vocabularyOf_iff]
    constructor
    · intro headed
      obtain ⟨a, wordClass, member, listed, -⟩ := headed
      exact ⟨wordClass, member, listed⟩
    · intro found
      obtain ⟨wordClass, member, listed⟩ := found
      obtain ⟨a, head⟩ := lexicon.exists_mem_heads member
      exact ⟨a, wordClass, member, listed, head⟩

/-- A word of two classes, listed twice in one of them. -/
example :
    ({ fewWords with properNouns := ["nasi", "seneng", "seneng"] } : Lexicon).grammar.headsOfWord
        "seneng" =
      [.predicate, .adjectivePhrase, .adjective, .subject, .complement, .nounPhrase,
       .properNoun] := by
  decide +kernel

end Lexicon

end BalineseChart

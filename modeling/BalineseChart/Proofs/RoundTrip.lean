import BalineseChart.Lexicon.Balinese
import BalineseChart.Proofs.Agreement
import BalineseChart.Proofs.Grammar.Printing

/-!
# Printing a grammar and reading it again

A grammar whose start symbol has a rule and whose words are plain survives being printed
and read: the result has the same start symbol, productions and nonterminals, so it
analyses every sentence alike and derives the same trees (`ofText_text`). Only the order
in which the nonterminals are listed may change, as the rules are printed in groups.

Without a rule of the start symbol the text would begin with another head, or state no
rule at all. And a word that is no name, or is one of a nonterminal, could not be read
back. Neither happens to a grammar that was read, nor to the built-in one.
-/

namespace BalineseChart.Grammar

open Format

/-- The start symbol has a rule and the words are plain, so that a text can state it all. -/
structure Statable (start : Nonterminal) (rules : List Rule) : Prop where
  headed : ∃ rule ∈ rules, rule.head = start
  plain : PlainRules rules

/-- What has been read can be printed and read again. -/
theorem statable_of_grammarText {first : Rule} {others : List Rule} {cs : List Char}
    (stated : GrammarText cs (first :: others)) : Statable first.head (first :: others) where
  headed := ⟨first, List.mem_cons_self, rfl⟩
  plain := plainRules_of_grammarText stated

theorem statable_balinese : Statable .sentence Lexicon.balinese.rules where
  headed := ⟨⟨.sentence, .pair .predicate .subject⟩, by decide +kernel, rfl⟩
  plain := by decide +kernel

/-- A rule with two parts, then the rule of its right part before that of its left one. -/
def crossed : List Rule :=
  [⟨.sentence, .pair .predicate .subject⟩, ⟨.subject, .pair .noun .determiner⟩,
   ⟨.predicate, .pair .adverb .adjective⟩]

theorem statable_crossed : Statable .sentence crossed where
  headed := ⟨_, List.mem_cons_self, rfl⟩
  plain := by decide

theorem order_rules_crossed :
    (ofRules .sentence (ofRules .sentence crossed).rules).order ≠
      (ofRules .sentence crossed).order := by
  decide +kernel

/-- Printing a grammar and reading the text gives a grammar with the same start symbol,
productions and nonterminals, and so with the same analyses and derivations. What has
been read and the built-in grammar are such grammars. The listing may change. -/
theorem ofText_text :
    (∀ start rules, Statable start rules →
      ∃ g, ofText (ofRules start rules).text = .ok g ∧
        g.start = (ofRules start rules).start ∧
        (∀ a, g.productionsOf a = (ofRules start rules).productionsOf a) ∧
        (∀ a, g.mentions a = (ofRules start rules).mentions a) ∧
        ∀ sentence, g.analyse sentence = (ofRules start rules).analyse sentence ∧
          (g.analyse sentence).tree g =
            ((ofRules start rules).analyse sentence).tree (ofRules start rules)) ∧
    (∀ text g, ofText text = .ok g →
      ∃ start rules, Statable start rules ∧ g = ofRules start rules) ∧
    (∃ start rules, Statable start rules ∧ balinese = ofRules start rules) ∧
    ∃ start rules g, Statable start rules ∧ ofText (ofRules start rules).text = .ok g ∧
      g.order ≠ (ofRules start rules).order := by
  refine ⟨?_, ?_, ⟨_, _, statable_balinese, rfl⟩, ?_⟩
  · intro start rules statable
    have productions := productionsOf_rules start rules
    have agree := agree_of_productionsOf productions
    have pairs : ∀ a, (ofRules start (ofRules start rules).rules).pairsOf a =
        (ofRules start rules).pairsOf a := by
      intro a
      rw [pairsOf, pairsOf, productions]
    refine ⟨_, ofText_text_ofRules statable.headed statable.plain, agree.start, productions,
      mentions_rules start rules, ?_⟩
    intro sentence
    exact ⟨agree.analyse_eq sentence, agree.tree_eq pairs sentence⟩
  · intro text g read
    rcases exists_grammarText_of_ofText read with ⟨first, others, stated, rfl⟩
    exact ⟨_, _, statable_of_grammarText stated, rfl⟩
  · exact ⟨_, _, _, statable_crossed,
      ofText_text_ofRules statable_crossed.headed statable_crossed.plain, order_rules_crossed⟩

/-- The built-in grammar survives being printed and read with all of its analyses, and
what is read from its text can be printed again. -/
theorem ofText_text_balinese :
    Statable .sentence Lexicon.balinese.rules ∧
      ∃ g, ofText balinese.text = .ok g ∧
        (∀ sentence, g.analyse sentence = balinese.analyse sentence) ∧
        ∃ start rules, Statable start rules ∧ g = ofRules start rules := by
  rcases ofText_text.1 .sentence Lexicon.balinese.rules statable_balinese with
    ⟨g, read, -, -, -, same⟩
  have again := ofText_text.2.1 balinese.text g read
  exact ⟨statable_balinese, g, read, fun sentence => (same sentence).1, again⟩

end BalineseChart.Grammar

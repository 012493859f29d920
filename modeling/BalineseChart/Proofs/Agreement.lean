import BalineseChart.Analysis
import BalineseChart.Proofs.Chart.Search
import BalineseChart.Proofs.Grammar.Indices

/-!
# Grammars that agree

An analysis asks little of a grammar: its start symbol, which nonterminals are heads of
a word or pair, whether a word is known, and which clitic ends a word. Grammars that
agree on these analyse every sentence alike (`Grammar.Agree.analyse_eq`), though they
may list the heads of a word or pair in different orders.

A derivation depends on the order of the pairs of each nonterminal as well. If that is
the same too, the derivations are the same (`Grammar.Agree.tree_eq`). Grammars of two
lists of rules with the same productions for each nonterminal agree in all of this
(`Grammar.agree_of_productionsOf`).
-/

namespace BalineseChart

/-- The grammars give the same answers to every question of an analysis. -/
structure Grammar.Agree (g g' : Grammar) : Prop where
  start : g.start = g'.start
  words : ∀ word a, a ∈ g.headsOfWord word ↔ a ∈ g'.headsOfWord word
  pairs : ∀ b c a, a ∈ g.headsOfPair b c ↔ a ∈ g'.headsOfPair b c
  knows : ∀ word, g.knows word = g'.knows word
  clitics : ∀ word, g.cliticOf? word = g'.cliticOf? word

/-! ## Charts -/

section Charts

variable {g g' : Grammar}

theorem Chart.wordCell_congr (words : ∀ word a, a ∈ g.headsOfWord word ↔ a ∈ g'.headsOfWord word)
    (word : String) : wordCell g word = wordCell g' word := by
  apply NonterminalSet.ext
  intro a
  rw [wordCell, wordCell, NonterminalSet.mem_ofList, NonterminalSet.mem_ofList]
  exact words word a

theorem Chart.join_congr (pairs : ∀ b c a, a ∈ g.headsOfPair b c ↔ a ∈ g'.headsOfPair b c)
    (left right : NonterminalSet) : join g left right = join g' left right := by
  apply NonterminalSet.ext
  intro a
  simp only [mem_join, pairs]

/-- The chart depends on the heads of the words and pairs only. -/
theorem Chart.fill_congr (words : ∀ word a, a ∈ g.headsOfWord word ↔ a ∈ g'.headsOfWord word)
    (pairs : ∀ b c a, a ∈ g.headsOfPair b c ↔ a ∈ g'.headsOfPair b c) (tokens : List String) :
    fill g tokens = fill g' tokens := by
  have step : fillCell g tokens = fillCell g' tokens := by
    funext d below i
    cases d with
    | zero => exact wordCell_congr words tokens[i]
    | succ d =>
      unfold fillCell
      simp only [join_congr pairs]
  rw [fill, fill, step]

end Charts

/-! ## Analyses -/

namespace Grammar.Agree

variable {g g' : Grammar}

theorem tokens_eq (agree : g.Agree g') (sentence : String) :
    g.tokens sentence = g'.tokens sentence := by
  have same : ∀ word, g.tokensOfWord word = g'.tokensOfWord word := by
    intro word
    rw [tokensOfWord, tokensOfWord, agree.knows, agree.clitics]
  unfold tokens
  simp only [same]

theorem gaps_eq (agree : g.Agree g') (tokens : List String) : g.gaps tokens = g'.gaps tokens := by
  unfold gaps
  simp only [agree.knows]

theorem analyse_eq (agree : g.Agree g') (sentence : String) :
    g.analyse sentence = g'.analyse sentence := by
  rw [analyse, analyse, analyseTokens, analyseTokens, agree.tokens_eq, agree.gaps_eq,
    Chart.fill_congr agree.words agree.pairs, agree.start]

end Grammar.Agree

/-! ## Derivations -/

section Derivations

variable {g g' : Grammar} {chart : Chart} {tokens : List String}

/-- The search depends on the pairs of the nonterminals only. -/
theorem derive_congr (pairs : ∀ a, g.pairsOf a = g'.pairsOf a) (fits : tokens.length = chart.size)
    (a : Nonterminal) {i j : Nat} (ordered : i ≤ j) (inside : j < chart.size) :
    derive g chart tokens fits a i j ordered inside =
      derive g' chart tokens fits a i j ordered inside := by
  refine derive_eq_of_splits (fun _ => True) ?_ ?_ trivial ordered inside inside
  · intro b _ i j inside inside'
    rw [Chart.splits, Chart.splits, pairs]
  · intro b left right _ declared
    exact ⟨trivial, trivial⟩

theorem reconstruct_congr (start : g.start = g'.start) (pairs : ∀ a, g.pairsOf a = g'.pairsOf a)
    (chart : Chart) (tokens : List String) :
    reconstruct g chart tokens = reconstruct g' chart tokens := by
  unfold reconstruct
  simp only [start, derive_congr pairs]

theorem Grammar.Agree.tree_eq (agree : g.Agree g') (pairs : ∀ a, g.pairsOf a = g'.pairsOf a)
    (sentence : String) : (g.analyse sentence).tree g = (g'.analyse sentence).tree g' := by
  rw [agree.analyse_eq, Analysis.tree, Analysis.tree, reconstruct_congr agree.start pairs]

end Derivations

/-! ## Grammars of lists of rules -/

/-- The same rules, in whatever order, make grammars that agree if the same clitic ends
each word. -/
theorem Grammar.agree_of_mem_iff {start : Nonterminal} {rules rules' : List Rule}
    (declared : ∀ rule, rule ∈ rules ↔ rule ∈ rules')
    (clitics : ∀ word,
      (ofRules start rules).cliticOf? word = (ofRules start rules').cliticOf? word) :
    (ofRules start rules).Agree (ofRules start rules') where
  start := by rw [start_ofRules, start_ofRules]
  words word a := by rw [mem_headsOfWord_ofRules, mem_headsOfWord_ofRules, declared]
  pairs b c a := by rw [mem_headsOfPair_ofRules, mem_headsOfPair_ofRules, declared]
  knows word := by
    rw [Bool.eq_iff_iff, knows_ofRules, knows_ofRules]
    exact exists_congr fun rule => and_congr_left fun _ => declared rule
  clitics := clitics

/-- Rules with the same productions for each nonterminal make grammars that agree. -/
theorem Grammar.agree_of_productionsOf {start : Nonterminal} {rules rules' : List Rule}
    (same : ∀ a, (ofRules start rules).productionsOf a = (ofRules start rules').productionsOf a) :
    (ofRules start rules).Agree (ofRules start rules') := by
  apply agree_of_mem_iff
  · intro rule
    rw [← @mem_productionsOf_ofRules start, same, mem_productionsOf_ofRules]
  · intro word
    rw [cliticOf?, cliticOf?, clitics, clitics, wordsOf, wordsOf, same]

end BalineseChart

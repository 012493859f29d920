import BalineseChart.Analysis
import BalineseChart.Proofs.Chart.Consistency

/-!
# What a filled chart recognises

A cell of a filled chart holds exactly the nonterminals at the roots of the derivation
trees whose words are the tokens of the cell's span, where a tree is a derivation if
it follows the list of rules that the grammar was made from. So the whole input is
accepted exactly if it is not empty and has a derivation from the start symbol.

One direction takes a confirmed tree of the cell (`Consistency`). The other is an
induction on the tree, `mem_cell_fill_of_follows`: the words of a branch are those of
its two parts, and the length of the left part's words says where the span is cut.
-/

namespace BalineseChart

namespace Chart

/-- A chart accepts what its widest cell holds, if it has one. -/
theorem accepts_iff {chart : Chart} {a : Nonterminal} :
    chart.accepts a = true ↔ ∃ nonempty : 0 < chart.size,
      a ∈ chart.cell 0 (chart.size - 1) chart.zero_le_last (last_lt_size nonempty) := by
  unfold accepts top?
  split
  · next nonempty =>
    rw [exists_prop_of_true nonempty]
    rfl
  · next empty => simp [empty]

/-- Where a branch over a span cuts it, and what its two parts then span. -/
theorem exists_cut_of_append {tokens left right : List String} {i j : Nat}
    (inside : j < tokens.length) (leftPos : 0 < left.length) (rightPos : 0 < right.length)
    (words : left ++ right = spanned tokens i j) :
    ∃ (k : Nat) (_ : i ≤ k) (_ : k < j),
      left = spanned tokens i k ∧ right = spanned tokens (k + 1) j := by
  have total := congrArg List.length words
  rw [List.length_append, length_spanned inside] at total
  have lower : i ≤ i + left.length - 1 := by omega
  have upper : i + left.length - 1 < j := by omega
  have within : i + left.length - 1 < tokens.length := Nat.lt_trans upper inside
  rw [← spanned_append tokens lower upper] at words
  have lengths : left.length = (spanned tokens i (i + left.length - 1)).length := by
    rw [length_spanned within]
    omega
  exact ⟨_, lower, upper, List.append_inj words lengths⟩

/-- A derivation of the tokens of a span puts its root in the cell of the span. -/
theorem mem_cell_fill_of_follows {start : Nonterminal} {rules : List Rule} {tokens : List String}
    {tree : Tree} (follows : tree.Follows rules) {i j : Nat} (ordered : i ≤ j)
    (inside : j < tokens.length) (words : tree.words = spanned tokens i j) :
    tree.symbol ∈ (fill (.ofRules start rules) tokens).cell i j ordered inside := by
  induction tree generalizing i j with
  | leaf a word position =>
    have single := congrArg List.length words
    rw [length_spanned inside, Tree.words_leaf, List.length_singleton] at single
    obtain rfl : i = j := by omega
    rw [spanned_self (List.getElem?_eq_getElem inside), Tree.words_leaf] at words
    rw [mem_cell_fill_self_iff inside, ← List.singleton_inj.mp words]
    exact follows
  | branch a first last left right left_ih right_ih =>
    rcases follows with ⟨rule, leftFollows, rightFollows⟩
    rw [Tree.words_branch] at words
    obtain ⟨k, lower, upper, leftWords, rightWords⟩ := exists_cut_of_append inside
      left.length_words_pos right.length_words_pos words
    exact mem_cell_fill_of_split lower upper inside rule (left_ih leftFollows lower _ leftWords)
      (right_ih rightFollows upper inside rightWords)

/-- A cell holds exactly the roots of the derivations of its span's tokens. -/
theorem mem_cell_fill_iff {start : Nonterminal} {rules : List Rule} {tokens : List String}
    {i j : Nat} (ordered : i ≤ j) (inside : j < tokens.length) {a : Nonterminal} :
    a ∈ (fill (.ofRules start rules) tokens).cell i j ordered inside ↔
      ∃ tree : Tree, tree.symbol = a ∧ tree.words = spanned tokens i j ∧ tree.Follows rules := by
  constructor
  · intro member
    obtain ⟨tree, rfl, confirmed⟩ := exists_confirmed_of_mem_cell_fill ordered inside member
    exact ⟨tree, rfl, confirmed.words_eq, confirmed.follows inside member⟩
  · intro derivation
    rcases derivation with ⟨tree, rfl, words, follows⟩
    exact mem_cell_fill_of_follows follows ordered inside words

theorem accepts_fill_iff {start : Nonterminal} {rules : List Rule} {tokens : List String}
    {a : Nonterminal} :
    (fill (.ofRules start rules) tokens).accepts a = true ↔
      1 ≤ tokens.length ∧
        ∃ tree : Tree, tree.symbol = a ∧ tree.words = tokens ∧ tree.Follows rules := by
  rw [accepts_iff]
  constructor
  · intro accepted
    rcases accepted with ⟨nonempty, member⟩
    obtain ⟨tree, root, words, follows⟩ := (mem_cell_fill_iff _ _).mp member
    rw [size_fill, spanned_all nonempty] at words
    exact ⟨nonempty, tree, root, words, follows⟩
  · intro derivation
    rcases derivation with ⟨nonempty, tree, root, words, follows⟩
    refine ⟨nonempty, (mem_cell_fill_iff _ _).mpr ⟨tree, root, ?_, follows⟩⟩
    rw [words, size_fill, spanned_all nonempty]

end Chart

/-- Filling a chart is sound and complete for derivations by the rules, in every cell;
and an input is accepted exactly if it has a token and a derivation from the start
symbol has all of its tokens as its words. -/
theorem fill_recognises_derivations (start : Nonterminal) (rules : List Rule) :
    (∀ (tokens : List String) (i j : Nat) (ordered : i ≤ j) (inside : j < tokens.length)
        (a : Nonterminal),
      a ∈ (Chart.fill (.ofRules start rules) tokens).cell i j ordered inside ↔
        ∃ tree : Tree, tree.symbol = a ∧ tree.words = spanned tokens i j ∧ tree.Follows rules) ∧
    (∀ tokens : List String,
      ((Grammar.ofRules start rules).analyseTokens tokens).accepted = true ↔
        1 ≤ tokens.length ∧
          ∃ tree : Tree, tree.symbol = start ∧ tree.words = tokens ∧ tree.Follows rules) ∧
    ∀ sentence : String,
      ((Grammar.ofRules start rules).analyse sentence).accepted = true ↔
        1 ≤ ((Grammar.ofRules start rules).tokens sentence).length ∧
          ∃ tree : Tree, tree.symbol = start ∧
            tree.words = (Grammar.ofRules start rules).tokens sentence ∧ tree.Follows rules := by
  have accepted : ∀ tokens : List String,
      ((Grammar.ofRules start rules).analyseTokens tokens).accepted = true ↔
        1 ≤ tokens.length ∧
          ∃ tree : Tree, tree.symbol = start ∧ tree.words = tokens ∧ tree.Follows rules := by
    intro tokens
    rw [← @Chart.accepts_fill_iff start, Grammar.analyseTokens, Grammar.start_ofRules]
  refine ⟨fun tokens i j ordered inside a => Chart.mem_cell_fill_iff ordered inside, accepted, ?_⟩
  intro sentence
  exact accepted _

/-- Rules for the sentences that repeat one word. -/
def repetition (word : String) : List Rule :=
  [⟨.sentence, .pair .sentence .sentence⟩, ⟨.sentence, .word word⟩]

/-- A span of the repeated word has a derivation, though the sentence around it has none. -/
theorem fill_repetition :
    ∃ (ordered : 1 ≤ 2) (inside : 2 < ["b", "a", "a", "b"].length),
      .sentence ∈ (Chart.fill (.ofRules .sentence (repetition "a")) ["b", "a", "a", "b"]).cell 1 2
        ordered inside := by
  have ordered : 1 ≤ 2 := by decide
  have inside : 2 < ["b", "a", "a", "b"].length := by decide
  refine ⟨ordered, inside, ?_⟩
  apply ((fill_recognises_derivations .sentence (repetition "a")).1 _ 1 2 ordered inside _).mpr
  refine ⟨.join .sentence (.leaf .sentence "a" 1) (.leaf .sentence "a" 2), rfl, rfl, ?_⟩
  simp [Tree.join, Tree.Follows, Tree.symbol, repetition]

end BalineseChart

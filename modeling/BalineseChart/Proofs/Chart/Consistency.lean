import BalineseChart.Chart
import BalineseChart.Proofs.Grammar.Indices
import BalineseChart.Proofs.Tree.Conformity

/-!
# Trees that a chart confirms

`chart.Confirmed g tokens tree i j` says that each branch of a tree splits its span
in a way that a search for derivations may take: the nonterminals of the two parts
are a pair that the grammar declares for the branch, and the chart has them over
the spans of the two parts. The relation asks nothing of where the chart comes from.

Confirmed trees are laid out over their span (`Confirmed.joined`, `Confirmed.words_eq`,
`Confirmed.positions_eq`). In a chart that was filled from the same grammar and tokens
each member of a cell is the root of one (`exists_confirmed_of_mem_cell_fill`), and
such a tree follows the grammar's rules (`Confirmed.follows`).
-/

namespace BalineseChart

/-- The tree carries the span from `i` to `j` and is laid out over it, and so are its parts
over theirs, and the chart and the grammar confirm each of its splits. -/
inductive Chart.Confirmed (chart : Chart) (g : Grammar) (tokens : List String) :
    Tree → Nat → Nat → Prop
  | leaf {a : Nonterminal} {word : String} {i : Nat} :
    tokens[i]? = some word → Chart.Confirmed chart g tokens (.leaf a word i) i i
  | branch {a : Nonterminal} {left right : Tree} {i k j : Nat} (lower : i ≤ k) (upper : k < j)
      (inside : j < chart.size) :
    (left.symbol, right.symbol) ∈ g.pairsOf a →
    left.symbol ∈ chart.cell i k lower (Nat.lt_trans upper inside) →
    right.symbol ∈ chart.cell (k + 1) j upper inside →
    Chart.Confirmed chart g tokens left i k → Chart.Confirmed chart g tokens right (k + 1) j →
    Chart.Confirmed chart g tokens (.branch a i j left right) i j

namespace Chart

/-! ## The layout of a confirmed tree -/

section Layout

variable {chart : Chart} {g : Grammar} {tokens : List String} {tree : Tree} {i j : Nat}

theorem Confirmed.ordered (confirmed : chart.Confirmed g tokens tree i j) : i ≤ j := by
  cases confirmed with
  | leaf found => exact Nat.le_refl i
  | branch lower upper inside pair leftMember rightMember left right =>
    exact Nat.le_trans lower (Nat.le_of_lt upper)

theorem Confirmed.first_eq (confirmed : chart.Confirmed g tokens tree i j) : tree.first = i := by
  cases confirmed <;> rfl

theorem Confirmed.last_eq (confirmed : chart.Confirmed g tokens tree i j) : tree.last = j := by
  cases confirmed <;> rfl

/-- Two confirmed parts are joined to a tree that carries the span of both. -/
theorem Confirmed.join {a : Nonterminal} {left right : Tree} {i k j : Nat} (lower : i ≤ k)
    (upper : k < j) (inside : j < chart.size) (pair : (left.symbol, right.symbol) ∈ g.pairsOf a)
    (leftMember : left.symbol ∈ chart.cell i k lower (Nat.lt_trans upper inside))
    (rightMember : right.symbol ∈ chart.cell (k + 1) j upper inside)
    (leftConfirmed : chart.Confirmed g tokens left i k)
    (rightConfirmed : chart.Confirmed g tokens right (k + 1) j) :
    chart.Confirmed g tokens (.join a left right) i j := by
  rw [Tree.join_eq_branch leftConfirmed.first_eq rightConfirmed.last_eq]
  exact .branch lower upper inside pair leftMember rightMember leftConfirmed rightConfirmed

theorem Confirmed.joined (confirmed : chart.Confirmed g tokens tree i j) : tree.Joined := by
  induction confirmed with
  | leaf found => trivial
  | branch lower upper inside pair leftMember rightMember left right left_ih right_ih =>
    refine ⟨?_, ?_, left_ih, right_ih⟩
    · rw [left.first_eq, right.last_eq]
    · rw [right.first_eq, left.last_eq]

theorem Confirmed.words_eq (confirmed : chart.Confirmed g tokens tree i j) :
    tree.words = spanned tokens i j := by
  induction confirmed with
  | leaf found => exact (spanned_self found).symm
  | branch lower upper inside pair leftMember rightMember left right left_ih right_ih =>
    rw [Tree.words_branch, left_ih, right_ih, spanned_append tokens lower upper]

theorem Confirmed.positions_eq (confirmed : chart.Confirmed g tokens tree i j) :
    tree.positions = List.range' i (j + 1 - i) := by
  induction confirmed with
  | leaf found => simp
  | @branch a left right i k j lower upper inside pair leftMember rightMember _ _ left_ih
      right_ih =>
    have next : i + (k + 1 - i) = k + 1 := by omega
    have whole : (k + 1 - i) + (j + 1 - (k + 1)) = j + 1 - i := by omega
    rw [Tree.positions_branch, left_ih, right_ih, ← whole, ← List.range'_append_1, next]

end Layout

/-! ## Filled charts -/

section Filled

variable {start : Nonterminal} {rules : List Rule} {tokens : List String}

theorem mem_cell_fill_self_iff {i : Nat} (inside : i < tokens.length) {a : Nonterminal} :
    a ∈ (fill (.ofRules start rules) tokens).cell i i (Nat.le_refl i) inside ↔
      ⟨a, .word tokens[i]⟩ ∈ rules := by
  rw [cell_fill_self, wordCell, NonterminalSet.mem_ofList, Grammar.mem_headsOfWord_ofRules]

/-- A nonterminal of a longer span has a rule for a split of it. -/
theorem exists_split_of_mem_cell_fill {i j : Nat} (ordered : i < j) (inside : j < tokens.length)
    {a : Nonterminal}
    (member : a ∈ (fill (.ofRules start rules) tokens).cell i j (Nat.le_of_lt ordered) inside) :
    ∃ (k : Nat) (lower : i ≤ k) (upper : k < j) (b c : Nonterminal),
      ⟨a, .pair b c⟩ ∈ rules ∧
      b ∈ (fill (.ofRules start rules) tokens).cell i k lower (Nat.lt_trans upper inside) ∧
      c ∈ (fill (.ofRules start rules) tokens).cell (k + 1) j upper inside := by
  obtain ⟨k, lower, upper, joined⟩ := (mem_cell_fill ordered inside).mp member
  obtain ⟨b, leftMember, c, rightMember, headed⟩ := mem_join.mp joined
  exact ⟨k, lower, upper, b, c, Grammar.mem_headsOfPair_ofRules.mp headed, leftMember, rightMember⟩

/-- A rule and a split whose parts the chart has put the rule's head in the cell. -/
theorem mem_cell_fill_of_split {i k j : Nat} (lower : i ≤ k) (upper : k < j)
    (inside : j < tokens.length) {a b c : Nonterminal} (rule : ⟨a, .pair b c⟩ ∈ rules)
    (leftMember :
      b ∈ (fill (.ofRules start rules) tokens).cell i k lower (Nat.lt_trans upper inside))
    (rightMember : c ∈ (fill (.ofRules start rules) tokens).cell (k + 1) j upper inside) :
    a ∈ (fill (.ofRules start rules) tokens).cell i j
      (Nat.le_trans lower (Nat.le_of_lt upper)) inside := by
  apply (mem_cell_fill (Nat.lt_of_le_of_lt lower upper) inside).mpr
  refine ⟨k, lower, upper, mem_join.mpr ⟨b, leftMember, c, rightMember, ?_⟩⟩
  exact Grammar.mem_headsOfPair_ofRules.mpr rule

/-- Each member of a cell is the root of a confirmed tree, by induction on the length
of the span. -/
theorem exists_confirmed_of_mem_cell_fill {i j : Nat} (ordered : i ≤ j)
    (inside : j < tokens.length) {a : Nonterminal}
    (member : a ∈ (fill (.ofRules start rules) tokens).cell i j ordered inside) :
    ∃ tree : Tree, tree.symbol = a ∧
      (fill (.ofRules start rules) tokens).Confirmed (.ofRules start rules) tokens tree i j := by
  induction length : j - i using Nat.strongRecOn generalizing i j a with
  | ind d ih =>
    rcases Nat.lt_or_eq_of_le ordered with longer | rfl
    · obtain ⟨k, lower, upper, b, c, rule, leftMember, rightMember⟩ :=
        exists_split_of_mem_cell_fill longer inside member
      obtain ⟨left, rfl, leftConfirmed⟩ :=
        ih (k - i) (by omega) lower (Nat.lt_trans upper inside) leftMember rfl
      obtain ⟨right, rfl, rightConfirmed⟩ :=
        ih (j - (k + 1)) (by omega) upper inside rightMember rfl
      exact ⟨.join a left right, rfl, .join lower upper inside
        (Grammar.mem_pairsOf_ofRules.mpr rule) leftMember rightMember leftConfirmed rightConfirmed⟩
    · exact ⟨.leaf a tokens[i] i, rfl, .leaf (List.getElem?_eq_getElem inside)⟩

/-- A confirmed tree whose root is in its own cell follows the rules: its leaves, which
no split speaks of, are the roots of one-token spans or parts of a confirmed split. -/
theorem Confirmed.follows {tree : Tree} {i j : Nat}
    (confirmed :
      (fill (.ofRules start rules) tokens).Confirmed (.ofRules start rules) tokens tree i j)
    (inside : j < tokens.length)
    (member :
      tree.symbol ∈ (fill (.ofRules start rules) tokens).cell i j confirmed.ordered inside) :
    tree.Follows rules := by
  induction confirmed with
  | @leaf a word i found =>
    have rule := (mem_cell_fill_self_iff inside).mp member
    rw [(List.getElem?_eq_some_iff.mp found).choose_spec] at rule
    exact rule
  | branch lower upper inside pair leftMember rightMember left right left_ih right_ih =>
    exact ⟨Grammar.mem_pairsOf_ofRules.mp pair, left_ih _ leftMember, right_ih _ rightMember⟩

end Filled

end Chart

end BalineseChart

import BalineseChart.Proofs.Tree.Conformity

/-!
# Laying a tree out over its words

Whether a tree follows some rules does not depend on the positions at its leaves: a tree
follows them exactly if it uses no others (`Tree.follows_iff_uses`), and a rule is used at
a node by its nonterminals and its word alone, whatever the spans are that the branches carry.
So the leaves may be numbered afresh.
`tree.placed position` numbers them from left to right, and a tree that follows the rules
then derives its own words (`Tree.derives_placed`).
-/

namespace BalineseChart.Tree

/-- Some node of the tree is licensed by the rule: a leaf has the rule's head over its
word, or a branch has it over its two parts. -/
def Uses (rule : Rule) : Tree → Prop
  | .leaf a word _ => rule = ⟨a, .word word⟩
  | .branch a _ _ left right =>
    rule = ⟨a, .pair left.symbol right.symbol⟩ ∨ left.Uses rule ∨ right.Uses rule

/-- A tree follows the rules exactly if it uses no others. -/
theorem follows_iff_uses {rules : List Rule} {tree : Tree} :
    tree.Follows rules ↔ ∀ rule, tree.Uses rule → rule ∈ rules := by
  induction tree with
  | leaf a word position => simp only [Follows, Uses, forall_eq]
  | branch a first last left right left_ih right_ih =>
    simp only [Follows, Uses, left_ih, right_ih, or_imp, forall_and, forall_eq]

/-! ## Numbering the leaves -/

/-- The tree with its leaves numbered from left to right, the first one by `position`, and the
spans of its branches to match. -/
def placed (position : Nat) : Tree → Tree
  | .leaf a word _ => .leaf a word position
  | .branch a _ _ left right =>
    .join a (left.placed position) (right.placed (position + left.words.length))

section Placed

variable (tree : Tree) (position : Nat)

@[simp]
theorem symbol_placed : (tree.placed position).symbol = tree.symbol := by
  cases tree <;> rfl

@[simp]
theorem words_placed : (tree.placed position).words = tree.words := by
  induction tree generalizing position with
  | leaf a word old => rfl
  | branch a first last left right left_ih right_ih =>
    rw [placed, join, words_branch, words_branch, left_ih, right_ih]

@[simp]
theorem first_placed : (tree.placed position).first = position := by
  induction tree generalizing position with
  | leaf a word old => rfl
  | branch a first last left right left_ih right_ih => exact left_ih position

/-- The last leaf has the number of words after the position, itself included. -/
theorem last_placed : (tree.placed position).last + 1 = position + tree.words.length := by
  induction tree generalizing position with
  | leaf a word old => rfl
  | branch a first last left right left_ih right_ih =>
    rw [words_branch, List.length_append, ← Nat.add_assoc]
    exact right_ih (position + left.words.length)

theorem positions_placed :
    (tree.placed position).positions = List.range' position tree.words.length := by
  induction tree generalizing position with
  | leaf a word old => rfl
  | branch a first last left right left_ih right_ih =>
    rw [placed, join, positions_branch, left_ih, right_ih, words_branch, List.length_append,
      List.range'_append_1]

theorem joined_placed : (tree.placed position).Joined := by
  induction tree generalizing position with
  | leaf a word old => trivial
  | branch a first last left right left_ih right_ih =>
    refine ⟨rfl, ?_, left_ih position, right_ih (position + left.words.length)⟩
    rw [first_placed, last_placed]

theorem uses_placed (rule : Rule) : (tree.placed position).Uses rule ↔ tree.Uses rule := by
  induction tree generalizing position with
  | leaf a word old => rfl
  | branch a first last left right left_ih right_ih =>
    simp only [placed, join, Uses, symbol_placed, left_ih, right_ih]

end Placed

/-- A tree that follows the rules derives its own words, once its leaves are numbered. -/
theorem derives_placed {rules : List Rule} {tree : Tree} (follows : tree.Follows rules) :
    (tree.placed 0).Derives rules tree.symbol tree.words where
  root := tree.symbol_placed 0
  span := by
    have last := tree.last_placed 0
    rw [Prod.mk.injEq]
    exact ⟨tree.first_placed 0, by omega⟩
  leaves := by
    apply List.zip_of_prod
    · exact (tree.positions_placed 0).trans List.range_eq_range'.symm
    · exact tree.words_placed 0
  follows := by
    rw [follows_iff_uses] at follows ⊢
    intro rule used
    exact follows rule ((tree.uses_placed 0 rule).mp used)
  joined := tree.joined_placed 0

end BalineseChart.Tree

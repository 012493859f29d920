import BalineseChart.Rule
import BalineseChart.Tree

/-!
# Derivation trees of a list of rules

A tree is a derivation by some rules if it `Follows` them: each leaf is licensed by
a rule for its word, each branch by a rule for the nonterminals of its two parts.
That says nothing of positions. A tree is laid out over its tokens if it is
`Joined`, its branches made of parts that lie next to each other, and its `positions`
and `words` are those of a span of the tokens.
-/

namespace BalineseChart

/-! ## Spans of a list of tokens -/

/-- The tokens of the span from `i` to `j`. -/
def spanned (tokens : List String) (i j : Nat) : List String :=
  (tokens.drop i).take (j + 1 - i)

theorem length_spanned {tokens : List String} {i j : Nat} (inside : j < tokens.length) :
    (spanned tokens i j).length = j + 1 - i := by
  rw [spanned, List.length_take, List.length_drop]
  omega

theorem spanned_self {tokens : List String} {i : Nat} {word : String}
    (found : tokens[i]? = some word) : spanned tokens i i = [word] := by
  obtain ⟨inside, rfl⟩ := List.getElem?_eq_some_iff.mp found
  rw [spanned, Nat.add_sub_cancel_left, List.drop_eq_getElem_cons inside, List.take_succ_cons,
    List.take_zero]

/-- A span is made up of the two spans that a cut after `k` leaves. -/
theorem spanned_append (tokens : List String) {i k j : Nat} (lower : i ≤ k) (upper : k < j) :
    spanned tokens i k ++ spanned tokens (k + 1) j = spanned tokens i j := by
  have cut : j + 1 - i = (k + 1 - i) + (j + 1 - (k + 1)) := by omega
  have rest : i + (k + 1 - i) = k + 1 := by omega
  rw [spanned, spanned, spanned, cut, List.take_add, List.drop_drop, rest]

theorem spanned_all {tokens : List String} (nonempty : 0 < tokens.length) :
    spanned tokens 0 (tokens.length - 1) = tokens := by
  have whole : tokens.length - 1 + 1 - 0 = tokens.length := by omega
  rw [spanned, whole, List.drop_zero, List.take_length]

namespace Tree

/-! ## Trees and rules -/

/-- The words of the leaves, from left to right. -/
def words (tree : Tree) : List String :=
  tree.leaves.map Prod.snd

/-- The positions of the leaves, from left to right. -/
def positions (tree : Tree) : List Nat :=
  tree.leaves.map Prod.fst

/-- Each leaf has a rule from its nonterminal to its word, each branch a rule from its
nonterminal to those of its two parts. -/
def Follows (rules : List Rule) : Tree → Prop
  | .leaf a word _ => ⟨a, .word word⟩ ∈ rules
  | .branch a _ _ left right =>
    ⟨a, .pair left.symbol right.symbol⟩ ∈ rules ∧ left.Follows rules ∧ right.Follows rules

/-- Each branch spans its two parts, and its right part starts where the left one ends. -/
def Joined : Tree → Prop
  | .leaf _ _ _ => True
  | .branch _ first last left right =>
    (first, last) = (left.first, right.last) ∧
      right.first = left.last + 1 ∧ left.Joined ∧ right.Joined

/-- A tree that derives all of the tokens from a nonterminal, laid out over them. -/
structure Derives (rules : List Rule) (a : Nonterminal) (tokens : List String) (tree : Tree) :
    Prop where
  root : tree.symbol = a
  span : (tree.first, tree.last) = (0, tokens.length - 1)
  leaves : tree.leaves = (List.range tokens.length).zip tokens
  follows : tree.Follows rules
  joined : tree.Joined

@[simp]
theorem words_leaf (a : Nonterminal) (word : String) (position : Nat) :
    (leaf a word position).words = [word] :=
  rfl

@[simp]
theorem words_branch (a : Nonterminal) (first last : Nat) (left right : Tree) :
    (branch a first last left right).words = left.words ++ right.words :=
  List.map_append

@[simp]
theorem positions_leaf (a : Nonterminal) (word : String) (position : Nat) :
    (leaf a word position).positions = [position] :=
  rfl

@[simp]
theorem positions_branch (a : Nonterminal) (first last : Nat) (left right : Tree) :
    (branch a first last left right).positions = left.positions ++ right.positions :=
  List.map_append

theorem length_words_pos (tree : Tree) : 0 < tree.words.length := by
  induction tree with
  | leaf a word position => exact Nat.one_pos
  | branch a first last left right left_ih right_ih =>
    rw [words_branch, List.length_append]
    omega

end Tree

end BalineseChart

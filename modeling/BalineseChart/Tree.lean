import BalineseChart.Nonterminal

/-!
# Derivation trees

A derivation tree has a word and its position at each leaf, a span and two subtrees at
each branch, and a nonterminal at both. The span of a leaf is its position. That of a
branch is stored with it, so nothing but the making of a branch ties it to the parts:
`Tree.join` takes it from them.
-/

namespace BalineseChart

/-- A derivation in which every branch has two parts. -/
inductive Tree where
  | leaf (symbol : Nonterminal) (word : String) (position : Nat)
  | branch (symbol : Nonterminal) (first last : Nat) (left right : Tree)
deriving DecidableEq

namespace Tree

/-- The nonterminal at the root. -/
def symbol : Tree → Nonterminal
  | .leaf symbol _ _ => symbol
  | .branch symbol _ _ _ _ => symbol

/-- The position at which the span of the root begins. -/
def first : Tree → Nat
  | .leaf _ _ position => position
  | .branch _ first _ _ _ => first

/-- The position at which the span of the root ends. -/
def last : Tree → Nat
  | .leaf _ _ position => position
  | .branch _ _ last _ _ => last

/-- Two parts under a nonterminal, over the span from where the one begins to where the
other ends. -/
def join (symbol : Nonterminal) (left right : Tree) : Tree :=
  .branch symbol left.first right.last left right

theorem join_eq_branch {a : Nonterminal} {left right : Tree} {i j : Nat} (begins : left.first = i)
    (ends : right.last = j) : join a left right = .branch a i j left right := by
  rw [join, begins, ends]

/-- The leaves from left to right, each with its position. -/
def leaves : Tree → List (Nat × String)
  | .leaf _ word position => [(position, word)]
  | .branch _ _ _ left right => left.leaves ++ right.leaves

/-- The number of nodes on the longest path from the root to a leaf. -/
def depth : Tree → Nat
  | .leaf _ _ _ => 1
  | .branch _ _ _ left right => 1 + max left.depth right.depth

/-- The tree and all its subtrees, each before its own parts. -/
def subtrees : Tree → List Tree
  | .leaf symbol word position => [.leaf symbol word position]
  | .branch symbol first last left right =>
    .branch symbol first last left right :: (left.subtrees ++ right.subtrees)

end Tree

end BalineseChart

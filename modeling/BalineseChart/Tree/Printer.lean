import BalineseChart.Text.Lines
import BalineseChart.Tree

/-!
# The text of a tree

A node is written in parentheses as its span and nonterminal. A leaf's word follows
on the same line; the parts of a branch follow on lines of their own, each line of
a part's text two spaces deeper. A word that holds line ends is cut at them like
any other text, at every branch above it.
-/

namespace BalineseChart.Tree

open Text

/-- The span and the nonterminal of the root. -/
def rootText (tree : Tree) : String :=
  toString tree.first ++ ".." ++ toString tree.last ++ ": " ++ tree.symbol.name

/-- Every line of a text after a line end and two spaces. -/
def indented (text : String) : String :=
  String.join ((linesOf text).map fun line => "\n  " ++ line)

/-- The text of a tree. -/
def text : Tree → String
  | .leaf symbol word position =>
    "(" ++ rootText (.leaf symbol word position) ++ " " ++ word ++ ")"
  | .branch symbol first last left right =>
    "(" ++ rootText (.branch symbol first last left right) ++ indented left.text ++
      indented right.text ++ ")"

end BalineseChart.Tree

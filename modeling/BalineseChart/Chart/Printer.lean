import BalineseChart.Chart

/-!
# The text of a chart

A chart is written from the span of the whole input down to the spans of one
token. Each length has a heading, and each span of that length a line with its
nonterminals, or with a hyphen if it has none.
-/

namespace BalineseChart.Chart

/-- The nonterminals of a cell, each after a space; a hyphen stands for none. -/
def cellText (set : NonterminalSet) : String :=
  match set.toList with
  | [] => " -"
  | as => String.join (as.map fun a => " " ++ a.name)

/-- The line of the span from `i` to `j`. -/
def spanLine (i j : Nat) (set : NonterminalSet) : String :=
  "  " ++ toString i ++ ".." ++ toString j ++ ":" ++ cellText set ++ "\n"

/-- The heading and lines of the spans of `d + 1` tokens. -/
def layerText (chart : Chart) (d : Nat) : String :=
  "Span " ++ toString (d + 1) ++ ":\n" ++
    String.join ((List.finRange (chart.size - d)).map fun i =>
      spanLine i.val (i.val + d) (chart.cell i.val (i.val + d) (Nat.le_add_right _ _) (by omega)))

/-- The text of a chart. -/
def text (chart : Chart) : String :=
  String.join ((List.range chart.size).reverse.map chart.layerText)

end BalineseChart.Chart

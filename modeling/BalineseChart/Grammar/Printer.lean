import BalineseChart.Grammar

/-!
# The text of a grammar

A grammar is written one rule to a line, under a comment that names the start
symbol and, if some nonterminals are mentioned without a rule of their own, a
comment that lists them.
-/

namespace BalineseChart.Grammar

/-- The nonterminals that are mentioned but have no rule, in order of first mention. -/
def withoutRules (g : Grammar) : List Nonterminal :=
  g.order.filter fun a => (g.productionsOf a).isEmpty

/-- The comment that lists the nonterminals without rules; empty if there are none. -/
def withoutRulesLine (g : Grammar) : String :=
  match g.withoutRules with
  | [] => ""
  | as => "// without rules:" ++ String.join (as.map fun a => " " ++ a.name) ++ "\n"

/-- The text of a grammar. -/
def text (g : Grammar) : String :=
  "// start: " ++ g.start.name ++ "\n" ++ g.withoutRulesLine ++
    String.join (g.rules.map fun rule => rule.text ++ "\n")

end BalineseChart.Grammar

import BalineseChart.Nonterminal

/-!
# Rules in two-part normal form

The right-hand side of a rule is either one word or two nonterminals. A rule's
text is the form in which a grammar text states it.
-/

namespace BalineseChart

/-- The right-hand side of a rule. -/
inductive Production where
  /-- One word. -/
  | word (text : String)
  /-- Two nonterminals next to each other. -/
  | pair (left right : Nonterminal)
deriving DecidableEq

namespace Production

/-- The word of a one-word production. -/
def word? : Production → Option String
  | .word text => some text
  | .pair _ _ => none

/-- The two nonterminals of a two-part production. -/
def pair? : Production → Option (Nonterminal × Nonterminal)
  | .word _ => none
  | .pair left right => some (left, right)

/-- The production as a grammar text states it. -/
def text : Production → String
  | .word text => text
  | .pair left right => left.name ++ " " ++ right.name

end Production

/-- The statement that `head` may consist of `body`. -/
structure Rule where
  head : Nonterminal
  body : Production
deriving DecidableEq

namespace Rule

/-- The rule as a grammar text states it. -/
def text (rule : Rule) : String :=
  rule.head.name ++ " -> " ++ rule.body.text ++ ";"

end Rule

end BalineseChart

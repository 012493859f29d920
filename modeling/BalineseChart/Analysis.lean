import BalineseChart.Derivation
import BalineseChart.Segmentation

/-!
# Analysing a sentence

The analysis of a sentence holds its tokens, their chart, the tokens that the
grammar does not know, and whether the chart has the start symbol over all of them.
-/

namespace BalineseChart

/-- A token that no rule produces. -/
structure Gap where
  position : Nat
  token : String
deriving DecidableEq

/-- What is said of a token that no rule produces. -/
def Gap.text (gap : Gap) : String :=
  "word '" ++ gap.token ++ "' at " ++ toString gap.position ++ " is not in the lexicon"

/-- The result of analysing a sentence. -/
structure Analysis where
  tokens : List String
  chart : Chart
  gaps : List Gap
  accepted : Bool
deriving DecidableEq

namespace Grammar

/-- The tokens that no rule produces, from left to right. -/
def gaps (g : Grammar) (tokens : List String) : List Gap :=
  tokens.zipIdx.filterMap fun (token, position) =>
    if g.knows token then none else some ⟨position, token⟩

/-- The analysis of a list of tokens. -/
def analyseTokens (g : Grammar) (tokens : List String) : Analysis :=
  let chart := Chart.fill g tokens
  { tokens, chart, gaps := g.gaps tokens, accepted := chart.accepts g.start }

/-- The analysis of a sentence. -/
def analyse (g : Grammar) (sentence : String) : Analysis :=
  g.analyseTokens (g.tokens sentence)

/-- The analysis of a sentence of at most `limit` tokens. -/
def analyseWithin (g : Grammar) (limit : Nat) (sentence : String) : Except ParseError Analysis :=
  let tokens := g.tokens sentence
  if limit < tokens.length then
    .error (.tooManyTokens tokens.length limit)
  else
    .ok (g.analyseTokens tokens)

end Grammar

/-- A derivation of an accepted sentence; none if it was not accepted. -/
def Analysis.tree (analysis : Analysis) (g : Grammar) : Except ParseError (Option Tree) :=
  if analysis.accepted then reconstruct g analysis.chart analysis.tokens else .ok none

end BalineseChart

import BalineseChart.Rule
import Std.Data.TreeMap

/-!
# Grammars

A grammar is a start symbol and a list of rules, held so that each consumer finds
what it asks for at once. A search for derivations walks the productions of a
nonterminal in their declared order. A chart builder asks for the heads of a word
or of a pair. Listings follow the order in which the nonterminals were first
mentioned, the start symbol first.

`Grammar.ofRules` builds all of these in one pass over the rules. A production may
be declared twice for one head and is then kept twice; the heads of a word or pair
are kept once, in the order of their first rule.
-/

namespace BalineseChart

open Std (TreeMap)

/-! ## Pairs of nonterminals as keys -/

/-- The position of a pair in a listing of all pairs, the left part first. -/
def pairIndex (pair : Nonterminal × Nonterminal) : Nat :=
  pair.1.index * 27 + pair.2.index

/-- The order of pairs: by their left parts, then by their right parts. -/
def comparePairs (p q : Nonterminal × Nonterminal) : Ordering :=
  compare (pairIndex p) (pairIndex q)

theorem pairIndex_inj {p q : Nonterminal × Nonterminal} : pairIndex p = pairIndex q ↔ p = q := by
  refine ⟨fun same => ?_, fun same => same ▸ rfl⟩
  have small := p.2.index_lt
  have small' := q.2.index_lt
  unfold pairIndex at same
  have left : p.1.index = q.1.index := by omega
  have right : p.2.index = q.2.index := by omega
  exact Prod.ext (Nonterminal.index_inj.mp left) (Nonterminal.index_inj.mp right)

instance : Std.TransCmp comparePairs where
  eq_swap := by
    intro p q
    unfold comparePairs
    exact Std.OrientedOrd.eq_swap
  isLE_trans := by
    intro p q r
    unfold comparePairs
    exact Std.TransOrd.isLE_trans

instance : Std.LawfulEqCmp comparePairs where
  compare_self := by
    intro p
    unfold comparePairs
    exact Std.ReflOrd.compare_self
  eq_of_compare same := pairIndex_inj.mp (Std.LawfulEqOrd.eq_of_compare same)

/-! ## The type and its construction -/

/-- A start symbol and the rules that were declared for it, indexed. -/
structure Grammar where
  /-- The nonterminal that a whole sentence must have. -/
  start : Nonterminal
  /-- Every nonterminal with an entry in `productions`, in order of first mention. -/
  order : List Nonterminal
  /-- The productions of each mentioned nonterminal, in declared order. -/
  productions : TreeMap Nonterminal (List Production)
  /-- The heads of each word that some rule produces. -/
  byWord : TreeMap String (List Nonterminal)
  /-- The heads of each pair that some rule produces. -/
  byPair : TreeMap (Nonterminal × Nonterminal) (List Nonterminal) comparePairs

/-- The list with `a` at its end, unless it has `a` already. -/
def pushNew (as : List Nonterminal) (a : Nonterminal) : List Nonterminal :=
  if a ∈ as then as else as ++ [a]

namespace Grammar

/-- The grammar with an entry for `a`, which has no productions if the entry is new. -/
def mention (g : Grammar) (a : Nonterminal) : Grammar :=
  if g.productions.contains a then g
  else { g with order := g.order ++ [a], productions := g.productions.insert a [] }

/-- The grammar without rules. -/
def blank (start : Nonterminal) : Grammar :=
  mention ⟨start, [], ∅, ∅, ∅⟩ start

/-- The grammar with an entry for the head of a production and its parts, and the
head listed under the word or pair that it produces. -/
def indexHead (g : Grammar) (head : Nonterminal) : Production → Grammar
  | .word text =>
    let g := g.mention head
    { g with byWord := g.byWord.alter text fun heads => some (pushNew (heads.getD []) head) }
  | .pair left right =>
    let g := ((g.mention head).mention left).mention right
    { g with
      byPair := g.byPair.alter (left, right) fun heads => some (pushNew (heads.getD []) head) }

/-- The grammar with one more rule. -/
def addRule (g : Grammar) (rule : Rule) : Grammar :=
  let g := g.indexHead rule.head rule.body
  { g with
    productions := g.productions.alter rule.head fun bodies => some (bodies.getD [] ++ [rule.body]) }

/-- The grammar of a start symbol and a list of rules. -/
def ofRules (start : Nonterminal) (rules : List Rule) : Grammar :=
  rules.foldl addRule (blank start)

/-! ## Questions -/

/-- Whether the grammar mentions a nonterminal. -/
def mentions (g : Grammar) (a : Nonterminal) : Bool :=
  g.productions.contains a

/-- The productions of a nonterminal, in declared order. -/
def productionsOf (g : Grammar) (a : Nonterminal) : List Production :=
  g.productions.getD a []

/-- The pairs that a nonterminal produces, in declared order. -/
def pairsOf (g : Grammar) (a : Nonterminal) : List (Nonterminal × Nonterminal) :=
  (g.productionsOf a).filterMap Production.pair?

/-- The words that a nonterminal produces, in declared order. -/
def wordsOf (g : Grammar) (a : Nonterminal) : List String :=
  (g.productionsOf a).filterMap Production.word?

/-- The nonterminals that produce a word, in the order of their first rule for it. -/
def headsOfWord (g : Grammar) (word : String) : List Nonterminal :=
  g.byWord.getD word []

/-- The nonterminals that produce a pair, in the order of their first rule for it. -/
def headsOfPair (g : Grammar) (left right : Nonterminal) : List Nonterminal :=
  g.byPair.getD (left, right) []

/-- Whether some rule produces the word. -/
def knows (g : Grammar) (word : String) : Bool :=
  g.byWord.contains word

/-- The bound forms that may end a word: the pronouns, in declared order. -/
def clitics (g : Grammar) : List String :=
  g.wordsOf .pronoun

/-- The rules of one nonterminal, in declared order. -/
def rulesOf (g : Grammar) (a : Nonterminal) : List Rule :=
  (g.productionsOf a).map (Rule.mk a)

/-- The rules, grouped by their heads in order of first mention. -/
def rules (g : Grammar) : List Rule :=
  g.order.flatMap g.rulesOf

/-- The number of rules, repeats included. -/
def ruleCount (g : Grammar) : Nat :=
  g.productions.foldl (fun count _ bodies => count + bodies.length) 0

end Grammar

end BalineseChart

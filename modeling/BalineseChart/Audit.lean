import BalineseChart.Grammar
import BalineseChart.NonterminalSet

/-!
# Auditing a grammar

An audit lists the nonterminals that derive no words, the nonterminals that no
derivation from the start symbol mentions, and the productions that are declared
again for the same head. Each of the three lists follows the order in which the
grammar first mentions its nonterminals.

`productive` and `reachable` are searches that collect nonterminals in a set, and
end because the set loses room whenever it gains a member.
-/

namespace BalineseChart

/-- A finding of an audit. -/
inductive Issue where
  /-- The nonterminal derives no words, so no chart can have it. -/
  | unproductive (symbol : Nonterminal)
  /-- No derivation from the start symbol mentions the nonterminal. -/
  | unreachable (symbol : Nonterminal)
  /-- The production is declared for the nonterminal once more. -/
  | duplicate (symbol : Nonterminal) (body : Production)
deriving DecidableEq

/-- The wording of a finding. -/
def Issue.text : Issue → String
  | .unproductive symbol => symbol.name ++ " derives no words"
  | .unreachable symbol => symbol.name ++ " is unreachable from the start symbol"
  | .duplicate symbol body => "duplicate rule " ++ symbol.name ++ " -> " ++ body.text

namespace Grammar

/-! ## Productive nonterminals -/

/-- Whether a production is a word or a pair of known productive nonterminals. -/
def yields (productive : NonterminalSet) : Production → Bool
  | .word _ => true
  | .pair left right => productive.contains left && productive.contains right

/-- The set with the nonterminal, if it is not a member and a production of it yields
words. -/
def growWith (g : Grammar) (productive : NonterminalSet) (a : Nonterminal) : NonterminalSet :=
  if productive.contains a then productive
  else if (g.productionsOf a).any (yields productive) then productive.insert a
  else productive

/-- One round over all nonterminals, in which each new member counts at once. -/
def growAll (g : Grammar) (productive : NonterminalSet) : NonterminalSet :=
  g.order.foldl g.growWith productive

theorem subset_growWith {g : Grammar} {productive : NonterminalSet} {a b : Nonterminal}
    (member : b ∈ productive) : b ∈ g.growWith productive a := by
  unfold growWith
  split
  · exact member
  · split
    · exact NonterminalSet.mem_insert.mpr (Or.inl member)
    · exact member

theorem subset_foldl_growWith {g : Grammar} {as : List Nonterminal} {productive : NonterminalSet}
    {b : Nonterminal} (member : b ∈ productive) : b ∈ as.foldl g.growWith productive := by
  induction as generalizing productive with
  | nil => exact member
  | cons a as ih => exact ih (subset_growWith member)

/-- The members of a set and all that rounds can add to it. -/
def saturate (g : Grammar) (productive : NonterminalSet) : NonterminalSet :=
  if productive = g.growAll productive then productive else g.saturate (g.growAll productive)
termination_by productive.room
decreasing_by
  next grown =>
    exact NonterminalSet.room_lt_of_subset (fun _ => subset_foldl_growWith) grown

/-- The nonterminals that derive words. -/
def productive (g : Grammar) : NonterminalSet :=
  g.saturate ∅

/-! ## Reachable nonterminals -/

/-- The nonterminals of the pairs that a nonterminal produces. -/
def partsOf (g : Grammar) (a : Nonterminal) : List Nonterminal :=
  (g.pairsOf a).flatMap fun pair => [pair.1, pair.2]

/-- The nonterminals seen so far and all that can be reached from those still to visit. -/
def reach (g : Grammar) (seen : NonterminalSet) : List Nonterminal → NonterminalSet
  | [] => seen
  | a :: others =>
    if a ∈ seen then g.reach seen others
    else g.reach (seen.insert a) (g.partsOf a ++ others)
termination_by pending => (seen.room, pending.length)
decreasing_by
  · exact Prod.Lex.right _ (Nat.lt_succ_self _)
  · next fresh => exact Prod.Lex.left _ _ (NonterminalSet.room_insert_lt fresh)

/-- The nonterminals that a derivation from the start symbol can mention. -/
def reachable (g : Grammar) : NonterminalSet :=
  g.reach ∅ [g.start]

/-! ## The audit -/

/-- The members of a list that occurred before, in the list itself or in `seen`, each
as often as it occurs again. -/
def repeatsAfter (seen : List Production) : List Production → List Production
  | [] => []
  | body :: others =>
    if body ∈ seen then body :: repeatsAfter seen others else repeatsAfter (body :: seen) others

/-- The productions that are declared again for a nonterminal. -/
def repeatsOf (g : Grammar) (a : Nonterminal) : List Production :=
  repeatsAfter [] (g.productionsOf a)

/-- The findings about a grammar. -/
def audit (g : Grammar) : List Issue :=
  let productive := g.productive
  let reachable := g.reachable
  (g.order.filter (!productive.contains ·)).map .unproductive ++
    (g.order.filter (!reachable.contains ·)).map .unreachable ++
    g.order.flatMap fun a => (g.repeatsOf a).map (.duplicate a)

end Grammar

end BalineseChart

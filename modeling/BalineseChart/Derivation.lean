import BalineseChart.Chart
import BalineseChart.Tree

/-!
# A derivation from a chart

`reconstruct` finds one derivation tree in a chart. At each span it tries the pairs
of the nonterminal in declared order, and for each pair the places to cut the span
from right to left, so that the left part is as long as possible. A split is tried
if the chart has both parts of the pair on the two sides of the cut, and the first
split whose two sides can be derived is taken.

A chart that was filled from the same grammar and tokens never needs a second try.
A chart from elsewhere may, and if every split of a span fails, the failure of the
last one is the failure of the span; a span without a split to try fails itself.
-/

namespace BalineseChart

/-- Why an input has no analysis or a chart no derivation. -/
inductive ParseError where
  /-- The chart has the nonterminal over the span but no split of it. -/
  | inconsistent (symbol : Nonterminal) (first last : Nat)
  /-- The input has more tokens than are allowed. -/
  | tooManyTokens (count limit : Nat)
  /-- The chart is not a chart of as many tokens. -/
  | mismatch (size count : Nat)
deriving DecidableEq

/-- The wording of a failure. -/
def ParseError.message : ParseError → String
  | .inconsistent symbol first last =>
    "chart has " ++ symbol.name ++ " over " ++ toString first ++ ".." ++ toString last ++
      " but no derivation reproduces it"
  | .tooManyTokens count limit =>
    "input has " ++ toString count ++ " tokens, more than the limit of " ++ toString limit
  | .mismatch size count =>
    "chart covers " ++ toString size ++ " tokens but " ++ toString count ++ " tokens were given"

/-! ## Splits of a span -/

/-- A pair of nonterminals and a place to cut the span from `i` to `j`, after `cut`. -/
structure Split (i j : Nat) where
  left : Nonterminal
  right : Nonterminal
  cut : Nat
  lower : i ≤ cut
  upper : cut < j
deriving DecidableEq

/-- The places to cut the span from `i` to `j`, from right to left. -/
def cuts (i j : Nat) : List { k : Nat // i ≤ k ∧ k < j } :=
  (List.finRange (j - i)).reverse.map fun s => ⟨i + s.val, by omega⟩

/-- Whether the chart has both parts of a pair on the two sides of a cut. -/
def Chart.confirms (chart : Chart) {i j : Nat} (inside : j < chart.size) (split : Split i j) : Bool :=
  (chart.cell i split.cut split.lower (Nat.lt_trans split.upper inside)).contains split.left &&
    (chart.cell (split.cut + 1) j split.upper inside).contains split.right

/-- The splits of a span into a pair of its nonterminal that the chart confirms, in
the order in which they are tried. -/
def Chart.splits (chart : Chart) (g : Grammar) (a : Nonterminal) {i j : Nat}
    (inside : j < chart.size) : List (Split i j) :=
  (g.pairsOf a).flatMap fun pair =>
    ((cuts i j).map fun cut => ⟨pair.1, pair.2, cut.1, cut.2.1, cut.2.2⟩).filter
      (chart.confirms inside)

/-! ## The search -/

/-- The first success of an attempt in a list, or else the last failure; `failure` is
the failure of the empty list. -/
def firstSuccess {α β ε : Type} (attempt : α → Except ε β) (failure : ε) : List α → Except ε β
  | [] => .error failure
  | x :: others =>
    match attempt x with
    | .ok result => .ok result
    | .error failure' => firstSuccess attempt failure' others

/-- A derivation of `a` over the span from `i` to `j`. -/
def derive (g : Grammar) (chart : Chart) (tokens : List String) (fits : tokens.length = chart.size)
    (a : Nonterminal) (i j : Nat) (ordered : i ≤ j) (inside : j < chart.size) :
    Except ParseError Tree :=
  if i = j then
    .ok (.leaf a (tokens.get ⟨i, by omega⟩) i)
  else
    firstSuccess (fun split : Split i j =>
        match derive g chart tokens fits split.left i split.cut split.lower
            (Nat.lt_trans split.upper inside) with
        | .error failure => .error failure
        | .ok left =>
          match derive g chart tokens fits split.right (split.cut + 1) j split.upper inside with
          | .error failure => .error failure
          | .ok right => .ok (.join a left right))
      (.inconsistent a i j) (chart.splits g a inside)
termination_by j - i
decreasing_by
  · have := split.upper
    have := split.lower
    omega
  · have := split.upper
    have := split.lower
    omega

theorem Chart.size_pos_of_accepts {chart : Chart} {a : Nonterminal} (accepted : chart.accepts a) :
    0 < chart.size := by
  unfold accepts top? at accepted
  split at accepted
  · assumption
  · simp at accepted

/-- A derivation of the grammar's start symbol over the whole chart, or none if the
chart does not have it there. -/
def reconstruct (g : Grammar) (chart : Chart) (tokens : List String) :
    Except ParseError (Option Tree) :=
  if fits : tokens.length = chart.size then
    if accepted : chart.accepts g.start then
      have nonempty := Chart.size_pos_of_accepts accepted
      match derive g chart tokens fits g.start 0 (chart.size - 1) chart.zero_le_last
          (Chart.last_lt_size nonempty) with
      | .error failure => .error failure
      | .ok tree => .ok (some tree)
    else
      .ok none
  else
    .error (.mismatch chart.size tokens.length)

end BalineseChart

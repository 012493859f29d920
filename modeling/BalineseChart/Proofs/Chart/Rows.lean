import BalineseChart.Analysis
import BalineseChart.Chart.Printer

/-!
# Charts in rows

A chart can be kept as a list of rows, one for each position, with a cell for each span that
starts there: the cell of the span from `i` to `j` is number `j - i` of row `i`. Nothing in such a
table keeps an access from asking for a span, a position or a difference that does not exist. So
every access here is checked, and one that has no result is a `Fault`, which ends the routine
that made it.

The routines that build, fill, print and search charts are written down once more over such
tables, with every position and every difference computed as it is needed: how far the starts of
spans of some length go, where such a span ends, which cell of a row is meant. `Chart.rows` is
the table of a chart. What the routines have to do with those on charts, in which a span comes
with a proof that it exists, is shown in `BalineseChart.Proofs.Chart.Rows.Filling` and
`BalineseChart.Proofs.Chart.Rows.Searching`.
-/

namespace BalineseChart

/-- Why an access has no result. -/
inductive Fault where
  /-- The table has no cell for the span. -/
  | noCell (cause : NoCell)
  /-- The list is too short to have anything at the position. -/
  | beyondEnd (position size : Nat)
  /-- The number is too small to take the other from it. -/
  | belowZero (number taken : Nat)
deriving DecidableEq

/-- What a list has at a position. -/
def itemAt {α : Type} (items : List α) (position : Nat) : Except Fault α :=
  match items[position]? with
  | some item => .ok item
  | none => .error (.beyondEnd position items.length)

/-- The difference of two numbers. -/
def minus (number taken : Nat) : Except Fault Nat :=
  if taken ≤ number then .ok (number - taken) else .error (.belowZero number taken)

/-- A table with a row of cells for each position. -/
structure Rows where
  cells : List (List NonterminalSet)
deriving DecidableEq

namespace Rows

/-- The number of positions. -/
def size (rows : Rows) : Nat :=
  rows.cells.length

/-! ## Single cells -/

/-- The row of a position, with nothing in its cells. -/
def blankRow (size i : Nat) : Except Fault (List NonterminalSet) := do
  let width ← minus size i
  return List.replicate width ∅

/-- The table with nothing in its cells. -/
def blank (size : Nat) : Except Fault Rows := do
  let cells ← (List.range size).mapM (blankRow size)
  return ⟨cells⟩

/-- The nonterminals of the span from `i` to `j`. -/
def cell (rows : Rows) (i j : Nat) : Except Fault NonterminalSet :=
  if i ≤ j ∧ j < rows.size then do
    let row ← itemAt rows.cells i
    let offset ← minus j i
    itemAt row offset
  else
    .error (.noCell ⟨i, j, rows.size⟩)

/-- Whether the span from `i` to `j` has a nonterminal. -/
def contains (rows : Rows) (i j : Nat) (a : Nonterminal) : Except Fault Bool := do
  let set ← rows.cell i j
  return set.contains a

/-- The table with one more nonterminal for the span from `i` to `j`. -/
def add (rows : Rows) (i j : Nat) (a : Nonterminal) : Except Fault Rows := do
  let row ← itemAt rows.cells i
  let offset ← minus j i
  let set ← itemAt row offset
  return ⟨rows.cells.set i (row.set offset (set.insert a))⟩

/-- The nonterminals of the whole input, if it has a token. -/
def top? (rows : Rows) : Except Fault (Option NonterminalSet) :=
  if rows.size = 0 then
    return none
  else do
    let last ← minus rows.size 1
    let set ← rows.cell 0 last
    return some set

/-- Whether the whole input has the nonterminal. -/
def accepts (rows : Rows) (a : Nonterminal) : Except Fault Bool := do
  let top ← rows.top?
  return top.any (·.contains a)

/-! ## Spans -/

/-- The position at which a span of some length from `i` ends. -/
def lastOf (i length : Nat) : Except Fault Nat :=
  minus (i + length) 1

/-- The positions at which the spans of some length start. -/
def starts (size length : Nat) : Except Fault (List Nat) := do
  let room ← minus size length
  return List.range (room + 1)

/-- A span by its length and start. -/
def spanFrom (length i : Nat) : Except Fault (Nat × Nat) := do
  let last ← lastOf i length
  return (i, last)

/-- The spans of some length, from left to right. -/
def spansOfLength (size length : Nat) : Except Fault (List (Nat × Nat)) := do
  let starts ← starts size length
  starts.mapM (spanFrom length)

/-- All spans, the shorter first. -/
def spans (rows : Rows) : Except Fault (List (Nat × Nat)) := do
  let layers ← (List.range' 1 rows.size).mapM (spansOfLength rows.size)
  return layers.flatten

/-! ## The text -/

/-- The line of a span by its length and start. -/
def lineFrom (rows : Rows) (length i : Nat) : Except Fault String := do
  let last ← lastOf i length
  let set ← rows.cell i last
  return Chart.spanLine i last set

/-- The heading and lines of the spans of some length. -/
def textOfLength (rows : Rows) (length : Nat) : Except Fault String := do
  let starts ← starts rows.size length
  let lines ← starts.mapM (rows.lineFrom length)
  return "Span " ++ toString length ++ ":\n" ++ String.join lines

/-- The text of a table, from the longest span down. -/
def text (rows : Rows) : Except Fault String := do
  let layers ← (List.range' 1 rows.size).reverse.mapM rows.textOfLength
  return String.join layers

/-! ## Filling -/

/-- The table with more nonterminals for the span from `i` to `j`. -/
def addAll (rows : Rows) (i j : Nat) (as : List Nonterminal) : Except Fault Rows :=
  as.foldlM (fun rows a => rows.add i j a) rows

/-- The table with the heads of the word at a position. -/
def addWord (g : Grammar) (rows : Rows) (word : String × Nat) : Except Fault Rows :=
  rows.addAll word.2 word.2 (g.headsOfWord word.1)

/-- The heads of the pairs of `b` and a nonterminal of the span from `k + 1` to `j`. -/
def headsWith (g : Grammar) (rows : Rows) (k j : Nat) (b : Nonterminal) :
    Except Fault (List Nonterminal) := do
  let right ← rows.cell (k + 1) j
  return right.toList.flatMap fun c => g.headsOfPair b c

/-- The table with what a cut after `k` gives to the span from `i` to `j`. -/
def addCut (g : Grammar) (i j : Nat) (rows : Rows) (k : Nat) : Except Fault Rows := do
  let left ← rows.cell i k
  let found ← left.toList.mapM (headsWith g rows k j)
  rows.addAll i j found.flatten

/-- The table with what all cuts give to the span of some length from `i`. -/
def fillSpan (g : Grammar) (length : Nat) (rows : Rows) (i : Nat) : Except Fault Rows := do
  let j ← lastOf i length
  (List.range' i (j - i)).foldlM (addCut g i j) rows

/-- The table with the spans of some length filled. -/
def fillLength (g : Grammar) (size : Nat) (rows : Rows) (length : Nat) : Except Fault Rows := do
  let starts ← starts size length
  starts.foldlM (fillSpan g length) rows

/-- The table of a list of tokens. -/
def fill (g : Grammar) (tokens : List String) : Except Fault Rows := do
  let rows ← blank tokens.length
  let rows ← tokens.zipIdx.foldlM (addWord g) rows
  (List.range' 2 (tokens.length - 1)).foldlM (fillLength g tokens.length) rows

/-! ## Searching -/

/-- Whether the table has both parts of a pair on the two sides of a cut; the right side is not
looked at if the left one does not fit. -/
def confirms (rows : Rows) {i j : Nat} (split : Split i j) : Except Fault Bool := do
  let left ← rows.contains i split.cut split.left
  if left then rows.contains (split.cut + 1) j split.right else return false

/-- The splits of a span into a pair of its nonterminal, confirmed or not. -/
def candidates (g : Grammar) (a : Nonterminal) (i j : Nat) : List (Split i j) :=
  (g.pairsOf a).flatMap fun pair =>
    (cuts i j).map fun ⟨cut, lower, upper⟩ => ⟨pair.1, pair.2, cut, lower, upper⟩

/-- The first success of an attempt in a list, or else the last failure; an attempt may be left
out, and a fault in one ends the search. -/
def firstFound {α β ε : Type} (attempt : α → Except Fault (Option (Except ε β))) (failure : ε) :
    List α → Except Fault (Except ε β)
  | [] => return .error failure
  | x :: others => do
    let outcome ← attempt x
    match outcome with
    | none => firstFound attempt failure others
    | some (.ok result) => return .ok result
    | some (.error failure') => firstFound attempt failure' others

/-- A derivation of `a` over the span from `i` to `j`. -/
def derive (g : Grammar) (rows : Rows) (tokens : List String) (a : Nonterminal) (i j : Nat) :
    Except Fault (Except ParseError Tree) :=
  if i = j then do
    let word ← itemAt tokens i
    return .ok (.leaf a word i)
  else
    firstFound (fun split : Split i j => do
        let confirmed ← rows.confirms split
        if confirmed then
          let left ← derive g rows tokens split.left i split.cut
          match left with
          | .error failure => return some (.error failure)
          | .ok left =>
            let right ← derive g rows tokens split.right (split.cut + 1) j
            match right with
            | .error failure => return some (.error failure)
            | .ok right => return some (.ok (.join a left right))
        else
          return none)
      (.inconsistent a i j) (candidates g a i j)
termination_by j - i
decreasing_by
  · have := split.upper
    have := split.lower
    omega
  · have := split.upper
    have := split.lower
    omega

/-- A derivation of the grammar's start symbol over the whole table, or none if the table does
not have it there. -/
def reconstruct (g : Grammar) (rows : Rows) (tokens : List String) :
    Except Fault (Except ParseError (Option Tree)) :=
  if rows.size ≠ tokens.length then
    return .error (.mismatch rows.size tokens.length)
  else do
    let accepted ← rows.accepts g.start
    if accepted then
      let last ← minus tokens.length 1
      let found ← derive g rows tokens g.start 0 last
      return found.map some
    else
      return .ok none

end Rows

end BalineseChart

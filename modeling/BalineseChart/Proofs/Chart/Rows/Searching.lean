import BalineseChart.Proofs.Chart.Rows.Filling
import BalineseChart.Proofs.Chart.Search
import Mathlib.Data.List.Basic

/-!
# Reading and searching the rows of a chart

The routines that look at a table do on the rows of a chart what they do on the chart. Where one
goes through spans, it is enough that every span it comes to is one of the chart, for the steps
of a list that all have a result have one together. The search is not such a list, since it stops
at a first success and leaves out the splits that the table does not have; `firstFound_eq_ok`
turns it into a search among those that are left, in which both parts of a span are shorter than
the span (`derive_rows`).

With what is filled, that is all that is done to charts: none of it asks for what is not there
(`every_access_in_range`).
-/

namespace BalineseChart

/-! ## The whole input -/

namespace Chart

variable (chart : Chart)

theorem top?_rows : chart.rows.top? = .ok chart.top? := by
  rw [Rows.top?, size_rows, top?]
  by_cases empty : chart.size = 0
  · rw [if_pos empty, dif_neg (by omega)]
    rfl
  · have nonempty : 0 < chart.size := Nat.pos_of_ne_zero empty
    rw [if_neg empty, dif_pos nonempty, minus_of_le nonempty, ok_bind,
      chart.cell_rows_of_span chart.zero_le_last (last_lt_size nonempty)]
    rfl

theorem accepts_rows (a : Nonterminal) : chart.rows.accepts a = .ok (chart.accepts a) := by
  rw [Rows.accepts, top?_rows]
  rfl

/-! ## Spans and their text -/

theorem exists_succ_of_mem_range' {size length : Nat} (member : length ∈ List.range' 1 size) :
    ∃ d, d < size ∧ length = d + 1 := by
  obtain ⟨positive, short⟩ := List.mem_range'_1.mp member
  exact ⟨length - 1, by omega, by omega⟩

theorem map_range'_one {α : Type} (size : Nat) (f : Nat → α) :
    ((List.range' 1 size).map fun length => f (length - 1)) = (List.range size).map f := by
  rw [List.range'_eq_map_range, List.map_map]
  apply List.map_congr_left
  intro d _
  rw [Function.comp_apply, Nat.add_sub_cancel_left]

theorem starts_succ {size d : Nat} (short : d < size) :
    Rows.starts size (d + 1) = .ok (List.range (size - d)) := by
  have count : size - (d + 1) + 1 = size - d := by omega
  rw [Rows.starts_of_le short, count]

theorem spansOfLength_succ {size d : Nat} (short : d < size) :
    Rows.spansOfLength size (d + 1) = .ok ((List.range (size - d)).map fun i => (i, i + d)) := by
  have each : ∀ i ∈ List.range (size - d), Rows.spanFrom (d + 1) i = .ok (i, i + d) := by
    intro i _
    rw [Rows.spanFrom, Rows.lastOf_succ]
    rfl
  rw [Rows.spansOfLength, starts_succ short, ok_bind, mapM_eq_ok each]

theorem spans_rows : chart.rows.spans = .ok chart.spans := by
  have each : ∀ length ∈ List.range' 1 chart.size, Rows.spansOfLength chart.size length =
      .ok ((List.range (chart.size - (length - 1))).map fun i => (i, i + (length - 1))) := by
    intro length member
    obtain ⟨d, short, rfl⟩ := exists_succ_of_mem_range' member
    exact spansOfLength_succ short
  have layers := map_range'_one chart.size
    fun d => (List.range (chart.size - d)).map fun i => (i, i + d)
  rw [Rows.spans, size_rows, mapM_eq_ok each, layers]
  rfl

theorem lineFrom_rows {d i : Nat} (inside : i + d < chart.size) :
    chart.rows.lineFrom (d + 1) i =
      .ok (spanLine i (i + d) (chart.cell i (i + d) (Nat.le_add_right i d) inside)) := by
  rw [Rows.lineFrom, Rows.lastOf_succ, ok_bind,
    chart.cell_rows_of_span (Nat.le_add_right i d) inside]
  rfl

theorem textOfLength_rows {d : Nat} (short : d < chart.size) :
    chart.rows.textOfLength (d + 1) = .ok (chart.layerText d) := by
  have each : ∀ i ∈ List.range (chart.size - d), chart.rows.lineFrom (d + 1) i =
      .ok (spanLine i (i + d) (chart.held i (i + d))) := by
    intro i member
    have inside : i + d < chart.size := Nat.add_lt_of_lt_sub (List.mem_range.mp member)
    rw [chart.lineFrom_rows inside, held_eq_cell (Nat.le_add_right i d) inside]
  -- The chart gives its lines by positions that are known to be in the layer.
  have lines :
      (List.range (chart.size - d)).map (fun i => spanLine i (i + d) (chart.held i (i + d))) =
        (List.finRange (chart.size - d)).map fun i => spanLine i.val (i.val + d)
          (chart.cell i.val (i.val + d) (Nat.le_add_right _ _) (by omega)) := by
    apply List.ext_getElem
    · simp
    · intro i within _
      rw [List.length_map, List.length_range] at within
      simp only [List.getElem_map, List.getElem_range, List.getElem_finRange, Fin.val_cast,
        held_eq_cell (Nat.le_add_right i d) (Nat.add_lt_of_lt_sub within)]
  rw [Rows.textOfLength, size_rows, starts_succ short, ok_bind, mapM_eq_ok each, ok_bind, lines]
  rfl

theorem text_rows : chart.rows.text = .ok chart.text := by
  have each : ∀ length ∈ (List.range' 1 chart.size).reverse, chart.rows.textOfLength length =
      .ok (chart.layerText (length - 1)) := by
    intro length member
    obtain ⟨d, short, rfl⟩ := exists_succ_of_mem_range' (List.mem_reverse.mp member)
    exact chart.textOfLength_rows short
  rw [Rows.text, size_rows, mapM_eq_ok each, List.map_reverse, map_range'_one, ← List.map_reverse]
  rfl

end Chart

/-! ## The search -/

namespace Rows

/-- A search that leaves out what it does not keep is one among what it keeps. -/
theorem firstFound_eq_ok {α β ε : Type} {attempt : α → Except Fault (Option (Except ε β))}
    {keep : α → Bool} {attempt' : α → Except ε β} {xs : List α}
    (each : ∀ x ∈ xs, attempt x = .ok (if keep x then some (attempt' x) else none)) (failure : ε) :
    firstFound attempt failure xs = .ok (firstSuccess attempt' failure (xs.filter keep)) := by
  induction xs generalizing failure with
  | nil => rfl
  | cons x others ih =>
    obtain ⟨first, later⟩ := List.forall_mem_cons.mp each
    rw [firstFound, first, ok_bind, List.filter_cons]
    by_cases kept : keep x = true
    · simp only [kept, if_true, firstSuccess]
      cases attempt' x with
      | ok result => rfl
      | error failure' => exact ih later failure'
    · simp only [kept]
      exact ih later failure

theorem splits_eq_filter {chart : Chart} {g : Grammar} {a : Nonterminal} {i j : Nat}
    (inside : j < chart.size) :
    chart.splits g a inside = (candidates g a i j).filter (chart.confirms inside) := by
  rw [Chart.splits, candidates, List.filter_flatMap]
  refine List.flatMap_congr fun pair _ => congrArg (List.filter _) (List.map_congr_left ?_)
  rintro ⟨cut, lower, upper⟩ _
  rfl

theorem confirms_rows {chart : Chart} {i j : Nat} (inside : j < chart.size) (split : Split i j) :
    chart.rows.confirms split = .ok (chart.confirms inside split) := by
  rw [confirms, chart.contains_rows_of_span split.lower (Nat.lt_trans split.upper inside), ok_bind,
    chart.contains_rows_of_span split.upper inside, Chart.confirms]
  split
  · next left => rw [left, Bool.true_and]
  · next left => rw [Bool.eq_false_iff.mpr left, Bool.false_and]; rfl

/-- The searches find the same, by induction on the length of the span. -/
theorem derive_rows {g : Grammar} {chart : Chart} {tokens : List String}
    (fits : tokens.length = chart.size) (a : Nonterminal) {i j : Nat} (ordered : i ≤ j)
    (inside : j < chart.size) :
    derive g chart.rows tokens a i j =
      .ok (BalineseChart.derive g chart tokens fits a i j ordered inside) := by
  induction length : j - i using Nat.strongRecOn generalizing a i j with
  | ind length ih =>
    rcases Nat.eq_or_lt_of_le ordered with rfl | shorter
    · rw [derive, if_pos rfl, itemAt_of_lt (fits ▸ inside), ok_bind, derive_self]
      rfl
    · rw [derive, if_neg (Nat.ne_of_lt shorter), derive_of_lt a shorter ordered inside,
        splits_eq_filter]
      refine firstFound_eq_ok (fun split _ => ?_) _
      have lower := split.lower
      have upper := split.upper
      have left := ih (split.cut - i) (by omega) split.left lower (Nat.lt_trans upper inside) rfl
      have right := ih (j - (split.cut + 1)) (by omega) split.right upper inside rfl
      -- Only for a split that is confirmed are the parts looked for, and both are shorter.
      rw [confirms_rows inside, ok_bind, left, right, deriveSplit]
      by_cases kept : chart.confirms inside split = true
      · simp only [kept, if_true, ok_bind]
        cases BalineseChart.derive g chart tokens fits split.left i split.cut lower
            (Nat.lt_trans upper inside) with
        | error failure => rfl
        | ok leftTree =>
          cases BalineseChart.derive g chart tokens fits split.right (split.cut + 1) j upper
              inside with
          | error failure => rfl
          | ok rightTree => rfl
      · simp only [kept]
        rfl

theorem reconstruct_rows (g : Grammar) (chart : Chart) (tokens : List String) :
    reconstruct g chart.rows tokens = .ok (BalineseChart.reconstruct g chart tokens) := by
  rw [reconstruct, chart.size_rows]
  by_cases fits : tokens.length = chart.size
  · rw [if_neg (not_not_intro fits.symm), chart.accepts_rows, ok_bind]
    cases accepted : chart.accepts g.start with
    | false =>
      rw [reconstruct_of_rejected fits accepted]
      rfl
    | true =>
      have nonempty := Chart.size_pos_of_accepts accepted
      rw [if_pos rfl, fits, minus_of_le nonempty, ok_bind,
        derive_rows fits g.start chart.zero_le_last (Chart.last_lt_size nonempty), ok_bind]
      cases found : BalineseChart.derive g chart tokens fits g.start 0 (chart.size - 1)
          chart.zero_le_last (Chart.last_lt_size nonempty) with
      | error failure =>
        rw [reconstruct_of_derive_error accepted found]
        rfl
      | ok tree =>
        rw [reconstruct_of_derive accepted found]
        rfl
  · rw [if_pos (Ne.symm fits), BalineseChart.reconstruct, dif_neg fits]
    rfl

end Rows

/-! ## All accesses -/

/-- No routine on charts ends in a fault: each of them, written over rows with every access
checked, has a result, and it is the one that the routine has on charts. A request from elsewhere
fails, and says that there is no such cell, if and only if the chart does not have the span; and
adding to a span gives the rows of a chart of the same size again, or a fault if the chart does
not have the span. -/
theorem every_access_in_range (g : Grammar) (tokens : List String) (chart : Chart) :
    (∀ size, Rows.blank size = .ok (Chart.blank size).rows) ∧
      Rows.fill g tokens = .ok (Chart.fill g tokens).rows ∧
      chart.rows.top? = .ok chart.top? ∧
      (∀ a, chart.rows.accepts a = .ok (chart.accepts a)) ∧
      chart.rows.spans = .ok chart.spans ∧
      chart.rows.text = .ok chart.text ∧
      Rows.reconstruct g chart.rows tokens = .ok (reconstruct g chart tokens) ∧
      (∀ i j, chart.rows.cell i j = (chart.lookup i j).mapError Fault.noCell) ∧
      (∀ i j a, chart.rows.contains i j a =
        ((chart.lookup i j).map (·.contains a)).mapError Fault.noCell) ∧
      (∀ i j, if i ≤ j ∧ j < chart.size then ∃ set, chart.lookup i j = .ok set
        else chart.lookup i j = .error ⟨i, j, chart.size⟩) ∧
      ∀ i j a, (∃ chart' : Chart, chart'.size = chart.size ∧
        chart.rows.add i j a = .ok chart'.rows) ↔ i ≤ j ∧ j < chart.size := by
  refine ⟨fun size => ?_, Rows.fill_eq_rows g tokens, chart.top?_rows, chart.accepts_rows,
    chart.spans_rows, chart.text_rows, Rows.reconstruct_rows g chart tokens, chart.cell_rows,
    chart.contains_rows, fun i j => ?_, chart.exists_add_rows_iff⟩
  · rw [Rows.blank_eq_ofCells, Chart.rows_blank]
  · split
    · next span => exact ⟨_, chart.lookup_of_span span.1 span.2⟩
    · next outside => exact chart.lookup_of_not outside

end BalineseChart

import BalineseChart.Proofs.Chart.Rows

/-!
# Accesses to the rows of a chart

The table of a chart has the cells of the chart (`Chart.rows`), so an access that asks for one of
its spans has a result, and any other has none (`cell_rows`, `exists_add_rows_iff`).

The tables that come up while a chart is filled are those of some assignment of nonterminals to
spans (`Rows.ofCells`). Looking up a span gives what is assigned to it (`cell_ofCells`), and
adding nonterminals changes the assignment there and nowhere else (`addAll_ofCells`).
-/

namespace BalineseChart

/-! ## Steps that have a result -/

theorem ok_bind {ε α β : Type} (a : α) (next : α → Except ε β) :
    (Except.ok a >>= next) = next a :=
  rfl

theorem itemAt_of_lt {α : Type} {items : List α} {position : Nat}
    (inside : position < items.length) : itemAt items position = .ok items[position] := by
  rw [itemAt, List.getElem?_eq_getElem inside]

theorem itemAt_map_range {α : Type} {size position : Nat} (item : Nat → α)
    (inside : position < size) :
    itemAt ((List.range size).map item) position = .ok (item position) := by
  rw [itemAt, List.getElem?_map, List.getElem?_range inside, Option.map_some]

theorem minus_of_le {number taken : Nat} (enough : taken ≤ number) :
    minus number taken = .ok (number - taken) :=
  if_pos enough

/-! ## What a result tells of the steps before it -/

theorem exists_of_bind_eq_ok {ε α β : Type} {first : Except ε α} {next : α → Except ε β} {b : β}
    (run : (first >>= next) = .ok b) : ∃ a, first = .ok a ∧ next a = .ok b := by
  cases first with
  | error failure => cases run
  | ok a => exact ⟨a, rfl, run⟩

theorem exists_of_itemAt_eq_ok {α : Type} {items : List α} {position : Nat} {item : α}
    (found : itemAt items position = .ok item) :
    ∃ inside : position < items.length, items[position] = item := by
  unfold itemAt at found
  split at found
  · next there =>
    cases found
    exact List.getElem?_eq_some_iff.mp there
  · cases found

theorem of_minus_eq_ok {number taken difference : Nat}
    (result : minus number taken = .ok difference) :
    taken ≤ number ∧ number - taken = difference := by
  unfold minus at result
  split at result
  · next enough =>
    cases result
    exact ⟨enough, rfl⟩
  · cases result

/-! ## Lists of steps -/

/-- A list whose items all have a result. -/
theorem mapM_eq_ok {α β ε : Type} {attempt : α → Except ε β} {result : α → β} {xs : List α}
    (each : ∀ x ∈ xs, attempt x = .ok (result x)) : xs.mapM attempt = .ok (xs.map result) := by
  induction xs with
  | nil => rfl
  | cons x xs ih =>
    obtain ⟨first, later⟩ := List.forall_mem_cons.mp each
    rw [List.mapM_cons, first, ok_bind, ih later, ok_bind, List.map_cons]
    rfl

/-- A loop that goes from one of the states to the next with each item. -/
theorem foldlM_eq_ok {α σ ε : Type} (step : σ → α → Except ε σ) (xs : List α) (state : Nat → σ)
    (each : ∀ (m : Nat) (inside : m < xs.length), step (state m) xs[m] = .ok (state (m + 1))) :
    xs.foldlM step (state 0) = .ok (state xs.length) := by
  induction xs generalizing state with
  | nil => rfl
  | cons x xs ih =>
    have first : step (state 0) x = .ok (state 1) := each 0 (Nat.zero_lt_succ _)
    rw [List.foldlM_cons, first, ok_bind]
    exact ih (fun m => state (m + 1)) fun m inside => each (m + 1) (Nat.succ_lt_succ inside)

namespace Rows

/-! ## Tables of an assignment -/

/-- The table that has what is assigned to each span. -/
def ofCells (size : Nat) (cell : Nat → Nat → NonterminalSet) : Rows where
  cells := (List.range size).map fun i => (List.range (size - i)).map fun d => cell i (i + d)

/-- The assignment with another set for the span from `i` to `j`. -/
def assign (cell : Nat → Nat → NonterminalSet) (i j : Nat) (set : NonterminalSet) :
    Nat → Nat → NonterminalSet :=
  fun i' j' => if i' = i ∧ j' = j then set else cell i' j'

variable {size i j : Nat} {cells cells' : Nat → Nat → NonterminalSet}

/-- A table has no cells but those of its spans. -/
theorem ofCells_congr (same : ∀ i j, i ≤ j → j < size → cells i j = cells' i j) :
    ofCells size cells = ofCells size cells' := by
  refine congrArg Rows.mk (List.map_congr_left fun i inside => ?_)
  refine List.map_congr_left fun d within => ?_
  rw [List.mem_range] at inside within
  exact same i (i + d) (Nat.le_add_right i d) (by omega)

theorem size_ofCells : (ofCells size cells).size = size := by
  rw [Rows.size, ofCells, List.length_map, List.length_range]

theorem cell_ofCells (ordered : i ≤ j) (inside : j < size) :
    (ofCells size cells).cell i j = .ok (cells i j) := by
  have row := itemAt_map_range (fun i => (List.range (size - i)).map fun d => cells i (i + d))
    (Nat.lt_of_le_of_lt ordered inside)
  have offset : j - i < size - i := by omega
  rw [cell, size_ofCells, if_pos ⟨ordered, inside⟩, ofCells, row, ok_bind, minus_of_le ordered,
    ok_bind, itemAt_map_range _ offset, Nat.add_sub_cancel' ordered]

theorem cell_ofCells_of_not (outside : ¬ (i ≤ j ∧ j < size)) :
    (ofCells size cells).cell i j = .error (.noCell ⟨i, j, size⟩) := by
  rw [cell, size_ofCells, if_neg outside]

/-- Setting one item of a list that is given by its positions. -/
theorem set_map_range {α : Type} (size position : Nat) (item : Nat → α) (x : α) :
    ((List.range size).map item).set position x =
      (List.range size).map fun k => if k = position then x else item k := by
  apply List.ext_getElem
  · simp
  · intro k _ _
    simp only [List.getElem_set, List.getElem_map, List.getElem_range, @eq_comm _ position k]

theorem add_ofCells (ordered : i ≤ j) (inside : j < size) (a : Nonterminal) :
    (ofCells size cells).add i j a =
      .ok (ofCells size (assign cells i j ((cells i j).insert a))) := by
  obtain ⟨d, rfl⟩ := Nat.exists_eq_add_of_le ordered
  have row := itemAt_map_range (fun i => (List.range (size - i)).map fun d => cells i (i + d))
    (Nat.lt_of_le_of_lt ordered inside)
  have offset : d < size - i := by omega
  rw [add, ofCells, row, ok_bind, minus_of_le ordered, ok_bind, Nat.add_sub_cancel_left,
    itemAt_map_range _ offset, ok_bind, set_map_range, set_map_range]
  refine congrArg Except.ok (congrArg Rows.mk (List.map_congr_left fun k _ => ?_))
  split
  · next same =>
    subst same
    apply List.map_congr_left
    intro e _
    simp [assign]
  · next differ =>
    apply List.map_congr_left
    intro e _
    simp [assign, differ]

/-- Nothing can be added for a span that the table does not have. -/
theorem span_of_add_ofCells {a : Nonterminal} {rows : Rows}
    (added : (ofCells size cells).add i j a = .ok rows) : i ≤ j ∧ j < size := by
  obtain ⟨row, found, added⟩ := exists_of_bind_eq_ok added
  obtain ⟨offset, difference, added⟩ := exists_of_bind_eq_ok added
  obtain ⟨set, within, -⟩ := exists_of_bind_eq_ok added
  obtain ⟨inside, rfl⟩ := exists_of_itemAt_eq_ok found
  obtain ⟨ordered, rfl⟩ := of_minus_eq_ok difference
  obtain ⟨short, -⟩ := exists_of_itemAt_eq_ok within
  simp only [ofCells, List.length_map, List.length_range, List.getElem_map,
    List.getElem_range] at inside short
  omega

theorem assign_self (cells : Nat → Nat → NonterminalSet) (i j : Nat) :
    assign cells i j (cells i j) = cells := by
  funext i' j'
  unfold assign
  split
  · next same => rw [same.1, same.2]
  · rfl

theorem assign_assign (cells : Nat → Nat → NonterminalSet) (i j : Nat) (s t : NonterminalSet) :
    assign (assign cells i j s) i j t = assign cells i j t := by
  funext i' j'
  simp only [assign]
  split <;> rfl

theorem assign_at (cells : Nat → Nat → NonterminalSet) (i j : Nat) (set : NonterminalSet) :
    assign cells i j set i j = set :=
  if_pos ⟨rfl, rfl⟩

theorem assign_of_ne {i' j' : Nat} (other : ¬ (i' = i ∧ j' = j)) (set : NonterminalSet) :
    assign cells i j set i' j' = cells i' j' :=
  if_neg other

theorem addAll_ofCells (ordered : i ≤ j) (inside : j < size) (as : List Nonterminal) :
    (ofCells size cells).addAll i j as =
      .ok (ofCells size (assign cells i j (cells i j ∪ .ofList as))) := by
  induction as generalizing cells with
  | nil =>
    have nothing : cells i j ∪ .ofList [] = cells i j := NonterminalSet.ext fun a => by simp
    rw [nothing, assign_self]
    rfl
  | cons a as ih =>
    have more : (cells i j).insert a ∪ .ofList as = cells i j ∪ .ofList (a :: as) :=
      NonterminalSet.ext fun b => by simp [or_assoc]
    rw [addAll, List.foldlM_cons, add_ofCells ordered inside, ok_bind, ← addAll, ih, assign_at,
      assign_assign, more]

theorem blank_eq_ofCells (size : Nat) : blank size = .ok (ofCells size fun _ _ => ∅) := by
  have each : ∀ i ∈ List.range size, blankRow size i = .ok (List.replicate (size - i) ∅) := by
    intro i member
    rw [blankRow, minus_of_le (Nat.le_of_lt (List.mem_range.mp member))]
    rfl
  rw [blank, mapM_eq_ok each]
  simp only [ofCells, List.map_const', List.length_range]
  rfl

/-! ## Spans -/

theorem starts_of_le {size length : Nat} (short : length ≤ size) :
    starts size length = .ok (List.range (size - length + 1)) := by
  rw [starts, minus_of_le short]
  rfl

theorem lastOf_succ (i d : Nat) : lastOf i (d + 1) = .ok (i + d) :=
  minus_of_le (Nat.le_add_left 1 _)

end Rows

/-! ## Tables of a chart -/

namespace Chart

/-- The nonterminals of the span from `i` to `j`, none if the chart does not have that span. -/
def held (chart : Chart) (i j : Nat) : NonterminalSet :=
  match chart.lookup i j with
  | .ok set => set
  | .error _ => ∅

theorem held_eq_cell {chart : Chart} {i j : Nat} (ordered : i ≤ j) (inside : j < chart.size) :
    chart.held i j = chart.cell i j ordered inside := by
  rw [held, lookup, dif_pos ⟨ordered, inside⟩]

/-- The rows of a chart. -/
def rows (chart : Chart) : Rows :=
  .ofCells chart.size chart.held

theorem rows_blank (size : Nat) : (blank size).rows = .ofCells size fun _ _ => ∅ := by
  refine Rows.ofCells_congr fun i j ordered inside => ?_
  have within : j < size := size_blank size ▸ inside
  exact (held_eq_cell ordered inside).trans (cell_blank ordered within)

/-- Any assignment has a chart. -/
theorem exists_rows_eq (size : Nat) (cells : Nat → Nat → NonterminalSet) :
    ∃ chart : Chart, chart.size = size ∧ chart.rows = .ofCells size cells := by
  refine ⟨⟨size, Layers.build (fun d _ i => cells i (i + d)) size⟩, rfl, ?_⟩
  refine Rows.ofCells_congr fun i j ordered inside => ?_
  rw [held_eq_cell ordered inside, cell, Layers.get_build, Nat.add_sub_cancel' ordered]

variable (chart : Chart)

theorem size_rows : chart.rows.size = chart.size :=
  Rows.size_ofCells

theorem lookup_of_span {i j : Nat} (ordered : i ≤ j) (inside : j < chart.size) :
    chart.lookup i j = .ok (chart.cell i j ordered inside) :=
  dif_pos ⟨ordered, inside⟩

theorem lookup_of_not {i j : Nat} (outside : ¬ (i ≤ j ∧ j < chart.size)) :
    chart.lookup i j = .error ⟨i, j, chart.size⟩ :=
  dif_neg outside

/-- An access to the rows of a chart is one to the chart. -/
theorem cell_rows (i j : Nat) :
    chart.rows.cell i j = (chart.lookup i j).mapError Fault.noCell := by
  by_cases span : i ≤ j ∧ j < chart.size
  · rw [rows, Rows.cell_ofCells span.1 span.2, held_eq_cell span.1 span.2,
      chart.lookup_of_span span.1 span.2]
    rfl
  · rw [rows, Rows.cell_ofCells_of_not span, chart.lookup_of_not span]
    rfl

theorem contains_rows (i j : Nat) (a : Nonterminal) :
    chart.rows.contains i j a = ((chart.lookup i j).map (·.contains a)).mapError Fault.noCell := by
  rw [Rows.contains, cell_rows]
  cases chart.lookup i j <;> rfl

theorem cell_rows_of_span {i j : Nat} (ordered : i ≤ j) (inside : j < chart.size) :
    chart.rows.cell i j = .ok (chart.cell i j ordered inside) := by
  rw [cell_rows, chart.lookup_of_span ordered inside]
  rfl

theorem contains_rows_of_span {i j : Nat} (ordered : i ≤ j) (inside : j < chart.size)
    (a : Nonterminal) :
    chart.rows.contains i j a = .ok ((chart.cell i j ordered inside).contains a) := by
  rw [contains_rows, chart.lookup_of_span ordered inside]
  rfl

/-- Adding to a span of a chart gives the rows of a chart, and there is nothing else to add to. -/
theorem exists_add_rows_iff (i j : Nat) (a : Nonterminal) :
    (∃ chart' : Chart, chart'.size = chart.size ∧ chart.rows.add i j a = .ok chart'.rows) ↔
      i ≤ j ∧ j < chart.size := by
  constructor
  · rintro ⟨_, -, added⟩
    exact Rows.span_of_add_ofCells added
  · rintro ⟨ordered, inside⟩
    obtain ⟨chart', same, rows⟩ := exists_rows_eq chart.size
      (Rows.assign chart.held i j ((chart.held i j).insert a))
    exact ⟨chart', same, by rw [Chart.rows, Rows.add_ofCells ordered inside, rows]⟩

end Chart

end BalineseChart

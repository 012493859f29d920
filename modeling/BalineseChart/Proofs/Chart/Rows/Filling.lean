import BalineseChart.Proofs.Chart.Rows.Access

/-!
# Filling the rows of a chart

The routine that fills a table in place goes through the spans from the short to the long, and
for each of them through its cuts. It never asks for a cell that the table does not have, and what
it ends with is the table of the chart of the tokens (`fill_eq_rows`).

In between, the table is that of the chart as far as it has been filled (`Rows.filledTo`): a span
has its nonterminals or none, by its length first and then by its start. One step takes the table
from one such stage to the next (`fillSpan_filledTo`), since both sides of each cut belong to
shorter spans, which are filled by then; and the last stage of one length is the first of the next
(`filledTo_succ`).
-/

namespace BalineseChart

namespace Rows

variable {i j : Nat}

/-! ## Stages -/

/-- What a chart has over the spans of at most `d` tokens, and over those of `d + 1` tokens that
start before `m`. -/
def stage (chart : Chart) (d m : Nat) (i j : Nat) : NonterminalSet :=
  if j < i + d ∨ (j = i + d ∧ i < m) then chart.held i j else ∅

/-- The table of a chart as far as that. -/
def filledTo (chart : Chart) (d m : Nat) : Rows :=
  ofCells chart.size (stage chart d m)

theorem stage_of_lt {chart : Chart} {d m : Nat} (short : j < i + d) :
    stage chart d m i j = chart.held i j :=
  if_pos (Or.inl short)

theorem stage_at (chart : Chart) (d i : Nat) : stage chart d i i (i + d) = ∅ :=
  if_neg (by omega)

/-- One more span. -/
theorem assign_stage (chart : Chart) (d i : Nat) :
    assign (stage chart d i) i (i + d) (chart.held i (i + d)) = stage chart d (i + 1) := by
  funext i' j'
  unfold assign stage
  split
  · next here => rw [here.1, here.2, if_pos (Or.inr ⟨rfl, Nat.lt_succ_self i⟩)]
  · next other =>
    have same : (j' < i' + d ∨ (j' = i' + d ∧ i' < i)) ↔
        (j' < i' + d ∨ (j' = i' + d ∧ i' < i + 1)) := by
      omega
    simp only [same]

/-- When all spans of one length are filled, those of the next length come. -/
theorem filledTo_succ (chart : Chart) (d : Nat) :
    filledTo chart d (chart.size - d) = filledTo chart (d + 1) 0 := by
  refine ofCells_congr fun i j ordered inside => ?_
  have same : (j < i + d ∨ (j = i + d ∧ i < chart.size - d)) ↔
      (j < i + (d + 1) ∨ (j = i + (d + 1) ∧ i < 0)) := by
    omega
  simp only [stage, same]

theorem filledTo_zero (chart : Chart) :
    filledTo chart 0 0 = ofCells chart.size fun _ _ => ∅ :=
  ofCells_congr fun i j ordered _ => if_neg (by omega)

theorem filledTo_of_le {chart : Chart} {d : Nat} (all : chart.size ≤ d) :
    filledTo chart d 0 = chart.rows :=
  ofCells_congr fun i j _ inside => stage_of_lt (by omega)

/-! ## The cuts of one span -/

section Fill

variable (g : Grammar) (tokens : List String)

/-- What the first `s` cuts of the span of `d + 1` tokens from `i` give to it. -/
def fromCuts (i d s : Nat) : NonterminalSet :=
  .unions ((List.range s).map fun t =>
    Chart.join g ((Chart.fill g tokens).held i (i + t))
      ((Chart.fill g tokens).held (i + t + 1) (i + d)))

theorem fromCuts_succ (i d s : Nat) :
    fromCuts g tokens i d (s + 1) =
      fromCuts g tokens i d s ∪ Chart.join g ((Chart.fill g tokens).held i (i + s))
        ((Chart.fill g tokens).held (i + s + 1) (i + d)) := by
  apply NonterminalSet.ext
  intro a
  rw [fromCuts, fromCuts, List.range_succ, List.map_append, NonterminalSet.mem_unions,
    NonterminalSet.mem_union, NonterminalSet.mem_unions]
  simp [or_and_right, exists_or]

/-- All cuts together give what the chart has over the span. -/
theorem fromCuts_eq {i d : Nat} (longer : 0 < d) (inside : i + d < tokens.length) :
    fromCuts g tokens i d d = (Chart.fill g tokens).held i (i + d) := by
  apply NonterminalSet.ext
  intro a
  rw [Chart.held_eq_cell (Nat.le_add_right i d) inside,
    Chart.mem_cell_fill (Nat.lt_add_of_pos_right longer) inside, fromCuts,
    NonterminalSet.mem_unions]
  simp only [List.mem_map, List.mem_range]
  constructor
  · rintro ⟨_, ⟨t, within, rfl⟩, member⟩
    have upper : i + t < i + d := Nat.add_lt_add_left within i
    rw [Chart.held_eq_cell (Nat.le_add_right i t) (Nat.lt_trans upper inside),
      Chart.held_eq_cell upper inside] at member
    exact ⟨i + t, Nat.le_add_right i t, upper, member⟩
  · rintro ⟨k, lower, upper, member⟩
    obtain ⟨t, rfl⟩ := Nat.exists_eq_add_of_le lower
    rw [← Chart.held_eq_cell lower (Nat.lt_trans upper inside),
      ← Chart.held_eq_cell upper inside] at member
    exact ⟨_, ⟨t, Nat.lt_of_add_lt_add_left upper, rfl⟩, member⟩

/-- The table while the span of `d + 1` tokens from `i` is filled, after `s` of its cuts. -/
def duringSpan (i d s : Nat) : Rows :=
  ofCells tokens.length
    (assign (stage (Chart.fill g tokens) d i) i (i + d) (fromCuts g tokens i d s))

/-- Shorter spans are filled by then. -/
theorem cell_duringSpan {i d s i' j' : Nat} (ordered : i' ≤ j') (shorter : j' < i' + d)
    (inside : j' < tokens.length) :
    (duringSpan g tokens i d s).cell i' j' = .ok ((Chart.fill g tokens).held i' j') := by
  rw [duringSpan, cell_ofCells ordered inside, assign_of_ne (by omega), stage_of_lt shorter]

theorem addCut_of_cells {g : Grammar} {rows : Rows} {i k j : Nat} {left right : NonterminalSet}
    (leftCell : rows.cell i k = .ok left) (rightCell : rows.cell (k + 1) j = .ok right) :
    addCut g i j rows k = rows.addAll i j
      (left.toList.flatMap fun b => right.toList.flatMap fun c => g.headsOfPair b c) := by
  have each : ∀ b ∈ left.toList,
      headsWith g rows k j b = .ok (right.toList.flatMap fun c => g.headsOfPair b c) := by
    intro b _
    rw [headsWith, rightCell]
    rfl
  rw [addCut, leftCell, ok_bind, mapM_eq_ok each, ok_bind, List.flatMap]

/-- One cut adds what it gives, since both of its sides belong to shorter spans. -/
theorem addCut_duringSpan {i d s : Nat} (inside : i + d < tokens.length) (within : s < d) :
    addCut g i (i + d) (duringSpan g tokens i d s) (i + s) =
      .ok (duringSpan g tokens i d (s + 1)) := by
  have left : (duringSpan g tokens i d s).cell i (i + s) =
      .ok ((Chart.fill g tokens).held i (i + s)) :=
    cell_duringSpan g tokens (by omega) (by omega) (by omega)
  have right : (duringSpan g tokens i d s).cell (i + s + 1) (i + d) =
      .ok ((Chart.fill g tokens).held (i + s + 1) (i + d)) :=
    cell_duringSpan g tokens (by omega) (by omega) (by omega)
  rw [addCut_of_cells left right, duringSpan, addAll_ofCells (Nat.le_add_right i d) inside,
    assign_at, assign_assign, duringSpan, fromCuts_succ, Chart.join]

/-! ## All spans -/

theorem fillSpan_filledTo {i d : Nat} (longer : 0 < d) (inside : i + d < tokens.length) :
    fillSpan g (d + 1) (filledTo (Chart.fill g tokens) d i) i =
      .ok (filledTo (Chart.fill g tokens) d (i + 1)) := by
  -- Before its first cut the span has nothing, and after its last one all that the chart has.
  have begins : filledTo (Chart.fill g tokens) d i = duringSpan g tokens i d 0 := by
    have nothing : fromCuts g tokens i d 0 = stage (Chart.fill g tokens) d i i (i + d) :=
      (stage_at _ d i).symm
    rw [duringSpan, nothing, assign_self]
    rfl
  have ends : filledTo (Chart.fill g tokens) d (i + 1) = duringSpan g tokens i d d := by
    rw [duringSpan, fromCuts_eq g tokens longer inside, assign_stage]
    rfl
  have each : ∀ (s : Nat) (within : s < (List.range' i d).length),
      addCut g i (i + d) (duringSpan g tokens i d s) (List.range' i d)[s] =
        .ok (duringSpan g tokens i d (s + 1)) := by
    intro s within
    rw [List.length_range'] at within
    rw [List.getElem_range', Nat.one_mul]
    exact addCut_duringSpan g tokens inside within
  have cuts := foldlM_eq_ok (addCut g i (i + d)) (List.range' i d) (duringSpan g tokens i d) each
  rw [List.length_range'] at cuts
  rw [fillSpan, lastOf_succ, ok_bind, Nat.add_sub_cancel_left, begins, cuts, ends]

theorem fillLength_filledTo {d : Nat} (longer : 0 < d) (short : d < tokens.length) :
    fillLength g tokens.length (filledTo (Chart.fill g tokens) d 0) (d + 1) =
      .ok (filledTo (Chart.fill g tokens) (d + 1) 0) := by
  have each : ∀ (i : Nat) (within : i < (List.range (tokens.length - (d + 1) + 1)).length),
      fillSpan g (d + 1) (filledTo (Chart.fill g tokens) d i)
          (List.range (tokens.length - (d + 1) + 1))[i] =
        .ok (filledTo (Chart.fill g tokens) d (i + 1)) := by
    intro i within
    rw [List.length_range] at within
    rw [List.getElem_range]
    exact fillSpan_filledTo g tokens longer (by omega)
  have spans := foldlM_eq_ok (fillSpan g (d + 1)) (List.range (tokens.length - (d + 1) + 1))
    (filledTo (Chart.fill g tokens) d) each
  have all : tokens.length - (d + 1) + 1 = (Chart.fill g tokens).size - d := by
    rw [Chart.size_fill]
    omega
  rw [List.length_range, all, filledTo_succ, ← all] at spans
  rw [fillLength, starts_of_le short, ok_bind, spans]

/-- The spans of single tokens come first. -/
theorem addWord_filledTo {i : Nat} (inside : i < tokens.length) :
    addWord g (filledTo (Chart.fill g tokens) 0 i) (tokens[i], i) =
      .ok (filledTo (Chart.fill g tokens) 0 (i + 1)) := by
  have word : NonterminalSet.ofList (g.headsOfWord tokens[i]) =
      (Chart.fill g tokens).held i (i + 0) := by
    rw [Nat.add_zero, Chart.held_eq_cell (Nat.le_refl i) inside, Chart.cell_fill_self,
      Chart.wordCell]
  have nothing : ∅ ∪ (Chart.fill g tokens).held i (i + 0) = (Chart.fill g tokens).held i (i + 0) :=
    NonterminalSet.ext fun a => by simp
  have empty : stage (Chart.fill g tokens) 0 i i i = ∅ := stage_at _ 0 i
  have step := assign_stage (Chart.fill g tokens) 0 i
  rw [addWord, filledTo, Chart.size_fill, addAll_ofCells (Nat.le_refl i) inside, word, empty,
    nothing]
  rw [Nat.add_zero] at step ⊢
  rw [step]
  rfl

theorem words_filledTo :
    tokens.zipIdx.foldlM (addWord g) (filledTo (Chart.fill g tokens) 0 0) =
      .ok (filledTo (Chart.fill g tokens) 1 0) := by
  have each : ∀ (i : Nat) (inside : i < tokens.zipIdx.length),
      addWord g (filledTo (Chart.fill g tokens) 0 i) tokens.zipIdx[i] =
        .ok (filledTo (Chart.fill g tokens) 0 (i + 1)) := by
    intro i inside
    rw [List.length_zipIdx] at inside
    rw [List.getElem_zipIdx, Nat.zero_add]
    exact addWord_filledTo g tokens inside
  have words := foldlM_eq_ok (addWord g) tokens.zipIdx (filledTo (Chart.fill g tokens) 0) each
  have all : tokens.length = (Chart.fill g tokens).size - 0 := rfl
  rwa [List.length_zipIdx, all, filledTo_succ] at words

theorem lengths_filledTo :
    (List.range' 2 (tokens.length - 1)).foldlM (fillLength g tokens.length)
        (filledTo (Chart.fill g tokens) 1 0) = .ok (Chart.fill g tokens).rows := by
  have each : ∀ (m : Nat) (inside : m < (List.range' 2 (tokens.length - 1)).length),
      fillLength g tokens.length (filledTo (Chart.fill g tokens) (m + 1) 0)
          (List.range' 2 (tokens.length - 1))[m] =
        .ok (filledTo (Chart.fill g tokens) (m + 1 + 1) 0) := by
    intro m inside
    rw [List.length_range'] at inside
    have length : 2 + 1 * m = m + 1 + 1 := by omega
    rw [List.getElem_range', length]
    exact fillLength_filledTo g tokens (Nat.zero_lt_succ m) (by omega)
  have lengths := foldlM_eq_ok (fillLength g tokens.length) (List.range' 2 (tokens.length - 1))
    (fun m => filledTo (Chart.fill g tokens) (m + 1) 0) each
  have all : (Chart.fill g tokens).size ≤ tokens.length - 1 + 1 := by
    rw [Chart.size_fill]
    omega
  rwa [List.length_range', filledTo_of_le all] at lengths

/-- What is filled is the table of the chart of the tokens. -/
theorem fill_eq_rows : fill g tokens = .ok (Chart.fill g tokens).rows := by
  rw [fill, blank_eq_ofCells, ok_bind, ← Chart.size_fill g tokens, ← filledTo_zero, words_filledTo,
    ok_bind, Chart.size_fill, lengths_filledTo]

end Fill

end Rows

end BalineseChart

import BalineseChart.Proofs.Chart.Rows.Filling
import Mathlib.Data.List.Induction
import Mathlib.Data.List.Nodup

/-!
# The order of spans

`Chart.spans` lists the spans of a chart, the shorter first, and of one length the earlier first
(`pairwise_spansOf`). So no span is listed twice, and each one is listed (`count_spansOf`). What
comes before a span in the list is all that is `Before` it (`mem_earlier_iff`). Among that are both
parts that a cut leaves of the span, for they are shorter.

A table is filled in this order. Its loops over words, lengths and starts are one loop over the
spans (`Rows.fill_eq_foldlM`), and when that loop comes to a span, the spans listed before it have
all that the finished chart has there, and the others have nothing yet (`Rows.fillAt_completed`).
-/

namespace BalineseChart

namespace Chart

/-! ## What comes before a span -/

/-- The span is shorter than the other, or it is as long and starts earlier. -/
def Before (span other : Nat × Nat) : Prop :=
  span.2 - span.1 < other.2 - other.1 ∨
    (span.2 - span.1 = other.2 - other.1 ∧ span.1 < other.1)

theorem Before.ne {span other : Nat × Nat} (before : Before span other) : span ≠ other := by
  rintro rfl
  unfold Before at before
  omega

theorem Before.not_before {span other : Nat × Nat} (before : Before span other) :
    ¬ Before other span := by
  unfold Before at before ⊢
  omega

/-- A cut leaves shorter spans. -/
theorem before_of_cut {i k j : Nat} (lower : i ≤ k) (upper : k < j) :
    Before (i, k) (i, j) ∧ Before (k + 1, j) (i, j) := by
  unfold Before
  omega

/-! ## The list of spans -/

theorem mem_spansOf_iff {size i j : Nat} : (i, j) ∈ spansOf size ↔ i ≤ j ∧ j < size := by
  simp only [spansOf, List.mem_flatMap, List.mem_map, List.mem_range, Prod.mk.injEq]
  constructor
  · rintro ⟨d, _, i, _, rfl, rfl⟩
    omega
  · rintro ⟨ordered, inside⟩
    exact ⟨j - i, by omega, i, by omega, rfl, by omega⟩

theorem pairwise_spansOf (size : Nat) : (spansOf size).Pairwise Before := by
  rw [spansOf, List.pairwise_flatMap]
  constructor
  · intro d _
    rw [List.pairwise_map]
    refine List.pairwise_lt_range.imp fun {i i'} earlier => Or.inr ⟨?_, earlier⟩
    rw [Nat.add_sub_cancel_left, Nat.add_sub_cancel_left]
  · refine List.pairwise_lt_range.imp fun {d d'} shorter span member other member' => Or.inl ?_
    obtain ⟨i, -, rfl⟩ := List.mem_map.mp member
    obtain ⟨i', -, rfl⟩ := List.mem_map.mp member'
    rwa [Nat.add_sub_cancel_left, Nat.add_sub_cancel_left]

theorem nodup_spansOf (size : Nat) : (spansOf size).Nodup :=
  (pairwise_spansOf size).imp Before.ne

theorem count_spansOf (size i j : Nat) :
    (spansOf size).count (i, j) = if i ≤ j ∧ j < size then 1 else 0 := by
  split
  · next span => exact List.count_eq_one_of_mem (nodup_spansOf size) (mem_spansOf_iff.mpr span)
  · next outside => exact List.count_eq_zero.mpr (mt mem_spansOf_iff.mp outside)

/-- The spans of single tokens, then the longer ones. -/
theorem spansOf_succ (size : Nat) :
    spansOf (size + 1) = ((List.range (size + 1)).map fun i => (i, i)) ++
      (List.range size).flatMap fun d => (List.range (size - d)).map fun i => (i, i + (d + 1)) := by
  conv_lhs => rw [spansOf, List.range_succ_eq_map, List.flatMap_cons, List.flatMap_map]
  simp only [Nat.add_zero, Nat.sub_zero, Nat.succ_eq_add_one, Nat.add_sub_add_right]

theorem length_spansOf (size : Nat) : (spansOf size).length = size * (size + 1) / 2 := by
  have double : (spansOf size).length * 2 = size * (size + 1) := by
    induction size with
    | zero => rfl
    | succ size ih =>
      -- The longer spans of one more token are as many as the spans without it.
      have longer : ((List.range size).flatMap fun d =>
          (List.range (size - d)).map fun i => (i, i + (d + 1))).length =
            (spansOf size).length := by
        simp only [spansOf, List.length_flatMap, List.length_map, List.length_range]
      rw [spansOf_succ, List.length_append, longer, List.length_map, List.length_range,
        Nat.add_mul, ih, Nat.mul_comm size, ← Nat.mul_add, Nat.add_comm 2]
  omega

/-- What is listed before a span is all that is before it. -/
theorem mem_earlier_iff {size i j : Nat} {span : Nat × Nat} {earlier later : List (Nat × Nat)}
    (cut : spansOf size = earlier ++ span :: later) :
    (i, j) ∈ earlier ↔ i ≤ j ∧ j < size ∧ Before (i, j) span := by
  have order := pairwise_spansOf size
  rw [cut, List.pairwise_append, List.pairwise_cons] at order
  obtain ⟨-, ⟨after, -⟩, before⟩ := order
  constructor
  · intro member
    have listed : (i, j) ∈ spansOf size := cut ▸ List.mem_append_left _ member
    obtain ⟨ordered, inside⟩ := mem_spansOf_iff.mp listed
    exact ⟨ordered, inside, before (i, j) member span List.mem_cons_self⟩
  · rintro ⟨ordered, inside, first⟩
    have listed : (i, j) ∈ spansOf size := mem_spansOf_iff.mpr ⟨ordered, inside⟩
    rw [cut, List.mem_append, List.mem_cons] at listed
    rcases listed with member | same | member
    · exact member
    · exact (first.ne same).elim
    · exact (first.not_before (after (i, j) member)).elim

end Chart

/-! ## One loop over the spans -/

/-- A loop over lists that are put together is a loop of loops. -/
theorem foldlM_flatMap {m : Type → Type} [Monad m] [LawfulMonad m] {α β σ : Type}
    (step : σ → β → m σ) (items : α → List β) (xs : List α) (state : σ) :
    (xs.flatMap items).foldlM step state =
      xs.foldlM (fun state x => (items x).foldlM step state) state := by
  induction xs generalizing state with
  | nil => rfl
  | cons x xs ih => simp only [List.flatMap_cons, List.foldlM_append, List.foldlM_cons, ih]

/-- Loops that do the same with their items, one by one, are the same. -/
theorem foldlM_eq_of_getElem {m : Type → Type} [Monad m] {α β σ : Type} {step : σ → α → m σ}
    {step' : σ → β → m σ} {xs : List α} {ys : List β} (length : xs.length = ys.length)
    (each : ∀ (k : Nat) (inside : k < xs.length) (inside' : k < ys.length) (state : σ),
      step state xs[k] = step' state ys[k]) (state : σ) :
    xs.foldlM step state = ys.foldlM step' state := by
  induction xs generalizing ys state with
  | nil =>
    obtain rfl := List.length_eq_zero_iff.mp length.symm
    rfl
  | cons x xs ih =>
    obtain ⟨y, ys, rfl⟩ := List.exists_cons_of_length_eq_add_one length.symm
    have first : step state x = step' state y :=
      each 0 (Nat.zero_lt_succ _) (Nat.zero_lt_succ _) state
    rw [List.foldlM_cons, List.foldlM_cons, first]
    refine congrArg _ (funext fun next => ih (Nat.succ.inj length) ?_ next)
    exact fun k inside inside' => each (k + 1) (Nat.succ_lt_succ inside) (Nat.succ_lt_succ inside')

namespace Rows

/-- The table with one span filled: a span of one token has the heads of its word, and a longer
one what its cuts give to it. -/
def fillAt (g : Grammar) (tokens : List String) (rows : Rows) (span : Nat × Nat) :
    Except Fault Rows :=
  if span.1 = span.2 then do
    let word ← itemAt tokens span.1
    rows.addAll span.1 span.1 (g.headsOfWord word)
  else
    (List.range' span.1 (span.2 - span.1)).foldlM (addCut g span.1 span.2) rows

variable (g : Grammar) (tokens : List String)

theorem fillAt_self {i : Nat} (inside : i < tokens.length) (rows : Rows) :
    fillAt g tokens rows (i, i) = addWord g rows (tokens[i], i) := by
  rw [fillAt, if_pos rfl, itemAt_of_lt inside, ok_bind, addWord]

theorem fillAt_of_longer {d : Nat} (longer : 0 < d) (rows : Rows) (i : Nat) :
    fillAt g tokens rows (i, i + d) = fillSpan g (d + 1) rows i := by
  have differ : i ≠ i + d := by omega
  rw [fillAt, if_neg differ, fillSpan, lastOf_succ, ok_bind]

/-- The loop over the words goes through the spans of single tokens. -/
theorem words_eq_foldlM (rows : Rows) :
    tokens.zipIdx.foldlM (addWord g) rows =
      ((List.range tokens.length).map fun i => (i, i)).foldlM (fillAt g tokens) rows := by
  refine foldlM_eq_of_getElem (by simp) (fun i inside inside' rows => ?_) rows
  rw [List.length_zipIdx] at inside
  rw [List.getElem_zipIdx, List.getElem_map, List.getElem_range, Nat.zero_add,
    fillAt_self g tokens inside]

/-- The loop over the starts goes through the spans of one length. -/
theorem fillLength_eq_foldlM {d : Nat} (longer : 0 < d) (short : d < tokens.length) (rows : Rows) :
    fillLength g tokens.length rows (d + 1) =
      ((List.range (tokens.length - d)).map fun i => (i, i + d)).foldlM (fillAt g tokens) rows := by
  have count : tokens.length - (d + 1) + 1 = tokens.length - d := by omega
  rw [fillLength, starts_of_le short, ok_bind, List.foldlM_map, count]
  simp only [fillAt_of_longer g tokens longer]

/-- The loops that fill a table are one loop over the spans. -/
theorem fill_eq_foldlM :
    fill g tokens =
      (blank tokens.length >>= (Chart.spansOf tokens.length).foldlM (fillAt g tokens)) := by
  rw [fill]
  refine congrArg _ (funext fun rows => ?_)
  rw [words_eq_foldlM]
  cases count : tokens.length with
  | zero => rfl
  | succ size =>
    rw [Chart.spansOf_succ, List.foldlM_append, Nat.add_sub_cancel]
    refine congrArg _ (funext fun rows => ?_)
    rw [foldlM_flatMap]
    refine foldlM_eq_of_getElem (by simp) (fun d inside _ rows => ?_) rows
    rw [List.length_range'] at inside
    have length : 2 + 1 * d = d + 1 + 1 := by omega
    have lengths := fillLength_eq_foldlM g tokens (Nat.zero_lt_succ d) (by omega) rows
    rw [count, Nat.add_sub_add_right] at lengths
    rw [List.getElem_range', List.getElem_range, length, lengths]

/-! ## Stages between the spans -/

/-- The table of a chart that has nothing but the nonterminals of the listed spans. -/
def completed (chart : Chart) (spans : List (Nat × Nat)) : Rows :=
  ofCells chart.size fun i j => if (i, j) ∈ spans then chart.held i j else ∅

section Completed

variable {chart : Chart} {i d : Nat} {earlier later : List (Nat × Nat)}

theorem completed_of_earlier (cut : chart.spans = earlier ++ (i, i + d) :: later) :
    completed chart earlier = filledTo chart d i := by
  refine ofCells_congr fun i' j' ordered inside => ?_
  have same : (i', j') ∈ earlier ↔ (j' < i' + d ∨ (j' = i' + d ∧ i' < i)) := by
    rw [Chart.mem_earlier_iff cut, Chart.Before]
    omega
  simp only [stage, same]

theorem completed_of_reached (cut : chart.spans = earlier ++ (i, i + d) :: later) :
    completed chart (earlier ++ [(i, i + d)]) = filledTo chart d (i + 1) := by
  refine ofCells_congr fun i' j' ordered inside => ?_
  have same : (i', j') ∈ earlier ++ [(i, i + d)] ↔
      (j' < i' + d ∨ (j' = i' + d ∧ i' < i + 1)) := by
    rw [List.mem_append, Chart.mem_earlier_iff cut, Chart.Before, List.mem_singleton,
      Prod.mk.injEq]
    omega
  simp only [stage, same]

end Completed

/-- Filling a span when it is its turn completes it and leaves the other spans alone. -/
theorem fillAt_completed {span : Nat × Nat} {earlier later : List (Nat × Nat)}
    (cut : (Chart.fill g tokens).spans = earlier ++ span :: later) :
    fillAt g tokens (completed (Chart.fill g tokens) earlier) span =
      .ok (completed (Chart.fill g tokens) (earlier ++ [span])) := by
  obtain ⟨i, j⟩ := span
  have listed : (i, j) ∈ Chart.spansOf tokens.length := by
    change (i, j) ∈ (Chart.fill g tokens).spans
    simp [cut]
  obtain ⟨ordered, inside⟩ := Chart.mem_spansOf_iff.mp listed
  obtain ⟨d, rfl⟩ := Nat.exists_eq_add_of_le ordered
  rw [completed_of_earlier cut, completed_of_reached cut]
  rcases Nat.eq_zero_or_pos d with rfl | longer
  · exact (fillAt_self g tokens inside _).trans (addWord_filledTo g tokens inside)
  · rw [fillAt_of_longer g tokens longer]
    exact fillSpan_filledTo g tokens longer inside

/-- By induction on the spans that the loop has gone through. -/
theorem foldlM_fillAt_completed {earlier later : List (Nat × Nat)}
    (cut : (Chart.fill g tokens).spans = earlier ++ later) :
    (blank tokens.length >>= earlier.foldlM (fillAt g tokens)) =
      .ok (completed (Chart.fill g tokens) earlier) := by
  induction earlier using List.reverseRecOn generalizing later with
  | nil =>
    rw [blank_eq_ofCells]
    rfl
  | append_singleton earlier span ih =>
    rw [List.append_assoc, List.singleton_append] at cut
    have before := ih cut
    rw [blank_eq_ofCells, ok_bind] at before ⊢
    rw [List.foldlM_append, before, ok_bind, List.foldlM_cons, fillAt_completed g tokens cut]
    rfl

end Rows

/-- Each span of some tokens is listed once, and nothing else is; the list goes from the shorter
spans to the longer ones and, among spans of one length, from left to right, so that both parts of
a span come before it. This is the order in which a table is filled: the loop that fills it goes
through the list, and after any number of spans these have what they have in the finished chart,
while the others have nothing. -/
theorem spans_in_filling_order :
    (∀ size i j, (Chart.blank size).spans.count (i, j) = if i ≤ j ∧ j < size then 1 else 0) ∧
      (∀ size, (Chart.blank size).spans.length = size * (size + 1) / 2) ∧
      (∀ size, (Chart.blank size).spans.Pairwise Chart.Before) ∧
      (∀ size i k j, i ≤ k → k < j → j < size → ∃ earlier later,
        (Chart.blank size).spans = earlier ++ (i, j) :: later ∧
          (i, k) ∈ earlier ∧ (k + 1, j) ∈ earlier) ∧
      ∀ (g : Grammar) (tokens : List String),
        Rows.fill g tokens = (Rows.blank tokens.length >>=
          (Chart.blank tokens.length).spans.foldlM (Rows.fillAt g tokens)) ∧
        ∀ count, (Rows.blank tokens.length >>=
          ((Chart.blank tokens.length).spans.take count).foldlM (Rows.fillAt g tokens)) =
            .ok (Rows.completed (Chart.fill g tokens)
              ((Chart.blank tokens.length).spans.take count)) := by
  refine ⟨Chart.count_spansOf, Chart.length_spansOf, Chart.pairwise_spansOf,
    fun size i k j lower upper inside => ?_, fun g tokens => ⟨Rows.fill_eq_foldlM g tokens,
      fun count => ?_⟩⟩
  · have listed : (i, j) ∈ Chart.spansOf size := Chart.mem_spansOf_iff.mpr ⟨by omega, inside⟩
    obtain ⟨earlier, later, cut⟩ := List.append_of_mem listed
    obtain ⟨left, right⟩ := Chart.before_of_cut lower upper
    exact ⟨earlier, later, cut,
      (Chart.mem_earlier_iff cut).mpr ⟨lower, Nat.lt_trans upper inside, left⟩,
      (Chart.mem_earlier_iff cut).mpr ⟨upper, inside, right⟩⟩
  · exact Rows.foldlM_fillAt_completed g tokens (List.take_append_drop count _).symm

/-- The parts of the whole input, cut after its second token of four. -/
theorem parts_before_four_tokens :
    (0 ≤ 1 ∧ 1 < 3 ∧ 3 < 4) ∧ ∃ earlier later,
      (Chart.blank 4).spans = earlier ++ (0, 3) :: later ∧ (0, 1) ∈ earlier ∧ (2, 3) ∈ earlier :=
  ⟨by decide, spans_in_filling_order.2.2.2.1 4 0 1 3 (by decide) (by decide) (by decide)⟩

/-- The spans of three tokens. -/
example : (Chart.blank 3).spans = [(0, 0), (1, 1), (2, 2), (0, 1), (1, 2), (0, 2)] := by
  decide

end BalineseChart

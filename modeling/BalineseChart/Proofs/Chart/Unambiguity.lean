import BalineseChart.Chart.Printer
import BalineseChart.Proofs.Text.Runs

/-!
# The text of a chart tells the chart

Only one chart has a given text (`text_tells_chart`). The first heading of the text tells how many
tokens the chart is over, and with that which spans the lines are of. So all that is left to tell
are the cells, line by line (`spanLine_append_inj`): a line ends where its line feed is, and the
names before it stand after spaces. A hyphen stands there like a name, but it is none, so it is
not taken for a nonterminal of the span (`filterMap_ofName?_cellNames`).
-/

namespace BalineseChart

namespace Chart

open Text

/-! ## Lines -/

/-- What stands after the spaces in the line of a span. -/
def cellNames (set : NonterminalSet) : List String :=
  match set.toList with
  | [] => ["-"]
  | as => as.map Nonterminal.name

theorem cellText_eq_spaced (set : NonterminalSet) : cellText set = spaced (cellNames set) := by
  unfold cellText cellNames
  cases set.toList with
  | nil => rfl
  | cons a as =>
    dsimp only
    rw [spaced, List.map_map]
    rfl

/-- The nonterminals of a span are read off its line by their names. -/
theorem filterMap_ofName?_cellNames (set : NonterminalSet) :
    (cellNames set).filterMap Nonterminal.ofName? = set.toList := by
  unfold cellNames
  split
  · next empty =>
    rw [empty]
    decide
  · have named : Nonterminal.ofName? ∘ Nonterminal.name = some := funext Nonterminal.ofName?_name
    rw [List.filterMap_map, named, List.filterMap_some]

theorem eq_of_cellNames_eq {set set' : NonterminalSet} (same : cellNames set = cellNames set') :
    set = set' := by
  have lists : set.toList = set'.toList := by
    rw [← filterMap_ofName?_cellNames, same, filterMap_ofName?_cellNames]
  apply NonterminalSet.ext
  intro a
  rw [← NonterminalSet.mem_toList, lists, NonterminalSet.mem_toList]

theorem isNameChar_of_mem_cellNames {set : NonterminalSet} :
    ∀ name ∈ cellNames set, ∀ c ∈ name.toList, Grammar.isNameChar c = true := by
  intro name member c inside
  unfold cellNames at member
  split at member
  · obtain rfl := List.mem_singleton.mp member
    have hyphen : c = '-' := List.mem_singleton.mp inside
    rw [hyphen]
    rfl
  · obtain ⟨a, -, rfl⟩ := List.mem_map.mp member
    exact isNameChar_of_mem_name a c inside

/-- A line tells what its span has, whatever follows it. -/
theorem spanLine_append_inj {i j : Nat} {set set' : NonterminalSet} {rest rest' : String}
    (same : spanLine i j set ++ rest = spanLine i j set' ++ rest') :
    set = set' ∧ rest = rest' := by
  simp only [spanLine, cellText_eq_spaced, String.append_assoc, String.append_right_inj] at same
  have ends : ∀ rest, EndsRun Grammar.isNameChar ("\n" ++ rest) :=
    EndsRun.append (by decide) (by decide)
  have noSpace : ∀ rest, EndsRun (· == ' ') ("\n" ++ rest) :=
    EndsRun.append (by decide) (by decide)
  obtain ⟨names, same⟩ := spaced_append_inj (by decide) isNameChar_of_mem_cellNames
    isNameChar_of_mem_cellNames (ends rest) (ends rest') (noSpace rest) (noSpace rest') same
  exact ⟨eq_of_cellNames_eq names, (String.append_right_inj "\n").mp same⟩

/-! ## Charts over equally many tokens -/

section Layers

variable {size : Nat} {layers layers' : Layers size size} {rest rest' : String}

/-- The lines of one length tell the cells of its spans, whatever follows them. -/
theorem layerText_append_inj {d : Nat}
    (same : layerText ⟨size, layers⟩ d ++ rest = layerText ⟨size, layers'⟩ d ++ rest') :
    (∀ i (inside : i + d < size),
      cell ⟨size, layers⟩ i (i + d) (Nat.le_add_right i d) inside =
        cell ⟨size, layers'⟩ i (i + d) (Nat.le_add_right i d) inside) ∧ rest = rest' := by
  simp only [layerText, String.append_assoc, String.append_right_inj] at same
  obtain ⟨lines, rests⟩ :=
    join_map_append_inj (fun _ _ _ _ same => spanLine_append_inj same) same
  exact ⟨fun i inside => lines ⟨i, Nat.lt_sub_of_add_lt inside⟩ (List.mem_finRange _), rests⟩

theorem layers_eq_of_text_eq (same : text ⟨size, layers⟩ = text ⟨size, layers'⟩) :
    layers = layers' := by
  have followed : text ⟨size, layers⟩ ++ "" = text ⟨size, layers'⟩ ++ "" :=
    congrArg (· ++ "") same
  obtain ⟨cells, -⟩ :=
    join_map_append_inj (fun _ _ _ _ same => layerText_append_inj same) followed
  apply Layers.ext
  intro d i deep wide
  have cell := cells d (List.mem_reverse.mpr (List.mem_range.mpr deep)) i wide
  simpa only [Chart.cell, Nat.add_sub_cancel_left] using cell

end Layers

/-! ## The number of tokens -/

variable {chart chart' : Chart}

/-- The text begins with the heading of the span of the whole input. -/
theorem exists_text_eq (nonempty : 0 < chart.size) :
    ∃ rest, chart.text = "Span " ++ (toString chart.size ++ (":\n" ++ rest)) := by
  obtain ⟨d, size⟩ := Nat.exists_eq_add_one.mpr nonempty
  rw [text, size, List.range_succ, List.reverse_append, List.reverse_singleton,
    List.singleton_append, List.map_cons, String.join_cons, layerText]
  simp only [String.append_assoc]
  exact ⟨_, rfl⟩

theorem text_eq_empty_iff : chart.text = "" ↔ chart.size = 0 := by
  constructor
  · intro blank
    by_contra differ
    obtain ⟨rest, heading⟩ := exists_text_eq (Nat.pos_of_ne_zero differ)
    rw [heading] at blank
    exact absurd (String.append_eq_empty_iff.mp blank).1 (by decide)
  · intro empty
    rw [text, empty]
    rfl

theorem size_eq_of_text_eq (same : chart.text = chart'.text) : chart.size = chart'.size := by
  rcases Nat.eq_zero_or_pos chart.size with empty | nonempty
  · have empty' : chart'.size = 0 := by
      rw [← text_eq_empty_iff, ← same, text_eq_empty_iff, empty]
    rw [empty, empty']
  · have nonempty' : 0 < chart'.size := by
      rw [Nat.pos_iff_ne_zero, ne_eq, ← text_eq_empty_iff, ← same, text_eq_empty_iff]
      exact nonempty.ne'
    have colon : ∀ rest, EndsRun Char.isDigit (":\n" ++ rest) :=
      EndsRun.append (by decide) (by decide)
    obtain ⟨rest, heading⟩ := exists_text_eq nonempty
    obtain ⟨rest', heading'⟩ := exists_text_eq nonempty'
    rw [heading, heading', String.append_right_inj] at same
    exact (numeral_append_inj (colon rest) (colon rest') same).1

/-! ## Charts -/

theorem eq_of_text_eq (same : chart.text = chart'.text) : chart = chart' := by
  have sizes := size_eq_of_text_eq same
  obtain ⟨size, layers⟩ := chart
  obtain ⟨size', layers'⟩ := chart'
  subst sizes
  rw [layers_eq_of_text_eq same]

theorem eq_iff_lookup :
    chart = chart' ↔ chart.size = chart'.size ∧ ∀ i j, chart.lookup i j = chart'.lookup i j := by
  constructor
  · rintro rfl
    exact ⟨rfl, fun _ _ => rfl⟩
  · rintro ⟨sizes, lookups⟩
    obtain ⟨size, layers⟩ := chart
    obtain ⟨size', layers'⟩ := chart'
    subst sizes
    have same : layers = layers' := by
      apply Layers.ext
      intro d i deep wide
      have span : i ≤ i + d ∧ i + d < size := ⟨Nat.le_add_right i d, wide⟩
      have found := lookups i (i + d)
      rw [lookup, lookup, dif_pos span, dif_pos span] at found
      simpa only [cell, Nat.add_sub_cancel_left] using Except.ok.inj found
    rw [same]

end Chart

/-- No two charts have the same text; and two charts are the same if they are over equally many
tokens and each span has the same nonterminals in both. -/
theorem text_tells_chart (chart chart' : Chart) :
    (chart.text = chart'.text ↔ chart = chart') ∧
      (chart = chart' ↔
        chart.size = chart'.size ∧ ∀ i j, chart.lookup i j = chart'.lookup i j) :=
  ⟨⟨Chart.eq_of_text_eq, congrArg Chart.text⟩, Chart.eq_iff_lookup⟩

/-- A chart of two tokens with nothing in its cells. -/
example : (Chart.blank 2).text = "Span 2:\n  0..1: -\nSpan 1:\n  0..0: -\n  1..1: -\n" := by
  decide

end BalineseChart

import BalineseChart.Proofs.Text.Spacing
import Mathlib.Data.List.TakeWhile

/-!
# White space at the ends of a text

What is trimmed off is white space (`exists_trim`), and white space at the ends of a text
has no words in it, so a trimmed text has the words that it had before (`words_trim`).
-/

namespace BalineseChart.Text

/-- Nothing but white space. -/
def Blank (cs : List Char) : Prop :=
  ∀ c ∈ cs, isWhiteSpace c = true

instance (cs : List Char) : Decidable (Blank cs) :=
  decidable_of_iff (cs.all isWhiteSpace = true) List.all_eq_true

section Ends

variable {before after : List Char} {cs : List Char}

theorem words_blank_append (blank : Blank before) : words (before ++ cs) = words cs := by
  induction before with
  | nil => rfl
  | cons c before ih =>
    obtain ⟨white, rest⟩ := List.forall_mem_cons.mp blank
    exact (words_append_cons white [] (before ++ cs)).trans (ih rest)

/-- White space between two texts separates their words. -/
theorem words_append_gap {gap : List Char} (blank : Blank gap) (separated : gap ≠ [])
    (earlier later : List Char) :
    words (earlier ++ (gap ++ later)) = words earlier ++ words later := by
  obtain ⟨c, rest, rfl⟩ := List.exists_cons_of_ne_nil separated
  obtain ⟨white, others⟩ := List.forall_mem_cons.mp blank
  rw [List.cons_append, words_append_cons white, words_blank_append others]

theorem words_append_blank (blank : Blank after) : words (cs ++ after) = words cs := by
  rcases after with _ | ⟨c, after⟩
  · rw [List.append_nil]
  · have cut := words_append_gap blank (List.cons_ne_nil c after) cs []
    rw [List.append_nil] at cut
    exact cut.trans (List.append_nil _)

/-- What is trimmed off is white space. -/
theorem exists_trim (cs : List Char) :
    ∃ before after, Blank before ∧ Blank after ∧ cs = before ++ (trim cs ++ after) := by
  have open_end := List.takeWhile_append_dropWhile (p := isWhiteSpace)
    (l := (cs.dropWhile isWhiteSpace).reverse)
  refine ⟨cs.takeWhile isWhiteSpace, ((cs.dropWhile isWhiteSpace).reverse.takeWhile
    isWhiteSpace).reverse, ?_, ?_, ?_⟩
  · intro c member
    exact List.mem_takeWhile_imp member
  · intro c member
    exact List.mem_takeWhile_imp (List.mem_reverse.mp member)
  · rw [trim, ← List.reverse_append, open_end, List.reverse_reverse,
      List.takeWhile_append_dropWhile]

theorem trim_eq_nil_iff : trim cs = [] ↔ Blank cs := by
  constructor
  · intro nothing
    obtain ⟨before, after, blankBefore, blankAfter, whole⟩ := exists_trim cs
    rw [whole, nothing, List.nil_append]
    exact List.forall_mem_append.mpr ⟨blankBefore, blankAfter⟩
  · intro blank
    have dropped : cs.dropWhile isWhiteSpace = [] := List.dropWhile_eq_nil_iff.mpr blank
    rw [trim, dropped]
    rfl

/-- White space at the end of a text is trimmed off whatever stands before it. -/
theorem trim_append_blank (blank : Blank after) : trim (cs ++ after) = trim cs := by
  have reversed : ∀ c ∈ after.reverse, isWhiteSpace c = true :=
    fun c member => blank c (List.mem_reverse.mp member)
  have dropped : after.dropWhile isWhiteSpace = [] := List.dropWhile_eq_nil_iff.mpr blank
  rw [trim, trim, List.dropWhile_append]
  cases start : cs.dropWhile isWhiteSpace with
  | nil => rw [dropped, List.isEmpty_nil, if_pos rfl]
  | cons c rest =>
    rw [List.isEmpty_cons, if_neg Bool.false_ne_true, List.reverse_append,
      List.dropWhile_append_of_pos reversed]

theorem words_trim (cs : List Char) : words (trim cs) = words cs := by
  obtain ⟨before, after, blankBefore, blankAfter, whole⟩ := exists_trim cs
  conv => rhs; rw [whole]
  rw [words_blank_append blankBefore, words_append_blank blankAfter]

end Ends

theorem words_trimmed (text : String) : words (trimmed text).toList = words text.toList := by
  rw [trimmed, String.toList_ofList, words_trim]

theorem trimmed_eq_empty_iff {text : String} : trimmed text = "" ↔ Blank text.toList := by
  rw [trimmed, ← trim_eq_nil_iff, ← String.toList_inj, String.toList_ofList]
  rfl

end BalineseChart.Text

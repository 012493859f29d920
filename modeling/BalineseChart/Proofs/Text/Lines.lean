import BalineseChart.Text.Lines
import Mathlib.Data.List.Basic

/-!
# Putting lines together

Lines that are put together with line feeds between them are cut apart again at the same places
(`linesOf_followed`), if each of them is a whole line (`WholeLine`): a line feed in a line would
cut it, a carriage return at its end would be taken for a part of the line's end, and an empty
line at the end of the text would be left out.
-/

namespace BalineseChart.Text

/-- A line that is neither cut nor shortened where it stands between line feeds. -/
structure WholeLine (line : String) : Prop where
  nonempty : line ≠ ""
  noLineFeed : '\n' ∉ line.toList
  noReturn : line.toList.getLast? ≠ some '\r'

theorem WholeLine.toList_ne_nil {line : String} (whole : WholeLine line) : line.toList ≠ [] :=
  fun empty => whole.nonempty (String.toList_eq_nil_iff.mp empty)

/-- Whether a line is whole is seen at its end, if there is no line feed before that. -/
theorem WholeLine.append_left {start line : String} (noLineFeed : '\n' ∉ start.toList)
    (whole : WholeLine line) : WholeLine (start ++ line) where
  nonempty := fun empty => whole.nonempty (String.append_eq_empty_iff.mp empty).2
  noLineFeed := by
    rw [String.toList_append, List.mem_append]
    exact fun either => either.elim noLineFeed whole.noLineFeed
  noReturn := by
    rw [String.toList_append, List.getLast?_append_of_ne_nil _ whole.toList_ne_nil]
    exact whole.noReturn

/-- The lines, each after a line feed. -/
def followed (ls : List String) : String :=
  String.join (ls.map fun line => "\n" ++ line)

theorem followed_nil : followed [] = "" :=
  rfl

theorem followed_cons (line : String) (others : List String) :
    followed (line :: others) = "\n" ++ (line ++ followed others) := by
  rw [followed, List.map_cons, String.join_cons, String.append_assoc, followed]

theorem followed_append (ls others : List String) :
    followed (ls ++ others) = followed ls ++ followed others := by
  rw [followed, List.map_append, String.join_append, followed, followed]

/-! ## Cutting at line feeds -/

theorem lines_append_lineFeed {line : List Char} (noLineFeed : '\n' ∉ line)
    (noReturn : line.getLast? ≠ some '\r') (rest : List Char) :
    lines (line ++ '\n' :: rest) = line :: lines rest := by
  induction line with
  | nil => rw [List.nil_append, lines, if_pos rfl]
  | cons c cs ih =>
    obtain ⟨here, later⟩ := List.ne_and_not_mem_of_not_mem_cons noLineFeed
    rw [List.cons_append, lines, if_neg (Ne.symm here)]
    rcases cs with _ | ⟨d, cs⟩
    · have other : c ≠ '\r' := fun same => noReturn (same ▸ rfl)
      rw [if_neg (fun both => other both.1), List.nil_append, lines, if_pos rfl]
    · have next : d ≠ '\n' := fun same => later (same ▸ List.mem_cons_self)
      rw [if_neg (fun both => next (Option.some.inj both.2)), ih later noReturn]

theorem lines_of_noLineFeed {line : List Char} (nonempty : line ≠ []) (noLineFeed : '\n' ∉ line) :
    lines line = [line] := by
  induction line with
  | nil => exact (nonempty rfl).elim
  | cons c cs ih =>
    obtain ⟨here, later⟩ := List.ne_and_not_mem_of_not_mem_cons noLineFeed
    rw [lines, if_neg (Ne.symm here)]
    rcases cs with _ | ⟨d, cs⟩
    · rw [if_neg (fun both => nomatch both.2)]
      rfl
    · have next : d ≠ '\n' := fun same => later (same ▸ List.mem_cons_self)
      rw [if_neg (fun both => next (Option.some.inj both.2)), ih (List.cons_ne_nil d cs) later]

/-- Whole lines that are put together are cut apart again. -/
theorem linesOf_followed {line : String} {others : List String}
    (whole : ∀ l ∈ line :: others, WholeLine l) :
    linesOf (line ++ followed others) = line :: others := by
  induction others generalizing line with
  | nil =>
    have alone := whole line List.mem_cons_self
    rw [followed_nil, String.append_empty, linesOf,
      lines_of_noLineFeed alone.toList_ne_nil alone.noLineFeed, List.map_cons, List.map_nil,
      String.ofList_toList]
  | cons next others ih =>
    obtain ⟨first, later⟩ := List.forall_mem_cons.mp whole
    have cut : (line ++ followed (next :: others)).toList =
        line.toList ++ '\n' :: (next ++ followed others).toList := by
      rw [followed_cons, String.toList_append, String.toList_append]
      rfl
    rw [linesOf, cut, lines_append_lineFeed first.noLineFeed first.noReturn, List.map_cons,
      String.ofList_toList, ← linesOf, ih later]

/-- A text that comes after a line feed like some whole lines has these lines. -/
theorem linesOf_of_followed {text : String} {ls : List String} (nonempty : ls ≠ [])
    (whole : ∀ line ∈ ls, WholeLine line) (same : "\n" ++ text = followed ls) :
    linesOf text = ls := by
  rcases ls with _ | ⟨line, others⟩
  · exact (nonempty rfl).elim
  · rw [followed_cons, String.append_right_inj] at same
    rw [same, linesOf_followed whole]

end BalineseChart.Text

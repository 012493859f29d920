import BalineseChart.Proofs.Grammar.Printing
import Mathlib.Data.List.Basic
import Std.Data.String.ToNat

/-!
# Where a run ends

A text that begins with a run of some characters, followed by another character or by nothing,
begins with no other such run (`run_append_inj`). So what is printed at the front of a text can
be told from what follows it: a number if no digit follows (`numeral_append_inj`), the name of a
nonterminal if no character of names does (`name_append_inj`).

If each of several parts can be told from what follows it, then so can all of them together
(`join_map_append_inj`). Nor need their number be known if they are runs that stand after spaces,
as long as no space follows the last one (`spaced_append_inj`).
-/

namespace BalineseChart.Text

/-- The text does not begin with one of the characters. -/
def EndsRun (p : Char → Bool) (rest : String) : Prop :=
  rest.toList.head?.any p = false

instance (p : Char → Bool) (rest : String) : Decidable (EndsRun p rest) :=
  inferInstanceAs (Decidable (_ = false))

/-- Whether a run ends is seen at the front of what follows, if there is anything. -/
theorem EndsRun.append {p : Char → Bool} {front : String} (ends : EndsRun p front)
    (nonempty : front ≠ "") (rest : String) : EndsRun p (front ++ rest) := by
  have some_left : front.toList ≠ [] := mt String.toList_eq_nil_iff.mp nonempty
  rw [EndsRun, String.toList_append, List.head?_append_of_ne_nil _ some_left]
  exact ends

theorem takeWhile_run_append {p : Char → Bool} {run rest : String}
    (within : ∀ c ∈ run.toList, p c = true) (ends : EndsRun p rest) :
    (run ++ rest).toList.takeWhile p = run.toList := by
  have stop : rest.toList.takeWhile p = [] := by
    rcases shape : rest.toList with _ | ⟨c, cs⟩
    · rfl
    · have other : p c = false := by rwa [EndsRun, shape] at ends
      rw [List.takeWhile_cons_of_neg (Bool.eq_false_iff.mp other)]
  rw [String.toList_append, List.takeWhile_append_of_pos within, stop, List.append_nil]

theorem run_append_inj {p : Char → Bool} {run run' rest rest' : String}
    (within : ∀ c ∈ run.toList, p c = true) (within' : ∀ c ∈ run'.toList, p c = true)
    (ends : EndsRun p rest) (ends' : EndsRun p rest') (same : run ++ rest = run' ++ rest') :
    run = run' ∧ rest = rest' := by
  have runs : run = run' := by
    rw [← String.toList_inj, ← takeWhile_run_append within ends, same,
      takeWhile_run_append within' ends']
  subst runs
  exact ⟨rfl, (String.append_right_inj run).mp same⟩

theorem isDigit_of_mem_toString {n : Nat} : ∀ c ∈ (toString n).toList, c.isDigit = true := by
  intro c member
  rw [Nat.toString_eq_ofList_toDigits, String.toList_ofList] at member
  exact Nat.isDigit_of_mem_toDigits (by decide) (by decide) member

theorem numeral_append_inj {m n : Nat} {rest rest' : String} (ends : EndsRun Char.isDigit rest)
    (ends' : EndsRun Char.isDigit rest') (same : toString m ++ rest = toString n ++ rest') :
    m = n ∧ rest = rest' := by
  obtain ⟨numerals, rests⟩ :=
    run_append_inj isDigit_of_mem_toString isDigit_of_mem_toString ends ends' same
  exact ⟨Nat.repr_inj.mp numerals, rests⟩

theorem isNameChar_of_mem_name (a : Nonterminal) :
    ∀ c ∈ a.name.toList, Grammar.isNameChar c = true :=
  fun c member => Grammar.isNameChar_iff.mpr (Grammar.chars_of_name a c member)

theorem name_append_inj {a b : Nonterminal} {rest rest' : String}
    (ends : EndsRun Grammar.isNameChar rest) (ends' : EndsRun Grammar.isNameChar rest')
    (same : a.name ++ rest = b.name ++ rest') : a = b ∧ rest = rest' := by
  obtain ⟨names, rests⟩ :=
    run_append_inj (isNameChar_of_mem_name a) (isNameChar_of_mem_name b) ends ends' same
  exact ⟨Nonterminal.name_inj.mp names, rests⟩

/-! ## Several parts -/

/-- Parts that each can be told from what follows them are told one after the other. -/
theorem join_map_append_inj {α : Type} {part part' : α → String} {Alike : α → Prop} {xs : List α}
    {rest rest' : String}
    (each : ∀ x ∈ xs, ∀ rest rest', part x ++ rest = part' x ++ rest' → Alike x ∧ rest = rest')
    (same : String.join (xs.map part) ++ rest = String.join (xs.map part') ++ rest') :
    (∀ x ∈ xs, Alike x) ∧ rest = rest' := by
  induction xs with
  | nil => exact ⟨List.forall_mem_nil _, (String.append_right_inj "").mp same⟩
  | cons x xs ih =>
    obtain ⟨first, later⟩ := List.forall_mem_cons.mp each
    rw [List.map_cons, List.map_cons, String.join_cons, String.join_cons, String.append_assoc,
      String.append_assoc] at same
    obtain ⟨here, same⟩ := first _ _ same
    obtain ⟨there, rests⟩ := ih later same
    exact ⟨List.forall_mem_cons.mpr ⟨here, there⟩, rests⟩

/-- The runs, each after a space. -/
def spaced (runs : List String) : String :=
  String.join (runs.map fun run => " " ++ run)

theorem spaced_nil_append (rest : String) : spaced [] ++ rest = rest :=
  String.empty_append

theorem spaced_cons_append (run : String) (runs : List String) (rest : String) :
    spaced (run :: runs) ++ rest = " " ++ (run ++ (spaced runs ++ rest)) := by
  rw [spaced, List.map_cons, String.join_cons, String.append_assoc, String.append_assoc, spaced]

theorem endsRun_spaced_append {p : Char → Bool} (space : p ' ' = false) {rest : String}
    (ends : EndsRun p rest) (runs : List String) : EndsRun p (spaced runs ++ rest) := by
  cases runs with
  | nil => rwa [spaced_nil_append]
  | cons run runs =>
    have front : EndsRun p " " := space
    rw [spaced_cons_append]
    exact front.append (by decide) _

theorem ne_spaced_cons_append {rest : String} (noSpace : EndsRun (· == ' ') rest) (run : String)
    (runs : List String) (rest' : String) : rest ≠ spaced (run :: runs) ++ rest' := by
  rintro rfl
  rw [spaced_cons_append, EndsRun, String.toList_append] at noSpace
  exact Bool.noConfusion noSpace

theorem spaced_append_inj {p : Char → Bool} (space : p ' ' = false) {runs runs' : List String}
    {rest rest' : String} (within : ∀ run ∈ runs, ∀ c ∈ run.toList, p c = true)
    (within' : ∀ run ∈ runs', ∀ c ∈ run.toList, p c = true)
    (ends : EndsRun p rest) (ends' : EndsRun p rest')
    (noSpace : EndsRun (· == ' ') rest) (noSpace' : EndsRun (· == ' ') rest')
    (same : spaced runs ++ rest = spaced runs' ++ rest') : runs = runs' ∧ rest = rest' := by
  induction runs generalizing runs' with
  | nil =>
    cases runs' with
    | nil =>
      rw [spaced_nil_append, spaced_nil_append] at same
      exact ⟨rfl, same⟩
    | cons run' runs' =>
      rw [spaced_nil_append] at same
      exact (ne_spaced_cons_append noSpace run' runs' rest' same).elim
  | cons run runs ih =>
    cases runs' with
    | nil =>
      rw [spaced_nil_append] at same
      exact (ne_spaced_cons_append noSpace' run runs rest same.symm).elim
    | cons run' runs' =>
      rw [spaced_cons_append, spaced_cons_append, String.append_right_inj] at same
      obtain ⟨here, later⟩ := List.forall_mem_cons.mp within
      obtain ⟨here', later'⟩ := List.forall_mem_cons.mp within'
      obtain ⟨rfl, others⟩ := run_append_inj here here' (endsRun_spaced_append space ends runs)
        (endsRun_spaced_append space ends' runs') same
      obtain ⟨rfl, rests⟩ := ih later later' others
      exact ⟨rfl, rests⟩

end BalineseChart.Text

import BalineseChart.Text.LowerCase

/-!
# What is in lower case already

A text that has been put into lower case stays as it is when that is done again
(`lowerCase_lowerCase`), and so does a text that is put together from its characters
(`lowerFrom_of_lowered`). For a lower-case form is a character that no rule of the mapping
changes, wherever it stands.

The table of the mapping says so: the code points that it changes and those that it gives,
as sets of bits, have nothing in common (`bitsOf_changed_and_given`).
-/

namespace BalineseChart.Text

/-! ## The code points of the mapping -/

/-- The code points from `start` on that lie as those of the run do. -/
def CaseRun.codesFrom (run : CaseRun) (start : Nat) : List Nat :=
  (List.range ((run.last - run.first) / run.step + 1)).map fun k => start + k * run.step

/-- The code points that lower case changes. -/
def changedCodes : List Nat :=
  'İ'.toNat :: caseRuns.flatMap fun run => run.codesFrom run.first

/-- The code points that lower case puts in the place of others. -/
def givenCodes : List Nat :=
  'ς'.toNat :: '\u0307'.toNat :: caseRuns.flatMap fun run => run.codesFrom run.target

theorem CaseRun.shift_mem_codesFrom {run : CaseRun} {code : Nat} (inside : run.contains code = true)
    (start : Nat) : start + (code - run.first) ∈ run.codesFrom start := by
  simp only [contains, Bool.and_eq_true, decide_eq_true_eq, beq_iff_eq] at inside
  obtain ⟨⟨lower, upper⟩, aligned⟩ := inside
  refine List.mem_map.mpr ⟨(code - run.first) / run.step, List.mem_range.mpr ?_, ?_⟩
  · exact Nat.lt_succ_of_le (Nat.div_le_div_right (Nat.sub_le_sub_right upper run.first))
  · rw [Nat.div_mul_cancel (Nat.dvd_of_mod_eq_zero aligned)]

theorem mem_changedCodes {run : CaseRun} (listed : run ∈ caseRuns) {code : Nat}
    (inside : run.contains code = true) : code ∈ changedCodes := by
  have lower : run.first ≤ code := by
    simp only [CaseRun.contains, Bool.and_eq_true, decide_eq_true_eq] at inside
    exact inside.1.1
  have member := CaseRun.shift_mem_codesFrom inside run.first
  rw [Nat.add_sub_cancel' lower] at member
  exact List.mem_cons_of_mem _ (List.mem_flatMap.mpr ⟨run, listed, member⟩)

theorem lower_mem_givenCodes {run : CaseRun} (listed : run ∈ caseRuns) {code : Nat}
    (inside : run.contains code = true) : run.lower code ∈ givenCodes := by
  have member := CaseRun.shift_mem_codesFrom inside run.target
  exact List.mem_cons_of_mem _ (List.mem_cons_of_mem _ (List.mem_flatMap.mpr ⟨run, listed, member⟩))

/-! ## Sets of code points as bits -/

/-- The number whose bits are set at the listed places. -/
def bitsOf (codes : List Nat) : Nat :=
  codes.foldl (fun bits code => bits ||| 1 <<< code) 0

theorem testBit_bitsOf {codes : List Nat} {code : Nat} (member : code ∈ codes) :
    (bitsOf codes).testBit code = true := by
  have run : ∀ bits : Nat, bits.testBit code = true ∨ code ∈ codes →
      (codes.foldl (fun bits code => bits ||| 1 <<< code) bits).testBit code = true := by
    clear member
    induction codes with
    | nil => exact fun bits set => set.elim id (fun absurd => nomatch absurd)
    | cons other codes ih =>
      intro bits set
      apply ih
      rw [Nat.testBit_or, Bool.or_eq_true]
      rcases set with set | member
      · exact Or.inl (Or.inl set)
      · rcases List.mem_cons.mp member with rfl | later
        · exact Or.inl (Or.inr (by simp))
        · exact Or.inr later
  exact run 0 (Or.inr member)

theorem bitsOf_changed_and_given : bitsOf changedCodes &&& bitsOf givenCodes = 0 := by
  decide +kernel

/-- No character that lower case gives is changed by it. -/
theorem not_mem_changedCodes_of_given {code : Nat} (given : code ∈ givenCodes) :
    code ∉ changedCodes := by
  intro changed
  have both : (bitsOf changedCodes &&& bitsOf givenCodes).testBit code = true := by
    rw [Nat.testBit_and, testBit_bitsOf changed, testBit_bitsOf given]
    rfl
  rw [bitsOf_changed_and_given, Nat.zero_testBit] at both
  cases both

/-! ## Characters in lower case -/

/-- The character is its own lower-case form, wherever it stands. -/
def Lowered (c : Char) : Prop :=
  ∀ (afterCased : Bool) (rest : List Char), lowerAt afterCased c rest = [c]

theorem lowered_of_lowerChar {c : Char} (noSigma : c ≠ 'Σ') (noDottedI : c ≠ 'İ')
    (kept : lowerChar c = c) : Lowered c := by
  intro afterCased rest
  rw [lowerAt, if_neg noSigma, if_neg noDottedI, kept]

theorem lowered_of_not_changed {c : Char} (kept : c.toNat ∉ changedCodes) : Lowered c := by
  have noSigma : c ≠ 'Σ' := by
    rintro rfl
    revert kept
    decide +kernel
  have noDottedI : c ≠ 'İ' := by
    rintro rfl
    exact kept List.mem_cons_self
  have missing : caseRuns.find? (·.contains c.toNat) = none :=
    List.find?_eq_none.mpr fun run listed inside => kept (mem_changedCodes listed inside)
  exact lowered_of_lowerChar noSigma noDottedI (by rw [lowerChar, missing])

theorem lowered_of_given {c : Char} (given : c.toNat ∈ givenCodes) : Lowered c :=
  lowered_of_not_changed (not_mem_changedCodes_of_given given)

theorem toNat_ofNat {code : Nat} (valid : code.isValidChar) : (Char.ofNat code).toNat = code := by
  rw [Char.ofNat, dif_pos valid]
  rfl

theorem isValidChar_of_given : ∀ code ∈ givenCodes, code.isValidChar := by
  decide +kernel

/-- The form of a character in lower case is made of such characters. -/
theorem lowered_of_mem_lowerAt {afterCased : Bool} {c d : Char} {rest : List Char}
    (member : d ∈ lowerAt afterCased c rest) : Lowered d := by
  unfold lowerAt at member
  split at member
  · split at member
    · obtain rfl := List.mem_singleton.mp member
      exact lowered_of_given List.mem_cons_self
    · obtain rfl := List.mem_singleton.mp member
      apply lowered_of_given
      decide +kernel
  · next noSigma =>
    split at member
    · rcases List.mem_cons.mp member with rfl | last
      · apply lowered_of_given
        decide +kernel
      · obtain rfl := List.mem_singleton.mp last
        exact lowered_of_given (List.mem_cons_of_mem _ List.mem_cons_self)
    · next noDottedI =>
      obtain rfl := List.mem_singleton.mp member
      cases found : caseRuns.find? (·.contains c.toNat) with
      | none =>
        have same : lowerChar c = c := by rw [lowerChar, found]
        rw [same]
        exact lowered_of_lowerChar noSigma noDottedI same
      | some run =>
        have inside := List.find?_some found
        have given := lower_mem_givenCodes (List.mem_of_find?_eq_some found) inside
        have form : (lowerChar c).toNat = run.lower c.toNat := by
          rw [lowerChar, found]
          exact toNat_ofNat (isValidChar_of_given _ given)
        exact lowered_of_given (form ▸ given)

/-! ## Texts in lower case -/

theorem lowered_of_mem_lowerFrom {afterCased : Bool} {cs : List Char} {c : Char}
    (member : c ∈ lowerFrom afterCased cs) : Lowered c := by
  induction cs generalizing afterCased with
  | nil => cases member
  | cons d rest ih =>
    rw [lowerFrom] at member
    rcases List.mem_append.mp member with here | later
    · exact lowered_of_mem_lowerAt here
    · exact ih later

/-- A text of characters in lower case is in lower case. -/
theorem lowerFrom_of_lowered {cs : List Char} (lowered : ∀ c ∈ cs, Lowered c)
    (afterCased : Bool) : lowerFrom afterCased cs = cs := by
  induction cs generalizing afterCased with
  | nil => rfl
  | cons c rest ih =>
    obtain ⟨here, later⟩ := List.forall_mem_cons.mp lowered
    rw [lowerFrom, here, ih later]
    rfl

theorem lowerCase_lowerCase (cs : List Char) : lowerCase (lowerCase cs) = lowerCase cs :=
  lowerFrom_of_lowered (fun _ member => lowered_of_mem_lowerFrom member) false

end BalineseChart.Text

import BalineseChart.Text.LowerCase
import BalineseChart.Text.WhiteSpace

/-!
# White space cuts a text apart

A text that is put into lower case and then cut into words may as well be cut at any white
space first, and its two sides put into lower case each by itself
(`words_lowerCase_append_cons`). That words are cut the same is plain. But the form of a
capital sigma depends on what stands around it, however far away the next letter is. White
space keeps the two sides from seeing each other: it is neither cased nor skipped in the
look for a cased character, so next to a sigma it is like the end of the text.

Those facts about characters are facts about tables of code points, which have none in
common (`CodeRange.Apart`).

`induction_at_whiteSpace` is how a text is taken apart at its white space; it gives what
`words` holds.
-/

namespace BalineseChart.Text

/-! ## White space in the tables of characters -/

/-- No code point is in a range of both lists. -/
def CodeRange.Apart (ranges others : List CodeRange) : Prop :=
  ∀ range ∈ ranges, ∀ other ∈ others, range.last < other.first ∨ other.last < range.first

instance (ranges others : List CodeRange) : Decidable (CodeRange.Apart ranges others) :=
  inferInstanceAs (Decidable (∀ range ∈ ranges, ∀ other ∈ others, _ ∨ _))

theorem CodeRange.covers_iff {ranges : List CodeRange} {c : Char} :
    covers ranges c = true ↔ ∃ range ∈ ranges, range.first ≤ c.toNat ∧ c.toNat ≤ range.last := by
  simp [covers, contains]

theorem CodeRange.Apart.covers_eq_false {ranges others : List CodeRange} {c : Char}
    (apart : Apart ranges others) (covered : covers ranges c = true) : covers others c = false := by
  rw [Bool.eq_false_iff]
  intro both
  obtain ⟨range, member, lower, upper⟩ := covers_iff.mp covered
  obtain ⟨other, member', lower', upper'⟩ := covers_iff.mp both
  have separate := apart range member other member'
  omega

section Characters

variable {c : Char} (white : isWhiteSpace c = true)

include white

theorem isCased_of_isWhiteSpace : isCased c = false := by
  have apart : CodeRange.Apart whiteSpaceRanges casedRanges := by decide +kernel
  exact apart.covers_eq_false white

theorem isCaseIgnorable_of_isWhiteSpace : isCaseIgnorable c = false := by
  have apart : CodeRange.Apart whiteSpaceRanges caseIgnorableRanges := by
    decide +kernel
  exact apart.covers_eq_false white

theorem lowerChar_of_isWhiteSpace : lowerChar c = c := by
  have apart : CodeRange.Apart whiteSpaceRanges
      (caseRuns.map fun run => ⟨run.first, run.last⟩) := by decide +kernel
  have outside := apart.covers_eq_false white
  have missing : caseRuns.find? (·.contains c.toNat) = none := by
    rw [List.find?_eq_none]
    intro run member inside
    rw [Bool.eq_false_iff] at outside
    apply outside
    simp only [CaseRun.contains, Bool.and_eq_true, decide_eq_true_eq] at inside
    exact CodeRange.covers_iff.mpr ⟨_, List.mem_map_of_mem member, inside.1⟩
  rw [lowerChar, missing]

theorem lowerAt_of_isWhiteSpace (afterCased : Bool) (rest : List Char) :
    lowerAt afterCased c rest = [c] := by
  have noSigma : c ≠ 'Σ' := by
    rintro rfl
    revert white
    decide
  have noDottedI : c ≠ 'İ' := by
    rintro rfl
    revert white
    decide
  rw [lowerAt, if_neg noSigma, if_neg noDottedI, lowerChar_of_isWhiteSpace white]

theorem casedAfter_of_isWhiteSpace (afterCased : Bool) : casedAfter afterCased c = false := by
  rw [casedAfter, isCaseIgnorable_of_isWhiteSpace white, if_neg Bool.false_ne_true,
    isCased_of_isWhiteSpace white]

/-! ## Lower case on the two sides of white space -/

/-- To the look for a cased character, white space is like the end of the text. -/
theorem startsCased_append_cons (cs rest : List Char) :
    startsCased (cs ++ c :: rest) = startsCased cs := by
  unfold startsCased
  rw [List.dropWhile_append]
  cases skipped : cs.dropWhile isCaseIgnorable with
  | cons d others => rfl
  | nil =>
    have kept := isCaseIgnorable_of_isWhiteSpace white
    rw [List.isEmpty_nil, if_pos rfl, List.dropWhile_cons_of_neg (Bool.eq_false_iff.mp kept)]
    exact isCased_of_isWhiteSpace white

theorem lowerFrom_append_cons (afterCased : Bool) (cs rest : List Char) :
    lowerFrom afterCased (cs ++ c :: rest) = lowerFrom afterCased cs ++ c :: lowerFrom false rest := by
  induction cs generalizing afterCased with
  | nil =>
    have first : lowerFrom afterCased (c :: rest) = [c] ++ lowerFrom false rest := by
      rw [lowerFrom, lowerAt_of_isWhiteSpace white, casedAfter_of_isWhiteSpace white]
    exact first
  | cons d cs ih =>
    have seen : lowerAt afterCased d (cs ++ c :: rest) = lowerAt afterCased d cs := by
      unfold lowerAt
      rw [startsCased_append_cons white]
    rw [List.cons_append, lowerFrom, lowerFrom, seen, ih, List.append_assoc]

theorem lowerCase_append_cons (cs rest : List Char) :
    lowerCase (cs ++ c :: rest) = lowerCase cs ++ c :: lowerCase rest :=
  lowerFrom_append_cons white false cs rest

/-! ## Words on the two sides of white space -/

theorem splitFirstWord_append_cons (cs rest : List Char) :
    splitFirstWord (cs ++ c :: rest) =
      ((splitFirstWord cs).1, (splitFirstWord cs).2 ++ words rest) := by
  induction cs with
  | nil =>
    have first : splitFirstWord (c :: rest) = ([], words rest) := by
      simp only [splitFirstWord, white, if_true, words]
    exact first
  | cons d cs ih =>
    rw [List.cons_append, splitFirstWord, splitFirstWord, ih]
    dsimp only
    split
    · split <;> rfl
    · rfl

theorem words_append_cons (cs rest : List Char) :
    words (cs ++ c :: rest) = words cs ++ words rest := by
  rw [words, splitFirstWord_append_cons white, words.eq_def cs]
  dsimp only
  split <;> rfl

/-- The words of a text in lower case are those on the two sides of any white space. -/
theorem words_lowerCase_append_cons (cs rest : List Char) :
    words (lowerCase (cs ++ c :: rest)) = words (lowerCase cs) ++ words (lowerCase rest) := by
  rw [lowerCase_append_cons white, words_append_cons white]

end Characters

/-! ## The words of a text -/

/-- No white space. -/
def Unspaced (cs : List Char) : Prop :=
  ∀ c ∈ cs, isWhiteSpace c = false

/-- A text has no white space, or it can be cut at its first white space. -/
theorem induction_at_whiteSpace {motive : List Char → Prop}
    (whole : ∀ cs, Unspaced cs → motive cs)
    (cut : ∀ cs c rest, Unspaced cs → isWhiteSpace c = true → motive rest →
      motive (cs ++ c :: rest)) (cs : List Char) : motive cs := by
  have run : ∀ start, Unspaced start → motive (start ++ cs) := by
    induction cs with
    | nil =>
      intro start unspaced
      rw [List.append_nil]
      exact whole start unspaced
    | cons c rest ih =>
      intro start unspaced
      cases white : isWhiteSpace c with
      | true => exact cut start c rest unspaced white (ih [] (fun _ absurd => nomatch absurd))
      | false =>
        rw [List.append_cons]
        apply ih
        exact List.forall_mem_append.mpr ⟨unspaced, List.forall_mem_singleton.mpr white⟩
  exact run [] (fun _ absurd => nomatch absurd)

theorem splitFirstWord_of_unspaced {cs : List Char} (unspaced : Unspaced cs) :
    splitFirstWord cs = (cs, []) := by
  induction cs with
  | nil => rfl
  | cons c rest ih =>
    obtain ⟨dark, others⟩ := List.forall_mem_cons.mp unspaced
    rw [splitFirstWord, ih others]
    dsimp only
    rw [if_neg (Bool.eq_false_iff.mp dark)]

theorem words_of_unspaced {cs : List Char} (unspaced : Unspaced cs) (some_left : cs ≠ []) :
    words cs = [cs] := by
  rw [words, splitFirstWord_of_unspaced unspaced]
  dsimp only
  rw [if_neg (mt List.isEmpty_iff.mp some_left)]

/-- A word is a part of the text, not empty and without white space. -/
theorem of_mem_words {cs word : List Char} (member : word ∈ words cs) :
    word ≠ [] ∧ Unspaced word ∧ ∀ c ∈ word, c ∈ cs := by
  have alone : ∀ cs, Unspaced cs → word ∈ words cs → word ≠ [] ∧ word = cs := by
    intro cs unspaced member
    rcases cs with _ | ⟨c, rest⟩
    · cases member
    · rw [words_of_unspaced unspaced (List.cons_ne_nil c rest), List.mem_singleton] at member
      exact ⟨member ▸ List.cons_ne_nil c rest, member⟩
  induction cs using induction_at_whiteSpace with
  | whole cs unspaced =>
    obtain ⟨some_left, rfl⟩ := alone cs unspaced member
    exact ⟨some_left, unspaced, fun _ here => here⟩
  | cut cs c rest unspaced white ih =>
    rw [words_append_cons white] at member
    rcases List.mem_append.mp member with first | later
    · obtain ⟨some_left, rfl⟩ := alone cs unspaced first
      exact ⟨some_left, unspaced, fun _ here => List.mem_append_left _ here⟩
    · obtain ⟨some_left, unspaced, part⟩ := ih later
      refine ⟨some_left, unspaced, fun d here => ?_⟩
      exact List.mem_append_right _ (List.mem_cons_of_mem c (part d here))

/-- The words of a text, one after the other, are the text without its white space. -/
theorem flatten_words (cs : List Char) :
    (words cs).flatten = cs.filter fun c => !isWhiteSpace c := by
  have alone : ∀ cs, Unspaced cs → (words cs).flatten = cs.filter fun c => !isWhiteSpace c := by
    intro cs unspaced
    have kept : cs.filter (fun c => !isWhiteSpace c) = cs := by
      rw [List.filter_eq_self]
      intro c member
      rw [unspaced c member, Bool.not_false]
    rcases cs with _ | ⟨c, rest⟩
    · rfl
    · rw [words_of_unspaced unspaced (List.cons_ne_nil c rest), List.flatten_singleton, kept]
  induction cs using induction_at_whiteSpace with
  | whole cs unspaced => exact alone cs unspaced
  | cut cs c rest unspaced white ih =>
    rw [words_append_cons white, List.flatten_append, alone cs unspaced, ih, List.filter_append,
      List.filter_cons, white, Bool.not_true, if_neg Bool.false_ne_true]

/-- The words of a text in lower case are those of its words, each put into lower case by
itself. -/
theorem words_lowerCase_eq_flatMap (cs : List Char) :
    words (lowerCase cs) = (words cs).flatMap fun word => words (lowerCase word) := by
  have alone : ∀ cs, Unspaced cs →
      words (lowerCase cs) = (words cs).flatMap fun word => words (lowerCase word) := by
    intro cs unspaced
    rcases cs with _ | ⟨c, rest⟩
    · rfl
    · rw [words_of_unspaced unspaced (List.cons_ne_nil c rest), List.flatMap_singleton]
  induction cs using induction_at_whiteSpace with
  | whole cs unspaced => exact alone cs unspaced
  | cut cs c rest unspaced white ih =>
    rw [words_lowerCase_append_cons white, words_append_cons white, List.flatMap_append,
      ← alone cs unspaced, ih]

theorem words_lowerCase_congr {cs cs' : List Char} (same : words cs = words cs') :
    words (lowerCase cs) = words (lowerCase cs') := by
  rw [words_lowerCase_eq_flatMap, same, ← words_lowerCase_eq_flatMap]

end BalineseChart.Text

import BalineseChart.Command.Session

/-!
# The lines of an input

The command cuts its input into lines as bytes and decodes each line by itself. For an
input that is the UTF-8 of a text this is the same as cutting the text after each line
feed (`inputLines_utf8Bytes`), for no other character has the byte of a line feed in it.
So every line of such an input can be decoded, although only the whole input was said to
be UTF-8.

An input that is empty or ends in a line feed can be cut apart from what follows it
(`inputLines_append`).
-/

namespace BalineseChart

/-! ## Cutting a list after its ends -/

section CutAfter

variable {α β : Type} {ends : α → Bool}

/-- The list in pieces, each of which ends with the first end in it, or with the list. -/
def cutAfter (ends : α → Bool) : List α → List (List α)
  | [] => []
  | x :: rest =>
    if ends x then
      [x] :: cutAfter ends rest
    else
      match cutAfter ends rest with
      | [] => [[x]]
      | piece :: others => (x :: piece) :: others

theorem cutAfter_cons_of_end {x : α} (atEnd : ends x = true) (rest : List α) :
    cutAfter ends (x :: rest) = [x] :: cutAfter ends rest := by
  rw [cutAfter, if_pos atEnd]

theorem cutAfter_eq_nil_iff {xs : List α} : cutAfter ends xs = [] ↔ xs = [] := by
  cases xs with
  | nil => exact iff_of_true rfl rfl
  | cons x rest =>
    unfold cutAfter
    refine iff_of_false ?_ (List.cons_ne_nil x rest)
    split
    · exact List.cons_ne_nil _ _
    · split <;> exact List.cons_ne_nil _ _

/-- What has no end in it goes before the first piece of what follows. -/
theorem cutAfter_append_of_open {xs : List α} (some_left : xs ≠ [])
    (noEnd : ∀ x ∈ xs, ends x = false) (ys : List α) :
    cutAfter ends (xs ++ ys) =
      match cutAfter ends ys with
      | [] => [xs]
      | piece :: others => (xs ++ piece) :: others := by
  induction xs with
  | nil => exact (some_left rfl).elim
  | cons x rest ih =>
    obtain ⟨here, later⟩ := List.forall_mem_cons.mp noEnd
    rw [List.cons_append, cutAfter, if_neg (Bool.eq_false_iff.mp here)]
    rcases rest with _ | ⟨y, rest⟩
    · rw [List.nil_append]
      cases cutAfter ends ys <;> rfl
    · rw [ih (List.cons_ne_nil y rest) later]
      cases cutAfter ends ys <;> rfl

/-- A list that is empty or ends in an end is cut apart from what follows it. -/
theorem cutAfter_append {xs : List α} (ended : ∀ x ∈ xs.getLast?, ends x = true) (ys : List α) :
    cutAfter ends (xs ++ ys) = cutAfter ends xs ++ cutAfter ends ys := by
  induction xs with
  | nil => rfl
  | cons x rest ih =>
    rw [List.cons_append, cutAfter, cutAfter]
    rcases rest with _ | ⟨y, rest⟩
    · rw [if_pos (ended x rfl), if_pos (ended x rfl)]
      rfl
    · rw [ih ended]
      split
      · rfl
      · cases pieces : cutAfter ends (y :: rest) with
        | nil => exact (List.cons_ne_nil y rest (cutAfter_eq_nil_iff.mp pieces)).elim
        | cons piece others => rfl

/-- A list may be cut before or after its members are spelt out, if exactly the ends are
spelt with an end. -/
theorem cutAfter_flatMap {spell : α → List β} {ends' : β → Bool}
    (atEnd : ∀ x, ends x = true → ∃ y, spell x = [y] ∧ ends' y = true)
    (noEnd : ∀ x, ends x = false → spell x ≠ [] ∧ ∀ y ∈ spell x, ends' y = false)
    (xs : List α) :
    cutAfter ends' (xs.flatMap spell) = (cutAfter ends xs).map (·.flatMap spell) := by
  induction xs with
  | nil => rfl
  | cons x rest ih =>
    rw [List.flatMap_cons]
    cases verdict : ends x with
    | true =>
      obtain ⟨y, spelt, atEnd⟩ := atEnd x verdict
      rw [cutAfter_cons_of_end verdict, spelt, List.singleton_append, cutAfter_cons_of_end atEnd,
        ih, List.map_cons, List.flatMap_singleton, spelt]
    | false =>
      obtain ⟨some_left, noEnd⟩ := noEnd x verdict
      rw [cutAfter_append_of_open some_left noEnd, ih, cutAfter,
        if_neg (Bool.eq_false_iff.mp verdict)]
      cases cutAfter ends rest with
      | nil => simp
      | cons piece others => simp

end CutAfter

/-! ## Texts and their bytes -/

/-- The bytes of a text in UTF-8. -/
def utf8Bytes (text : String) : List UInt8 :=
  text.toList.flatMap String.utf8EncodeChar

theorem toByteArray_eq (text : String) : text.toByteArray = ⟨(utf8Bytes text).toArray⟩ := by
  have whole : text.toByteArray = text.toList.utf8Encode := by
    rw [← String.toByteArray_ofList, String.ofList_toList]
  rw [whole]
  apply ByteArray.ext
  apply Array.toList_inj.mp
  exact List.toList_data_toByteArray

/-- What can be decoded are the bytes of a text. -/
theorem decode?_eq_some_iff {bytes : List UInt8} {text : String} :
    decode? bytes = some text ↔ bytes = utf8Bytes text := by
  have same : text.toByteArray = ⟨bytes.toArray⟩ ↔ bytes = utf8Bytes text := by
    rw [toByteArray_eq]
    refine ⟨fun same => ?_, fun same => by rw [same]⟩
    exact (List.toArray_inj (ByteArray.mk.inj same)).symm
  rw [← same, decode?, String.fromUTF8?]
  split
  · rw [Option.some.injEq, ← String.toByteArray_inj]
    exact eq_comm
  · next invalid =>
    refine iff_of_false (fun absurd => (nomatch absurd)) ?_
    intro same
    exact invalid (same ▸ text.isValidUTF8)

theorem decode?_utf8Bytes (text : String) : decode? (utf8Bytes text) = some text :=
  decode?_eq_some_iff.mpr rfl

theorem ofNat_ne_lineFeed {n : Nat} (other : n ≠ 10) (small : n < 256) :
    UInt8.ofNat n ≠ 10 := by
  intro same
  have values := congrArg UInt8.toNat same
  rw [UInt8.toNat_ofNat', Nat.mod_eq_of_lt small] at values
  exact other values

/-- No other character than a line feed has the byte of a line feed in it. -/
theorem ne_lineFeed_of_mem_utf8EncodeChar {c : Char} (other : c ≠ '\n') {byte : UInt8}
    (member : byte ∈ String.utf8EncodeChar c) : byte ≠ 10 := by
  have code : c.val.toNat ≠ 10 := by
    intro same
    exact other (Char.ext (UInt32.toNat_inj.mp same))
  simp only [String.utf8EncodeChar] at member
  split at member
  · obtain rfl := List.mem_singleton.mp member
    exact ofNat_ne_lineFeed code (by omega)
  · have marked : ∃ n, byte = UInt8.ofNat n ∧ 128 ≤ n ∧ n < 256 := by
      split at member
      · simp only [List.mem_cons, List.not_mem_nil, or_false] at member
        rcases member with rfl | rfl <;> exact ⟨_, rfl, by omega, by omega⟩
      · split at member <;> simp only [List.mem_cons, List.not_mem_nil, or_false] at member
        · rcases member with rfl | rfl | rfl <;> exact ⟨_, rfl, by omega, by omega⟩
        · rcases member with rfl | rfl | rfl | rfl <;> exact ⟨_, rfl, by omega, by omega⟩
    obtain ⟨n, rfl, large, small⟩ := marked
    exact ofNat_ne_lineFeed (by omega) small

/-! ## The lines -/

/-- The lines of a text, each with the line feed that ends it. -/
def textLines (text : String) : List String :=
  (cutAfter (· == '\n') text.toList).map String.ofList

theorem inputLines_eq_cutAfter (bytes : List UInt8) :
    inputLines bytes = cutAfter (· == 10) bytes := by
  induction bytes with
  | nil => rfl
  | cons byte rest ih =>
    by_cases lineFeed : byte = 10
    · rw [inputLines, if_pos lineFeed, ih, cutAfter, if_pos (beq_iff_eq.mpr lineFeed)]
    · rw [inputLines, if_neg lineFeed, ih, cutAfter, if_neg (mt beq_iff_eq.mp lineFeed)]
      cases cutAfter (· == 10) rest <;> rfl

theorem inputLines_append {bytes : List UInt8} (ended : bytes = [] ∨ bytes.getLast? = some 10)
    (later : List UInt8) : inputLines (bytes ++ later) = inputLines bytes ++ inputLines later := by
  rw [inputLines_eq_cutAfter, inputLines_eq_cutAfter, inputLines_eq_cutAfter]
  apply cutAfter_append
  intro byte last
  rcases ended with rfl | lineFeed
  · cases last
  · rw [lineFeed] at last
    cases last
    rfl

/-- The lines of a text in bytes are those of its characters. -/
theorem inputLines_utf8Bytes (text : String) :
    inputLines (utf8Bytes text) = (textLines text).map utf8Bytes := by
  have lineFeed : ∀ c : Char, (c == '\n') = true →
      ∃ byte, String.utf8EncodeChar c = [byte] ∧ (byte == 10) = true := by
    intro c same
    rw [eq_of_beq same]
    exact ⟨10, rfl, rfl⟩
  have others : ∀ c : Char, (c == '\n') = false →
      String.utf8EncodeChar c ≠ [] ∧ ∀ byte ∈ String.utf8EncodeChar c, (byte == 10) = false := by
    intro c differ
    have width := c.utf8Size_pos
    rw [← String.length_utf8EncodeChar] at width
    refine ⟨List.ne_nil_of_length_pos width, fun byte member => ?_⟩
    exact beq_eq_false_iff_ne.mpr
      (ne_lineFeed_of_mem_utf8EncodeChar (ne_of_beq_false differ) member)
  rw [inputLines_eq_cutAfter, utf8Bytes, cutAfter_flatMap lineFeed others, textLines, List.map_map]
  apply List.map_congr_left
  intro line member
  rw [Function.comp_apply, utf8Bytes, String.toList_ofList]

end BalineseChart

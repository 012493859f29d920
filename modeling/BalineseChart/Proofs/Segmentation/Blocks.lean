import BalineseChart.Proofs.Chart.Gaps
import BalineseChart.Proofs.RuleOrder
import BalineseChart.Proofs.Segmentation.Echo
import Mathlib.Data.List.Forall2

/-!
# Tokens are blocks of words

The tokens of a sentence are its words in lower case one after the other, each whole or cut
into a stem and a clitic (`Block`). Put together they are the sentence in lower case without
its white space (`tokens_in_blocks`): no text is lost, and none is made up.

Which words are cut is a question about their bytes: a clitic has to be shorter than the word
in UTF-8, and its bytes have to be the last ones of the word (`EndsProperly`). Wherever the
bytes of a clitic end those of a word, they begin at a character (`isValid_cliticStart`), so
what stands before them is a text too (`exists_stem_of_bytes`). The stem may be taken by
counting bytes, and the question is the same as that asked of characters
(`endsIn_iff_endsProperly`).
-/

namespace BalineseChart

open Text

/-! ## Endings in bytes and in characters -/

/-- The word ends in the bytes of the clitic and has other bytes before them. -/
structure EndsProperly (word clitic : String) : Prop where
  shorter : clitic.utf8ByteSize < word.utf8ByteSize
  atEnd : ∃ front : ByteArray, word.toByteArray = front ++ clitic.toByteArray

/-- The place of a clitic at the end of a word, counted in bytes. -/
def cliticStart (word clitic : String) : String.Pos.Raw :=
  ⟨word.utf8ByteSize - clitic.utf8ByteSize⟩

section Endings

variable {word clitic : String}

theorem byteIdx_cliticStart {front : ByteArray}
    (atEnd : word.toByteArray = front ++ clitic.toByteArray) :
    (cliticStart word clitic).byteIdx = front.size := by
  have sizes : word.utf8ByteSize = front.size + clitic.utf8ByteSize := by
    rw [← String.size_toByteArray, atEnd, ByteArray.size_append, String.size_toByteArray]
  rw [cliticStart, sizes, Nat.add_sub_cancel]

/-- Where the bytes of a text end those of another text, they begin at a character. -/
theorem isValid_cliticStart {front : ByteArray}
    (atEnd : word.toByteArray = front ++ clitic.toByteArray) :
    (cliticStart word clitic).IsValid word := by
  rw [String.Pos.Raw.isValid_iff_isValidUTF8_extract_utf8ByteSize]
  refine ⟨Nat.sub_le _ _, ?_⟩
  rw [← String.size_toByteArray, atEnd,
    ByteArray.extract_append_eq_right (byteIdx_cliticStart atEnd) ByteArray.size_append]
  exact clitic.isValidUTF8

/-- Bytes that are followed by those of a clitic within a word are those of a stem. -/
theorem exists_stem_of_bytes {front : ByteArray}
    (atEnd : word.toByteArray = front ++ clitic.toByteArray) :
    ∃ stem : String, stem.toByteArray = front ∧ stem ++ clitic = word := by
  have valid := (isValid_cliticStart atEnd).isValidUTF8_extract_zero
  rw [byteIdx_cliticStart atEnd, atEnd, ByteArray.extract_append_eq_left rfl] at valid
  refine ⟨⟨front, valid⟩, rfl, ?_⟩
  rw [← String.toByteArray_inj, String.toByteArray_append, atEnd]

/-- To end in the bytes of a clitic after other bytes is to end in it after a stem. -/
theorem endsProperly_iff_exists_stem :
    EndsProperly word clitic ↔ ∃ stem : String, stem ≠ "" ∧ stem ++ clitic = word := by
  constructor
  · intro ends
    obtain ⟨front, atEnd⟩ := ends.atEnd
    obtain ⟨stem, -, rfl⟩ := exists_stem_of_bytes atEnd
    refine ⟨stem, ?_, rfl⟩
    rintro rfl
    have shorter := ends.shorter
    rw [String.empty_append] at shorter
    exact Nat.lt_irrefl _ shorter
  · intro some_stem
    obtain ⟨stem, nonempty, rfl⟩ := some_stem
    refine ⟨?_, stem.toByteArray, String.toByteArray_append⟩
    have some_bytes : stem.utf8ByteSize ≠ 0 := mt String.utf8ByteSize_eq_zero_iff.mp nonempty
    rw [String.utf8ByteSize_append]
    omega

theorem endsIn_iff_exists_stem :
    endsIn word clitic = true ↔ ∃ stem : String, stem ≠ "" ∧ stem ++ clitic = word := by
  constructor
  · intro ends
    obtain ⟨⟨front, whole⟩, shorter⟩ := suffix_of_endsIn ends
    refine ⟨.ofList front, ?_, ?_⟩
    · intro empty
      rw [String.ofList_eq_empty_iff.mp empty, List.nil_append] at whole
      rw [whole] at shorter
      exact Nat.lt_irrefl _ shorter
    · rw [← String.toList_inj, String.toList_append, String.toList_ofList, whole]
  · intro some_stem
    obtain ⟨stem, nonempty, rfl⟩ := some_stem
    have some_left := List.length_pos_iff.mpr (mt String.toList_eq_nil_iff.mp nonempty)
    rw [endsIn, Bool.and_eq_true, decide_eq_true_eq, List.isSuffixOf_iff_suffix,
      String.toList_append]
    refine ⟨List.suffix_append _ _, ?_⟩
    rw [List.length_append]
    omega

theorem endsIn_iff_endsProperly : endsIn word clitic = true ↔ EndsProperly word clitic :=
  endsIn_iff_exists_stem.trans endsProperly_iff_exists_stem.symm

theorem stemOf_append (stem clitic : String) : stemOf (stem ++ clitic) clitic = stem := by
  rw [stemOf, String.toList_append, List.length_append, Nat.add_sub_cancel, List.take_left,
    String.ofList_toList]

end Endings

/-! ## Blocks -/

/-- The clitic is the first pronoun, in declared order, that properly ends the word. -/
structure FirstClitic (rules : List Rule) (word clitic : String) : Prop where
  ends : EndsProperly word clitic
  first : ∃ earlier later, declaredWords rules .pronoun = earlier ++ clitic :: later ∧
    ∀ other ∈ earlier, ¬ EndsProperly word other

/-- The tokens of one word in lower case: the word itself if a rule produces it or no pronoun
properly ends it, or else its stem and the first pronoun that does. -/
inductive Block (rules : List Rule) (word : String) : List String → Prop
  | known {a : Nonterminal} : ⟨a, .word word⟩ ∈ rules → Block rules word [word]
  | unbound : (∀ clitic ∈ declaredWords rules .pronoun, ¬ EndsProperly word clitic) →
    Block rules word [word]
  | split {stem clitic : String} : (∀ a, ⟨a, .word word⟩ ∉ rules) →
    FirstClitic rules word clitic → stem ≠ "" → stem ++ clitic = word →
    (cliticStart word clitic).IsValid word →
    stem.toByteArray = word.toByteArray.extract 0 (cliticStart word clitic).byteIdx →
    Block rules word [stem, clitic]

namespace Block

variable {rules : List Rule} {word : String} {block : List String}

/-- Nothing is lost and nothing made up. -/
theorem join_eq (blocked : Block rules word block) : String.join block = word := by
  cases blocked with
  | known rule => rw [String.join_cons, String.join_nil, String.append_empty]
  | unbound none_fits => rw [String.join_cons, String.join_nil, String.append_empty]
  | split unknown first nonempty whole boundary slice =>
    rw [String.join_cons, String.join_cons, String.join_nil, String.append_empty, whole]

theorem mem_of_mem_token (blocked : Block rules word block) {token : String}
    (member : token ∈ block) {c : Char} (here : c ∈ token.toList) : c ∈ word.toList := by
  rw [← blocked.join_eq, String.toList_join]
  exact List.mem_flatMap.mpr ⟨token, member, here⟩

/-- What is cut off a word is a pronoun. -/
theorem pronoun_mem {stem clitic : String} (blocked : Block rules word [stem, clitic]) :
    ⟨.pronoun, .word clitic⟩ ∈ rules := by
  cases blocked with
  | split unknown first nonempty whole boundary slice =>
    obtain ⟨earlier, later, declared, -⟩ := first.first
    rw [← mem_declaredWords, declared]
    exact List.mem_append_right earlier List.mem_cons_self

end Block

/-- The tokens of a word are a block. -/
theorem Grammar.block_tokensOfWord (start : Nonterminal) (rules : List Rule) (word : String) :
    Block rules word ((ofRules start rules).tokensOfWord word) := by
  have known_iff := knows_ofRules start rules word
  rw [tokensOfWord]
  split
  · next known =>
    obtain ⟨⟨a, _⟩, rule, rfl⟩ := known_iff.mp known
    exact .known rule
  · next unknown =>
    have undeclared : ∀ a, ⟨a, .word word⟩ ∉ rules := fun a rule =>
      unknown (known_iff.mpr ⟨_, rule, rfl⟩)
    rw [cliticOf?, clitics_ofRules]
    split
    · next clitic found =>
      obtain ⟨ends, earlier, later, declared, failed⟩ := List.find?_eq_some_iff_append.mp found
      have first : FirstClitic rules word clitic := by
        refine ⟨endsIn_iff_endsProperly.mp ends, earlier, later, declared, ?_⟩
        intro other before properly
        have absurd := failed other before
        rw [endsIn_iff_endsProperly.mpr properly] at absurd
        cases absurd
      obtain ⟨stem, nonempty, rfl⟩ := endsIn_iff_exists_stem.mp ends
      have atEnd : (stem ++ clitic).toByteArray = stem.toByteArray ++ clitic.toByteArray :=
        String.toByteArray_append
      rw [stemOf_append]
      refine .split undeclared first nonempty rfl (isValid_cliticStart atEnd) ?_
      rw [byteIdx_cliticStart atEnd, atEnd, ByteArray.extract_append_eq_left rfl]
    · next none_fits =>
      refine .unbound ?_
      intro clitic declared properly
      exact List.find?_eq_none.mp none_fits clitic declared (endsIn_iff_endsProperly.mpr properly)

/-! ## The tokens of a sentence -/

namespace Grammar

variable (start : Nonterminal) (rules : List Rule) (sentence : String)

/-- The tokens, put together, are the sentence in lower case without its white space. -/
theorem join_tokens :
    String.join ((ofRules start rules).tokens sentence) =
      .ofList ((lowerCase sentence.toList).filter fun c => !isWhiteSpace c) := by
  have whole : ∀ word : List Char,
      ((ofRules start rules).tokensOfWord (.ofList word)).flatMap String.toList = word := by
    intro word
    rw [← String.toList_join, (block_tokensOfWord start rules (.ofList word)).join_eq,
      String.toList_ofList]
  rw [← String.toList_inj, String.toList_join, String.toList_ofList, tokens, List.flatMap_assoc,
    funext whole, ← flatten_words]
  exact List.flatMap_id

theorem unspaced_of_mem_tokens {token : String}
    (member : token ∈ (ofRules start rules).tokens sentence) : Unspaced token.toList := by
  obtain ⟨word, cut, within⟩ := List.mem_flatMap.mp member
  intro c here
  have inWord := (block_tokensOfWord start rules (.ofList word)).mem_of_mem_token within here
  rw [String.toList_ofList] at inWord
  exact (of_mem_words cut).2.1 c inWord

end Grammar

/-- The tokens of a sentence are blocks, one for each word of the sentence in lower case, and
have the text of these words and no white space. A clitic in a block is a pronoun in the chart
of the tokens and so never a gap. -/
theorem tokens_in_blocks (start : Nonterminal) (rules : List Rule) (sentence : String) :
    String.join ((Grammar.ofRules start rules).tokens sentence) =
      .ofList ((lowerCase sentence.toList).filter fun c => !isWhiteSpace c) ∧
    (∀ token ∈ (Grammar.ofRules start rules).tokens sentence, Unspaced token.toList) ∧
    ∃ blocks : List (List String),
      (Grammar.ofRules start rules).tokens sentence = blocks.flatten ∧
      List.Forall₂ (Block rules) ((words (lowerCase sentence.toList)).map .ofList) blocks ∧
      ∀ stem clitic, [stem, clitic] ∈ blocks →
        (∀ (position : Nat)
            (inside : position < ((Grammar.ofRules start rules).tokens sentence).length),
          ((Grammar.ofRules start rules).tokens sentence)[position] = clitic →
            .pronoun ∈ (Chart.fill (.ofRules start rules)
              ((Grammar.ofRules start rules).tokens sentence)).cell position position
                (Nat.le_refl position) inside) ∧
        ∀ gap ∈ (Grammar.ofRules start rules).gaps
          ((Grammar.ofRules start rules).tokens sentence), gap.token ≠ clitic := by
  have blocked := fun word : List Char =>
    Grammar.block_tokensOfWord start rules (String.ofList word)
  refine ⟨Grammar.join_tokens start rules sentence,
    fun token => Grammar.unspaced_of_mem_tokens start rules sentence,
    (words (lowerCase sentence.toList)).map
      (fun word => (Grammar.ofRules start rules).tokensOfWord (.ofList word)), ?_, ?_, ?_⟩
  · rw [Grammar.tokens, List.flatMap_def]
  · rw [List.forall₂_map_left_iff, List.forall₂_map_right_iff, List.forall₂_same]
    exact fun word _ => blocked word
  · intro stem clitic member
    obtain ⟨word, -, same⟩ := List.mem_map.mp member
    have rule := (same ▸ blocked word).pronoun_mem
    constructor
    · intro position inside here
      rw [Chart.mem_cell_fill_self_iff, here]
      exact rule
    · intro gap found same
      have unknown := (Grammar.mem_gaps_iff.mp found).2
      rw [same, (Grammar.knows_ofRules start rules clitic).mpr ⟨_, rule, rfl⟩] at unknown
      cases unknown

/-- Rules with a pronoun that has more bytes than characters. -/
def accentedPossessives : List Rule :=
  [⟨.pronoun, .word "né"⟩, ⟨.noun, .word "buku"⟩, ⟨.nounPhrase, .pair .noun .pronoun⟩]

/-- A word is cut before such a pronoun, which is then in the chart. -/
theorem accented_clitic_mem_cell :
    (Grammar.ofRules .nounPhrase accentedPossessives).tokens "BukunÉ" = ["buku", "né"] ∧
      ∃ inside : 1 < ((Grammar.ofRules .nounPhrase accentedPossessives).tokens "BukunÉ").length,
        .pronoun ∈ (Chart.fill (.ofRules .nounPhrase accentedPossessives)
          ((Grammar.ofRules .nounPhrase accentedPossessives).tokens "BukunÉ")).cell 1 1
            (Nat.le_refl 1) inside := by
  have cut : (Grammar.ofRules .nounPhrase accentedPossessives).tokens "BukunÉ" =
      ["buku", "né"] := by
    decide +kernel
  have single : (words (lowerCase "BukunÉ".toList)).map String.ofList = ["bukuné"] := by
    decide +kernel
  obtain ⟨-, -, blocks, whole, blocked, clitics⟩ :=
    tokens_in_blocks .nounPhrase accentedPossessives "BukunÉ"
  rw [single] at blocked
  obtain ⟨block, _, _, rest, rfl⟩ := List.forall₂_cons_left_iff.mp blocked
  obtain rfl := List.forall₂_nil_left_iff.mp rest
  rw [List.flatten_singleton, cut] at whole
  subst whole
  have inside : 1 < ((Grammar.ofRules .nounPhrase accentedPossessives).tokens "BukunÉ").length := by
    rw [cut]
    decide
  refine ⟨cut, inside, (clitics "buku" "né" List.mem_cons_self).1 1 inside ?_⟩
  simp only [cut]
  rfl

end BalineseChart

import BalineseChart.Grammar.Reader
import BalineseChart.Proofs.Grammar.Format
import Mathlib.Data.List.TakeWhile

/-!
# The reader accepts exactly the format

Each reader of a part of a grammar text succeeds exactly on the texts that have that
part in front, and returns what the format says of it. `ofText_eq_ok_iff` is the sum
of it for whole texts: a text is read as a grammar exactly if it states some rules,
and the grammar is then made of these, with the head of the first as its start symbol.
The reader takes it for granted that nothing is left once there are no more rules;
`ofTextChecked` makes sure of it first, and comes to the same.

The format lets a gap end anywhere, while `skipGap` always takes the longest. The two
meet because no part that follows a gap can begin like one (`Settled`). And the reader
collects the items of an alternative before it looks at how many there are, so there
is a relation for that, `ItemsText`, between the format's and the reader's view of it.
-/

namespace BalineseChart.Grammar

open Text Format

/-! ## Gaps -/

/-- The text does not begin with white space or a comment. -/
def Settled (rest : List Char) : Prop :=
  skipGap rest = rest

theorem settled_nil : Settled [] :=
  rfl

theorem settled_cons {c : Char} {rest : List Char} (space : isWhiteSpace c = false)
    (slash : c ≠ '/') : Settled (c :: rest) := by
  simp [Settled, skipGap, skipGapFrom, space, slash]

/-- Inside a comment, skipping goes on to the end of the line and with the gap there. -/
theorem skipGapFrom_comment {body cs : List Char} (line : '\n' ∉ body) (ends : LineEnds cs) :
    skipGapFrom true (body ++ cs) = skipGap cs := by
  induction body with
  | nil =>
    rcases ends with rfl | ⟨after, rfl⟩
    · rfl
    · rfl
  | cons c body ih =>
    rw [List.mem_cons, not_or] at line
    have within : (c != '\n') = true := bne_iff_ne.mpr (Ne.symm line.1)
    rw [List.cons_append, skipGapFrom, if_pos rfl, within]
    exact ih line.2

/-- A gap that the format allows is passed over, though perhaps with more after it. -/
theorem skipGap_of_gap {cs rest : List Char} (gap : Gap cs rest) : skipGap cs = skipGap rest := by
  induction gap with
  | none => rfl
  | space white _ ih =>
    rw [← ih]
    simp [skipGap, skipGapFrom, white]
  | @comment body cs rest line ends _ ih =>
    have opened : skipGap ('/' :: '/' :: (body ++ cs)) = skipGapFrom true (body ++ cs) := by
      simp [skipGap, skipGapFrom, show isWhiteSpace '/' = false by decide]
    rw [opened, skipGapFrom_comment line ends, ih]

theorem skipGap_eq {cs rest : List Char} (gap : Gap cs rest) (settled : Settled rest) :
    skipGap cs = rest :=
  (skipGap_of_gap gap).trans settled

/-- The rest of a comment, up to the end of its line, and a gap from there. -/
def CommentGap (cs rest : List Char) : Prop :=
  ∃ body after, cs = body ++ after ∧ '\n' ∉ body ∧ LineEnds after ∧ Gap after rest

theorem commentGap_nil : CommentGap [] [] :=
  ⟨[], [], rfl, by simp, Or.inl rfl, .none⟩

theorem commentGap_of_lineEnd {cs rest : List Char} (gap : Gap cs rest) :
    CommentGap ('\n' :: cs) rest :=
  ⟨[], '\n' :: cs, rfl, by simp, Or.inr ⟨cs, rfl⟩, .space (by decide) gap⟩

theorem commentGap_cons {c : Char} {cs rest : List Char} (other : c ≠ '\n')
    (inside : CommentGap cs rest) : CommentGap (c :: cs) rest := by
  rcases inside with ⟨body, after, rfl, line, ends, gap⟩
  have longer : '\n' ∉ c :: body := by
    rw [List.mem_cons, not_or]
    exact ⟨Ne.symm other, line⟩
  exact ⟨c :: body, after, rfl, longer, ends, gap⟩

/-- The second slash of a comment is the first character of its rest. -/
theorem gap_of_commentGap {cs rest : List Char} (inside : CommentGap ('/' :: cs) rest) :
    Gap ('/' :: '/' :: cs) rest := by
  rcases inside with ⟨_ | ⟨slash, body⟩, after, whole, line, ends, gap⟩
  · rcases ends with rfl | ⟨_, rfl⟩ <;> cases whole
  · cases whole
    exact .comment (fun member => line (List.mem_cons_of_mem _ member)) ends gap

/-- What is passed over is a gap, also where the text starts inside a comment. -/
theorem gap_skipGapFrom (cs : List Char) :
    Gap cs (skipGapFrom false cs) ∧ CommentGap cs (skipGapFrom true cs) := by
  induction cs with
  | nil => exact ⟨.none, commentGap_nil⟩
  | cons c rest ih =>
    rcases ih with ⟨outside, inside⟩
    constructor
    · rw [skipGapFrom]
      simp only [Bool.false_eq_true, if_false]
      split
      · next white => exact .space white outside
      · split
        · next opened =>
          rcases opened with ⟨rfl, second⟩
          rcases List.head?_eq_some_iff.mp second with ⟨others, rfl⟩
          exact gap_of_commentGap inside
        · exact .none
    · rw [skipGapFrom, if_pos rfl]
      by_cases feed : c = '\n'
      · subst feed
        exact commentGap_of_lineEnd outside
      · have within : (c != '\n') = true := bne_iff_ne.mpr feed
        rw [within]
        exact commentGap_cons feed inside

theorem gap_skipGap (cs : List Char) : Gap cs (skipGap cs) :=
  (gap_skipGapFrom cs).1

/-! ## Names -/

theorem isUpper_iff {c : Char} : c.isUpper = true ↔ Capital c := by
  change decide (c.val ≥ 'A'.val ∧ c.val ≤ 'Z'.val) = true ↔ _
  rw [decide_eq_true_eq]
  rfl

theorem isNameChar_iff {c : Char} : isNameChar c = true ↔ NameChar c := by
  have lower : c.isLower = true ↔ 'a' ≤ c ∧ c ≤ 'z' := by
    change (decide (c.val ≥ 'a'.val) && decide (c.val ≤ 'z'.val)) = true ↔ _
    rw [Bool.and_eq_true, decide_eq_true_eq, decide_eq_true_eq]
    rfl
  have digit : c.isDigit = true ↔ '0' ≤ c ∧ c ≤ '9' := by
    change (decide (c.val ≥ '0'.val) && decide (c.val ≤ '9'.val)) = true ↔ _
    rw [Bool.and_eq_true, decide_eq_true_eq, decide_eq_true_eq]
    rfl
  change (((c.isUpper || c.isLower) || c.isDigit) || decide (c = '-') || decide (c = '_')) = true ↔
    NameChar c
  simp only [Bool.or_eq_true, decide_eq_true_eq, isUpper_iff, lower, digit, NameChar, or_assoc]

theorem codes_of_nameChar {c : Char} (name : NameChar c) :
    45 ≤ c.toNat ∧ c.toNat ≤ 122 ∧ c.toNat ≠ 47 ∧ c.toNat ≠ 59 := by
  simp only [NameChar, Capital, Char.le_def, UInt32.le_iff_toNat_le, Char.toNat_val,
    Char.reduceToNat] at name
  rcases name with range | range | range | rfl | rfl
  · omega
  · omega
  · omega
  · decide
  · decide

/-- A name begins no gap. -/
theorem settled_of_nameChar {c : Char} (rest : List Char) (name : NameChar c) :
    Settled (c :: rest) := by
  obtain ⟨low, high, slash, _⟩ := codes_of_nameChar name
  have space : isWhiteSpace c = false := by
    rw [isWhiteSpace, CodeRange.covers, List.any_eq_false]
    simp [whiteSpaceRanges, CodeRange.contains]
    omega
  exact settled_cons space (fun same => slash (same ▸ rfl))

/-- A name ends no alternative. -/
theorem not_stop_of_nameChar {c : Char} (name : NameChar c) : ¬ (c = ';' ∨ c = '|') := by
  obtain ⟨_, high, _, semicolon⟩ := codes_of_nameChar name
  rintro (rfl | rfl)
  · exact semicolon rfl
  · simp at high

theorem nameText_iff {name cs rest : List Char} :
    NameText name cs rest ↔
      name ≠ [] ∧ cs.takeWhile isNameChar = name ∧ cs.dropWhile isNameChar = rest := by
  constructor
  · intro text
    rcases text with ⟨rfl, nonempty, chars, longest⟩
    have all : ∀ c ∈ name, isNameChar c = true :=
      fun c member => isNameChar_iff.mpr (chars c member)
    rw [List.takeWhile_append_of_pos all, List.dropWhile_append_of_pos all]
    rcases rest with _ | ⟨c, rest⟩
    · simp [nonempty]
    · have ended : isNameChar c ≠ true := fun absurd => longest c rfl (isNameChar_iff.mp absurd)
      simp [nonempty, ended]
  · intro taken
    rcases taken with ⟨nonempty, rfl, rfl⟩
    refine ⟨List.takeWhile_append_dropWhile.symm, nonempty, ?_, ?_⟩
    · intro c member
      exact isNameChar_iff.mp (List.mem_takeWhile_imp member)
    · intro c first name
      have ended := List.head?_dropWhile_not isNameChar cs
      rw [Option.mem_def.mp first] at ended
      simp only [isNameChar_iff.mpr name] at ended
      cases ended

theorem head?_of_nameText {name cs rest : List Char} (text : NameText name cs rest) :
    cs.head? = name.head? := by
  rcases name with _ | ⟨c, name⟩
  · exact absurd rfl text.nonempty
  · rw [text.whole]
    rfl

theorem exists_cons_of_nameText {name cs rest : List Char} (text : NameText name cs rest) :
    ∃ c tail, cs = c :: tail ∧ NameChar c := by
  rcases name with _ | ⟨c, name⟩
  · exact absurd rfl text.nonempty
  · exact ⟨c, name ++ rest, text.whole, text.chars c List.mem_cons_self⟩

/-! ## Items -/

/-- An item is a word or a nonterminal, as the capital of its name says. -/
def ItemText : Item → List Char → List Char → Prop
  | .word text => WordText text
  | .symbol a => SymbolText a

theorem exists_cons_of_itemText {item : Item} {cs rest : List Char} (text : ItemText item cs rest) :
    ∃ c tail, cs = c :: tail ∧ NameChar c := by
  rcases item with word | a
  · exact exists_cons_of_nameText text.name
  · exact exists_cons_of_nameText text.name

/-- The reader tells a nonterminal from a word by the first character of the name. -/
theorem readItem_of_nameText {c : Char} {name cs rest : List Char}
    (text : NameText (c :: name) cs rest) :
    readItem cs =
      if c.isUpper then
        (Nonterminal.ofName? (String.ofList (c :: name))).elim
          (.error (.unknown (String.ofList (c :: name)))) fun a => .ok (.symbol a, rest)
      else
        .ok (.word (String.ofList (c :: name)), rest) := by
  obtain ⟨_, taken, dropped⟩ := nameText_iff.mp text
  simp only [readItem, taken, dropped]
  cases Nonterminal.ofName? (String.ofList (c :: name)) <;> rfl

theorem exists_nameText_of_readItem {cs : List Char} {result : Item × List Char}
    (read : readItem cs = .ok result) : ∃ c name rest, NameText (c :: name) cs rest := by
  unfold readItem at read
  split at read
  · cases read
  · next c name taken => exact ⟨c, name, _, nameText_iff.mpr ⟨by simp, taken, rfl⟩⟩

theorem readItem_eq_ok_iff {cs rest : List Char} {item : Item} :
    readItem cs = .ok (item, rest) ↔ ItemText item cs rest := by
  constructor
  · intro read
    obtain ⟨c, name, rest', text⟩ := exists_nameText_of_readItem read
    have first := head?_of_nameText text
    rw [readItem_of_nameText text] at read
    split at read
    · next capital =>
      cases found : Nonterminal.ofName? (String.ofList (c :: name)) with
      | none =>
        rw [found] at read
        cases read
      | some a =>
        rw [found] at read
        cases read
        refine ⟨?_, ?_⟩
        · rw [← Nonterminal.ofName?_eq_some_iff.mp found, String.toList_ofList]
          exact text
        · intro d member
          cases first.symm.trans (Option.mem_def.mp member)
          exact isUpper_iff.mp capital
    · next small =>
      cases read
      refine ⟨by rw [String.toList_ofList]; exact text, ?_⟩
      intro d member capital
      cases first.symm.trans (Option.mem_def.mp member)
      exact small (isUpper_iff.mpr capital)
  · intro text
    rcases item with word | a
    · rcases text with ⟨name, small⟩
      rcases shape : word.toList with _ | ⟨c, tail⟩
      · exact absurd shape name.nonempty
      · rw [shape] at name
        have first := small c (head?_of_nameText name)
        rw [readItem_of_nameText name, if_neg (fun upper => first (isUpper_iff.mp upper)), ← shape,
          String.ofList_toList]
    · rcases text with ⟨name, capital⟩
      rcases shape : a.name.toList with _ | ⟨c, tail⟩
      · exact absurd shape name.nonempty
      · rw [shape] at name
        have first := capital c (head?_of_nameText name)
        rw [readItem_of_nameText name, if_pos (isUpper_iff.mpr first), ← shape,
          String.ofList_toList, Nonterminal.ofName?_name, Option.elim_some]

/-! ## Alternatives -/

/-- What may follow an alternative, as far as its items tell. -/
def Stop (rest : List Char) : Prop :=
  ∀ c ∈ rest.head?, c = ';' ∨ c = '|'

/-- Items with a gap before each and one after the last, up to where reading them stops. -/
inductive ItemsText : List Char → List Item → List Char → Prop
  | stop {cs rest : List Char} : Gap cs rest → Stop rest → ItemsText cs [] rest
  | item {item : Item} {items : List Item} {cs front back rest : List Char} :
    Gap cs front → ItemText item front back → ItemsText back items rest →
    ItemsText cs (item :: items) rest

theorem settled_of_stop {rest : List Char} (stop : Stop rest) : Settled rest := by
  rcases rest with _ | ⟨c, rest⟩
  · exact settled_nil
  · rcases stop c rfl with rfl | rfl
    · exact settled_cons (by decide) (by decide)
    · exact settled_cons (by decide) (by decide)

theorem itemsText_of_readItems {cs rest : List Char} {items : List Item}
    (read : readItems cs = .ok (items, rest)) : ItemsText cs items rest := by
  fun_induction readItems cs generalizing items rest with
  | case1 cs gap =>
    cases read
    exact .stop (gap ▸ gap_skipGap cs) (by simp [Stop])
  | case2 cs c tail gap ended =>
    cases read
    refine .stop (gap ▸ gap_skipGap cs) ?_
    intro d member
    cases Option.mem_def.mp member
    exact ended
  | case3 => cases read
  | case4 => cases read
  | case5 cs c tail gap going item back first shorter items' rest' others ih =>
    cases read
    exact .item (gap ▸ gap_skipGap cs) (readItem_eq_ok_iff.mp first) (ih others)

theorem readItems_of_itemsText {cs rest : List Char} {items : List Item}
    (text : ItemsText cs items rest) : readItems cs = .ok (items, rest) := by
  induction text with
  | @stop cs rest gap ended =>
    have skipped := skipGap_eq gap (settled_of_stop ended)
    rw [readItems]
    split
    · next empty => rw [← skipped, empty]
    · next c tail found =>
      rw [skipped] at found
      rw [if_pos (ended c (by rw [found]; rfl)), found]
  | @item item items cs front back rest gap first _ ih =>
    rcases exists_cons_of_itemText first with ⟨c, tail, rfl, name⟩
    have skipped := skipGap_eq gap (settled_of_nameChar tail name)
    have read := readItem_eq_ok_iff.mpr first
    rw [readItems]
    split
    · next empty => cases skipped.symm.trans empty
    · next d tail' found =>
      cases skipped.symm.trans found
      rw [if_neg (not_stop_of_nameChar name)]
      split
      · next failed => cases read.symm.trans failed
      · next item' rest' found' =>
        cases read.symm.trans found'
        rw [ih]

theorem readItems_eq_ok_iff {cs rest : List Char} {items : List Item} :
    readItems cs = .ok (items, rest) ↔ ItemsText cs items rest :=
  ⟨itemsText_of_readItems, readItems_of_itemsText⟩

/-- The items that a production is written as. -/
def itemsOf : Production → List Item
  | .word text => [.word text]
  | .pair left right => [.symbol left, .symbol right]

theorem productionOf_eq_ok_iff {place : String} {items : List Item} {body : Production} :
    productionOf place items = .ok body ↔ items = itemsOf body := by
  constructor
  · intro made
    unfold productionOf at made
    split at made <;> cases made <;> rfl
  · rintro rfl
    cases body <;> rfl

/-- An alternative is the items of its production, with the gaps of the format. -/
theorem itemsText_itemsOf_iff {body : Production} {cs rest : List Char} :
    ItemsText cs (itemsOf body) rest ↔ AlternativeText cs body rest ∧ Stop rest := by
  constructor
  · intro text
    rcases body with word | ⟨left, right⟩
    · cases text with
      | item before first others =>
        cases others with
        | stop after stop => exact ⟨.word before first after, stop⟩
    · cases text with
      | item before first others =>
        cases others with
        | item between second others =>
          cases others with
          | stop after stop => exact ⟨.pair before first between second after, stop⟩
  · intro stated
    rcases stated with ⟨text, stop⟩
    cases text with
    | word before first after => exact .item before first (.stop after stop)
    | pair before first between second after =>
      exact .item before first (.item between second (.stop after stop))

theorem readAlternative_eq_ok_iff {cs rest : List Char} {body : Production} :
    readAlternative cs = .ok (body, rest) ↔ AlternativeText cs body rest ∧ Stop rest := by
  rw [← itemsText_itemsOf_iff, ← readItems_eq_ok_iff]
  unfold readAlternative
  constructor
  · intro read
    split at read
    · cases read
    · next items rest' found =>
      split at read
      · cases read
      · next body' made =>
        cases read
        rw [found, productionOf_eq_ok_iff.mp made]
  · intro read
    have made : productionOf (firstLine cs) (itemsOf body) = .ok body :=
      productionOf_eq_ok_iff.mpr rfl
    rw [read]
    simp only [made]

theorem stop_cons {c : Char} {rest : List Char} (ends : c = ';' ∨ c = '|') : Stop (c :: rest) := by
  intro d member
  cases Option.mem_def.mp member
  exact ends

theorem alternativesText_of_readAlternatives {cs rest : List Char} {bodies : List Production}
    (read : readAlternatives cs = .ok (bodies, rest)) : AlternativesText cs bodies rest := by
  fun_induction readAlternatives cs generalizing bodies rest with
  | case1 => cases read
  | case2 => cases read
  | case3 cs body next first shorter bodies' rest' others ih =>
    cases read
    exact .more (readAlternative_eq_ok_iff.mp first).1 (ih others)
  | case4 cs body next first =>
    cases read
    exact .last (readAlternative_eq_ok_iff.mp first).1
  | case5 => cases read

theorem readAlternatives_of_alternativesText {cs rest : List Char} {bodies : List Production}
    (text : AlternativesText cs bodies rest) : readAlternatives cs = .ok (bodies, rest) := by
  induction text with
  | @last body cs rest text =>
    have first := readAlternative_eq_ok_iff.mpr ⟨text, stop_cons (Or.inl rfl)⟩
    rw [readAlternatives]
    split
    · next failed => cases first.symm.trans failed
    · next found => cases first.symm.trans found
    · next found =>
      cases first.symm.trans found
      rfl
    · next _ unended found =>
      cases first.symm.trans found
      exact (unended _ _ rfl).elim
  | @more body bodies cs next rest text _ ih =>
    have first := readAlternative_eq_ok_iff.mpr ⟨text, stop_cons (Or.inr rfl)⟩
    rw [readAlternatives]
    split
    · next failed => cases first.symm.trans failed
    · next found =>
      cases first.symm.trans found
      rw [ih]
    · next found => cases first.symm.trans found
    · next unended _ found =>
      cases first.symm.trans found
      exact (unended _ _ rfl).elim

theorem readAlternatives_eq_ok_iff {cs rest : List Char} {bodies : List Production} :
    readAlternatives cs = .ok (bodies, rest) ↔ AlternativesText cs bodies rest :=
  ⟨alternativesText_of_readAlternatives, readAlternatives_of_alternativesText⟩

/-! ## Rules -/

theorem skipArrow?_eq_some_iff {cs rest : List Char} :
    skipArrow? cs = some rest ↔ cs = '-' :: '>' :: rest := by
  constructor
  · intro read
    unfold skipArrow? at read
    split at read
    · cases read; rfl
    · cases read
  · rintro rfl
    rfl

theorem settled_arrow (rest : List Char) : Settled ('-' :: '>' :: rest) :=
  settled_cons (by decide) (by decide)

theorem readRule_eq_ok_iff {cs rest : List Char} {rules : List Rule} :
    readRule cs = .ok (rules, rest) ↔ RuleText cs rules rest := by
  constructor
  · intro read
    unfold readRule at read
    split at read
    · cases read
    · cases read
    · next head front found =>
      split at read
      · cases read
      · next back arrow =>
        split at read
        · cases read
        · next bodies rest' alternatives =>
          cases read
          refine .intro (readItem_eq_ok_iff.mp found) ?_
            (readAlternatives_eq_ok_iff.mp alternatives)
          rw [← skipArrow?_eq_some_iff.mp arrow]
          exact gap_skipGap front
  · intro stated
    rcases stated with ⟨head, gap, alternatives⟩
    have found : readItem cs = .ok (.symbol _, _) := readItem_eq_ok_iff.mpr head
    unfold readRule
    simp only [found, skipGap_eq gap (settled_arrow _), skipArrow?_eq_some_iff.mpr rfl,
      readAlternatives_eq_ok_iff.mpr alternatives]

theorem exists_cons_of_ruleText {cs rest : List Char} {rules : List Rule}
    (text : RuleText cs rules rest) : ∃ c tail, cs = c :: tail ∧ NameChar c := by
  cases text with
  | intro head gap alternatives => exact exists_cons_of_nameText head.name

/-! ## Whole texts -/

/-- Reading to the end leaves nothing, and finds a gap and no more, or the rules of the
format. -/
theorem of_readRules {cs rest : List Char} {rules : List Rule}
    (read : readRules cs = .ok (rules, rest)) :
    rest = [] ∧ ((Gap cs [] ∧ rules = []) ∨ GrammarText cs rules) := by
  fun_induction readRules cs generalizing rules rest with
  | case1 cs gap =>
    cases read
    exact ⟨gap, Or.inl ⟨gap ▸ gap_skipGap cs, rfl⟩⟩
  | case2 => cases read
  | case3 => cases read
  | case4 cs c tail gap rules' rest' first shorter others rest'' later ih =>
    cases read
    obtain ⟨nothing, found⟩ := ih later
    have rule := readRule_eq_ok_iff.mp first
    have front : Gap cs (c :: tail) := gap ▸ gap_skipGap cs
    refine ⟨nothing, Or.inr ?_⟩
    rcases found with ⟨back, rfl⟩ | ⟨back, text⟩
    · rw [List.append_nil]
      exact .intro front (.last rule back)
    · exact .intro front (.more rule back text)

/-- Where a rule begins, reading goes on with what follows the rule. -/
theorem readRules_of_ruleText {cs front back rest : List Char} {rules others : List Rule}
    (gap : Gap cs front) (rule : RuleText front rules back)
    (later : readRules back = .ok (others, rest)) :
    readRules cs = .ok (rules ++ others, rest) := by
  obtain ⟨c, tail, rfl, name⟩ := exists_cons_of_ruleText rule
  have skipped := skipGap_eq gap (settled_of_nameChar tail name)
  have first := readRule_eq_ok_iff.mpr rule
  rw [readRules]
  split
  · next empty => cases skipped.symm.trans empty
  · next d tail' found =>
    cases skipped.symm.trans found
    split
    · next failed => rw [first] at failed; cases failed
    · next read =>
      rw [first] at read
      cases read
      rw [later]

theorem readRules_of_gap {cs : List Char} (gap : Gap cs []) : readRules cs = .ok ([], []) := by
  have skipped := skipGap_eq gap settled_nil
  rw [readRules]
  split
  · rw [skipped]
  · next found => cases skipped.symm.trans found

theorem readRules_of_grammarText {cs : List Char} {rules : List Rule}
    (text : GrammarText cs rules) : readRules cs = .ok (rules, []) := by
  obtain ⟨gap, text⟩ := text
  induction text generalizing cs with
  | last rule back =>
    have read := readRules_of_ruleText gap rule (readRules_of_gap back)
    rw [List.append_nil] at read
    exact read
  | more rule back _ ih => exact readRules_of_ruleText gap rule (ih back)

/-- A text that states rules is read as their grammar. -/
theorem ofText_of_grammarText {text : String} {first : Rule} {others : List Rule}
    (stated : GrammarText text.toList (first :: others)) :
    ofText text = .ok (ofRules first.head (first :: others)) := by
  rw [ofText, readRules_of_grammarText stated]
  rfl

/-- A text that is read as a grammar states the rules that the grammar is made of. -/
theorem exists_grammarText_of_ofText {text : String} {g : Grammar} (read : ofText text = .ok g) :
    ∃ first others, GrammarText text.toList (first :: others) ∧
      g = ofRules first.head (first :: others) := by
  unfold ofText at read
  split at read
  · cases read
  · next rules rest found =>
    rcases of_readRules found with ⟨-, ⟨-, rfl⟩ | stated⟩
    · cases read
    · rcases rules with _ | ⟨first, others⟩
      · cases read
      · cases read
        exact ⟨first, others, stated, rfl⟩

/-! ## The end of the text -/

/-- What is left where a text was read to its end, although nothing should be. -/
structure Leftover where
  rest : List Char
deriving DecidableEq

/-- The grammar that a text states, with a check, before anything is made of the rules,
that reading them has left nothing of the text. -/
def ofTextChecked (text : String) : Except Leftover (Except TextError Grammar) :=
  match readRules text.toList with
  | .error cause => .ok (.error cause)
  | .ok (rules, []) => .ok (ofStated rules)
  | .ok (_, rest) => .error ⟨rest⟩

/-- The check never fails. -/
theorem ofTextChecked_eq_ok (text : String) : ofTextChecked text = .ok (ofText text) := by
  unfold ofTextChecked ofText
  cases read : readRules text.toList with
  | error cause => rfl
  | ok result =>
    obtain ⟨rules, rest⟩ := result
    obtain ⟨rfl, -⟩ := of_readRules read
    rfl

/-- A text is read as a grammar exactly if it has the format, and the grammar is that of
the rules that it states, with the head of the first as its start symbol; on every
other text the reader says what is wrong. Whatever the text is, nothing of it is left
where the reader has come to the end. -/
theorem ofText_eq_ok_iff (text : String) :
    (∀ g : Grammar, ofText text = .ok g ↔
      ∃ first others, GrammarText text.toList (first :: others) ∧
        g = ofRules first.head (first :: others)) ∧
    ((¬ ∃ rules, GrammarText text.toList rules) → ∃ failure, ofText text = .error failure) ∧
    ofTextChecked text = .ok (ofText text) := by
  refine ⟨fun g => ⟨exists_grammarText_of_ofText, ?_⟩, ?_, ofTextChecked_eq_ok text⟩
  · intro stated
    rcases stated with ⟨first, others, stated, rfl⟩
    exact ofText_of_grammarText stated
  · intro none_stated
    cases read : ofText text with
    | error failure => exact ⟨failure, rfl⟩
    | ok g =>
      obtain ⟨first, others, stated, _⟩ := exists_grammarText_of_ofText read
      exact (none_stated ⟨_, stated⟩).elim

/-- An arrow with no gap before it is taken into the name of the head. -/
theorem ofText_eq_error_of_joined_arrow :
    (¬ ∃ rules, GrammarText "K->a;".toList rules) ∧ ∃ failure, ofText "K->a;" = .error failure := by
  have joined : ¬ ∃ rules, GrammarText "K->a;".toList rules := by
    intro stated
    rcases stated with ⟨rules, stated⟩
    have read := readRules_of_grammarText stated
    have failed : (readRules "K->a;".toList).isOk = false := by decide +kernel
    rw [read] at failed
    cases failed
  exact ⟨joined, (ofText_eq_ok_iff "K->a;").2.1 joined⟩

end BalineseChart.Grammar

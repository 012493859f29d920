import BalineseChart.Grammar
import BalineseChart.Text.Lines
import BalineseChart.Text.WhiteSpace

/-!
# Reading a grammar from its text

A grammar text is a sequence of rules such as `K -> P S | X1 S;`. A name is a
longest run of ASCII letters, digits, hyphens and underscores; it is a nonterminal
if it starts with a capital and a word if it does not. Each alternative of a rule
is one word or two nonterminals. White space and comments, which run from `//` to
the end of the line, may stand between any two parts, and must stand before the
arrow, since a hyphen would continue the name.

Each reader takes the characters that remain and returns what it read together
with the characters after it, or the cause of its failure. The lemmas
`length_lt_of_read…` say that what remains gets shorter, by which the loops over
items, alternatives and rules end.
-/

namespace BalineseChart.Grammar

open Text

/-! ## What can go wrong -/

/-- Why no name could be read as a word or a nonterminal. -/
inductive ItemError where
  /-- No name starts at the place. -/
  | noName (place : String)
  /-- The name starts with a capital and names no nonterminal. -/
  | unknown (name : String)
deriving DecidableEq

/-- Why the alternatives of a rule could not be read. -/
inductive AlternativeError where
  /-- A part of an alternative could not be read. -/
  | item (cause : ItemError)
  /-- An alternative has no parts. -/
  | empty (place : String)
  /-- An alternative is a single nonterminal. -/
  | unit (symbol : Nonterminal) (place : String)
  /-- An alternative is neither one word nor two nonterminals. -/
  | shape (place : String)
  /-- The text ends inside the rule. -/
  | unfinished
deriving DecidableEq

/-- Why a text is not a grammar. -/
inductive TextError where
  /-- The text has no rule. -/
  | noRules
  /-- The head of a rule could not be read. -/
  | head (cause : ItemError)
  /-- The head of a rule is a word. -/
  | wordHead (word : String)
  /-- No arrow follows the head of a rule. -/
  | noArrow (place : String)
  /-- The alternatives of a rule could not be read. -/
  | alternatives (head : Nonterminal) (cause : AlternativeError)
deriving DecidableEq

/-- The wording of a failure to read a name. -/
def ItemError.message : ItemError → String
  | .noName place => "name: couldn't match ^[a-zA-Z0-9\\-_]+ at " ++ place
  | .unknown name => "unknown nonterminal " ++ name

/-- The wording of a failure to read alternatives. -/
def AlternativeError.message : AlternativeError → String
  | .item cause => cause.message
  | .empty place => "empty alternative at " ++ place
  | .unit symbol place => "unit rule to " ++ symbol.name ++ " is not CNF at " ++ place
  | .shape place => "alternative must be one word or two nonterminals at " ++ place
  | .unfinished => "missing ;"

/-- The wording of a failure to read a grammar. -/
def TextError.message : TextError → String
  | .noRules => "empty ruleset"
  | .head cause => cause.message
  | .wordHead word => "rule symbol: expected nonterminal, got word " ++ word
  | .noArrow place => "rule arrow: couldn't match ^-> at " ++ place
  | .alternatives symbol cause => "rule " ++ symbol.name ++ ": " ++ cause.message

/-! ## Gaps and names -/

/-- What remains after white space and comments; `comment` says whether the text
starts inside a comment. -/
def skipGapFrom (comment : Bool) : List Char → List Char
  | [] => []
  | c :: rest =>
    if comment then
      skipGapFrom (c != '\n') rest
    else if isWhiteSpace c then
      skipGapFrom false rest
    else if c = '/' ∧ rest.head? = some '/' then
      skipGapFrom true rest
    else
      c :: rest

/-- What remains after white space and comments. -/
def skipGap (cs : List Char) : List Char :=
  skipGapFrom false cs

/-- Whether a character can stand in a name. -/
def isNameChar (c : Char) : Bool :=
  c.isAlphanum || c = '-' || c = '_'

theorem length_skipGapFrom_le (comment : Bool) (cs : List Char) :
    (skipGapFrom comment cs).length ≤ cs.length := by
  induction cs generalizing comment with
  | nil => simp [skipGapFrom]
  | cons c rest ih =>
    have inside := ih (c != '\n')
    have after := ih false
    have opened := ih true
    unfold skipGapFrom
    split
    · simp only [List.length_cons]; omega
    · split
      · simp only [List.length_cons]; omega
      · split
        · simp only [List.length_cons]; omega
        · exact Nat.le_refl _

theorem length_skipGap_le (cs : List Char) : (skipGap cs).length ≤ cs.length :=
  length_skipGapFrom_le false cs

/-- What is shorter than a text without its leading gap is shorter than the text. -/
theorem length_lt_of_gap {cs before after : List Char} (gap : skipGap cs = before)
    (shorter : after.length < before.length) : after.length < cs.length := by
  have skipped := length_skipGap_le cs
  rw [gap] at skipped
  omega

/-! ## Items -/

/-- A part of a rule. -/
inductive Item where
  | word (text : String)
  | symbol (a : Nonterminal)
deriving DecidableEq

/-- Reads the name at the front of the text. -/
def readItem (cs : List Char) : Except ItemError (Item × List Char) :=
  match cs.takeWhile isNameChar with
  | [] => .error (.noName (firstLine cs))
  | c :: name =>
    let text := String.ofList (c :: name)
    if c.isUpper then
      match Nonterminal.ofName? text with
      | some a => .ok (.symbol a, cs.dropWhile isNameChar)
      | none => .error (.unknown text)
    else
      .ok (.word text, cs.dropWhile isNameChar)

theorem length_dropWhile_lt {p : Char → Bool} {c : Char} {taken cs : List Char}
    (nonempty : cs.takeWhile p = c :: taken) : (cs.dropWhile p).length < cs.length := by
  have whole := congrArg List.length (List.takeWhile_append_dropWhile (p := p) (l := cs))
  rw [nonempty, List.length_append, List.length_cons] at whole
  omega

theorem length_lt_of_readItem {cs rest : List Char} {item : Item}
    (read : readItem cs = .ok (item, rest)) : rest.length < cs.length := by
  unfold readItem at read
  split at read
  · cases read
  · next c name taken =>
    have shorter := length_dropWhile_lt taken
    dsimp only at read
    split at read
    · split at read
      · cases read; exact shorter
      · cases read
    · cases read; exact shorter

/-- Reads items up to a `;`, a `|` or the end of the text. -/
def readItems (cs : List Char) : Except ItemError (List Item × List Char) :=
  match gap : skipGap cs with
  | [] => .ok ([], [])
  | c :: rest =>
    if c = ';' ∨ c = '|' then
      .ok ([], c :: rest)
    else
      match first : readItem (c :: rest) with
      | .error cause => .error cause
      | .ok (item, rest') =>
        have : rest'.length < cs.length := length_lt_of_gap gap (length_lt_of_readItem first)
        match readItems rest' with
        | .error cause => .error cause
        | .ok (items, rest'') => .ok (item :: items, rest'')
termination_by cs.length

theorem length_le_of_readItems {cs rest : List Char} {items : List Item}
    (read : readItems cs = .ok (items, rest)) : rest.length ≤ cs.length := by
  fun_induction readItems cs generalizing items rest with
  | case1 cs gap => cases read; simp
  | case2 cs c tail gap stop =>
    cases read
    rw [← gap]
    exact length_skipGap_le cs
  | case3 => cases read
  | case4 => cases read
  | case5 cs c tail gap go item after first shorter items' after' others ih =>
    cases read
    have inner := ih others
    omega

/-! ## Alternatives and rules -/

/-- The production that a list of items makes up, where `place` is quoted if they
make up none. -/
def productionOf (place : String) : List Item → Except AlternativeError Production
  | [.word text] => .ok (.word text)
  | [.symbol left, .symbol right] => .ok (.pair left right)
  | [] => .error (.empty place)
  | [.symbol a] => .error (.unit a place)
  | _ => .error (.shape place)

/-- Reads one alternative, up to the `;` or `|` after it. -/
def readAlternative (cs : List Char) : Except AlternativeError (Production × List Char) :=
  match readItems cs with
  | .error cause => .error (.item cause)
  | .ok (items, rest) =>
    match productionOf (firstLine cs) items with
    | .error cause => .error cause
    | .ok body => .ok (body, rest)

theorem length_le_of_readAlternative {cs rest : List Char} {body : Production}
    (read : readAlternative cs = .ok (body, rest)) : rest.length ≤ cs.length := by
  unfold readAlternative at read
  split at read
  · cases read
  · next items rest' inner =>
    split at read
    · cases read
    · cases read; exact length_le_of_readItems inner

/-- Reads alternatives separated by `|`, up to and with the `;` that ends them. -/
def readAlternatives (cs : List Char) : Except AlternativeError (List Production × List Char) :=
  match first : readAlternative cs with
  | .error cause => .error cause
  | .ok (body, '|' :: rest) =>
    have : rest.length < cs.length := length_le_of_readAlternative first
    match readAlternatives rest with
    | .error cause => .error cause
    | .ok (bodies, rest') => .ok (body :: bodies, rest')
  | .ok (body, ';' :: rest) => .ok ([body], rest)
  | .ok _ => .error .unfinished
termination_by cs.length

theorem length_lt_of_readAlternatives {cs rest : List Char} {bodies : List Production}
    (read : readAlternatives cs = .ok (bodies, rest)) : rest.length < cs.length := by
  fun_induction readAlternatives cs generalizing bodies rest with
  | case1 => cases read
  | case2 => cases read
  | case3 cs body tail first shorter bodies' after others ih =>
    cases read
    have inner := ih others
    omega
  | case4 cs body tail first =>
    cases read
    exact length_le_of_readAlternative first
  | case5 => cases read

/-- What remains after an arrow, if the text starts with one. -/
def skipArrow? : List Char → Option (List Char)
  | '-' :: '>' :: rest => some rest
  | _ => none

theorem length_lt_of_skipArrow? {cs rest : List Char} (read : skipArrow? cs = some rest) :
    rest.length < cs.length := by
  unfold skipArrow? at read
  split at read
  · cases read; simp only [List.length_cons]; omega
  · cases read

/-- Reads one rule with its alternatives, from its head to its `;`. -/
def readRule (cs : List Char) : Except TextError (List Rule × List Char) :=
  match readItem cs with
  | .error cause => .error (.head cause)
  | .ok (.word text, _) => .error (.wordHead text)
  | .ok (.symbol head, rest) =>
    match skipArrow? (skipGap rest) with
    | none => .error (.noArrow (firstLine (skipGap rest)))
    | some rest' =>
      match readAlternatives rest' with
      | .error cause => .error (.alternatives head cause)
      | .ok (bodies, rest'') => .ok (bodies.map (Rule.mk head), rest'')

theorem length_lt_of_readRule {cs rest : List Char} {rules : List Rule}
    (read : readRule cs = .ok (rules, rest)) : rest.length < cs.length := by
  unfold readRule at read
  split at read
  · cases read
  · cases read
  · next head afterHead item =>
    split at read
    · cases read
    · next afterArrow arrow =>
      split at read
      · cases read
      · next bodies last alternatives =>
        cases read
        have headLength := length_lt_of_readItem item
        have gapLength := length_skipGap_le afterHead
        have arrowLength := length_lt_of_skipArrow? arrow
        have alternativesLength := length_lt_of_readAlternatives alternatives
        omega

/-- Reads rules to the end of the text, one for each alternative. -/
def readRules (cs : List Char) : Except TextError (List Rule × List Char) :=
  match gap : skipGap cs with
  | [] => .ok ([], skipGap cs)
  | c :: rest =>
    match first : readRule (c :: rest) with
    | .error cause => .error cause
    | .ok (rules, rest') =>
      have : rest'.length < cs.length := length_lt_of_gap gap (length_lt_of_readRule first)
      match readRules rest' with
      | .error cause => .error cause
      | .ok (others, rest'') => .ok (rules ++ others, rest'')
termination_by cs.length

/-- The grammar of the rules of a text; its start symbol is the head of the first rule. -/
def ofStated : List Rule → Except TextError Grammar
  | [] => .error .noRules
  | first :: others => .ok (ofRules first.head (first :: others))

/-- The grammar that a text states. -/
def ofText (text : String) : Except TextError Grammar :=
  match readRules text.toList with
  | .error cause => .error cause
  | .ok (rules, _) => ofStated rules

end BalineseChart.Grammar

import BalineseChart.Rule
import BalineseChart.Text.WhiteSpace

/-!
# The format of a grammar text

Which texts are grammars, said without a reader. Each relation here speaks of the
characters at the front of a text and of those that remain after them: `cs` is the
text with the part in front, `rest` is what follows the part. What follows matters
twice. A comment ends only before a line feed or at the end of the text, and a name
ends only where no character of names follows.

    grammar      = gap (rule gap)+
    rule         = symbol gap "->" alternative ("|" alternative)* ";"
    alternative  = gap word gap | gap symbol gap symbol gap

A gap is any number of white space characters and comments, and may be empty.
-/

namespace BalineseChart.Grammar.Format

open Text

/-! ## Gaps -/

/-- The text is empty or starts with a line feed. -/
def LineEnds (rest : List Char) : Prop :=
  rest = [] ∨ ∃ after, rest = '\n' :: after

/-- White space and comments, in any number and order. A comment starts with two
slashes and ends before the next line feed or at the end of the text. -/
inductive Gap : List Char → List Char → Prop
  | none {rest : List Char} : Gap rest rest
  | space {c : Char} {cs rest : List Char} :
    isWhiteSpace c = true → Gap cs rest → Gap (c :: cs) rest
  | comment {body cs rest : List Char} :
    '\n' ∉ body → LineEnds cs → Gap cs rest → Gap ('/' :: '/' :: (body ++ cs)) rest

/-! ## Names -/

/-- The ASCII capitals. -/
def Capital (c : Char) : Prop :=
  'A' ≤ c ∧ c ≤ 'Z'

/-- The characters of names: ASCII letters and digits, the hyphen and the underscore. -/
def NameChar (c : Char) : Prop :=
  Capital c ∨ ('a' ≤ c ∧ c ≤ 'z') ∨ ('0' ≤ c ∧ c ≤ '9') ∨ c = '-' ∨ c = '_'

instance : DecidablePred Capital :=
  fun c => inferInstanceAs (Decidable ('A' ≤ c ∧ c ≤ 'Z'))

instance : DecidablePred NameChar :=
  fun _ => inferInstanceAs (Decidable (_ ∨ _))

/-- The longest run of characters of names at the front of a text, which is not empty. -/
structure NameText (name cs rest : List Char) : Prop where
  whole : cs = name ++ rest
  nonempty : name ≠ []
  chars : ∀ c ∈ name, NameChar c
  longest : ∀ c ∈ rest.head?, ¬ NameChar c

/-- A name that starts with a capital and is the name of the nonterminal. -/
structure SymbolText (a : Nonterminal) (cs rest : List Char) : Prop where
  name : NameText a.name.toList cs rest
  capital : ∀ c ∈ cs.head?, Capital c

/-- A name that does not start with a capital. -/
structure WordText (text : String) (cs rest : List Char) : Prop where
  name : NameText text.toList cs rest
  small : ∀ c ∈ cs.head?, ¬ Capital c

/-- A word that a grammar text can state: a name that does not start with a capital. -/
def PlainWord (text : String) : Prop :=
  text.toList ≠ [] ∧ (∀ c ∈ text.toList, NameChar c) ∧ ∀ c ∈ text.toList.head?, ¬ Capital c

instance : DecidablePred PlainWord := fun text =>
  decidable_of_iff
    ((!text.toList.isEmpty && text.toList.all (NameChar ·) && text.toList.head?.all (!Capital ·)) =
      true)
    (by unfold PlainWord; cases text.toList <;> simp [and_assoc])

/-! ## Rules -/

/-- One word or two nonterminals, among gaps. -/
inductive AlternativeText : List Char → Production → List Char → Prop
  | word {text : String} {cs front back rest : List Char} :
    Gap cs front → WordText text front back → Gap back rest →
    AlternativeText cs (.word text) rest
  | pair {left right : Nonterminal} {cs front middle next back rest : List Char} :
    Gap cs front → SymbolText left front middle → Gap middle next →
    SymbolText right next back → Gap back rest →
    AlternativeText cs (.pair left right) rest

/-- Alternatives with a `|` between any two of them and a `;` after the last. -/
inductive AlternativesText : List Char → List Production → List Char → Prop
  | last {body : Production} {cs rest : List Char} :
    AlternativeText cs body (';' :: rest) → AlternativesText cs [body] rest
  | more {body : Production} {bodies : List Production} {cs next rest : List Char} :
    AlternativeText cs body ('|' :: next) → AlternativesText next bodies rest →
    AlternativesText cs (body :: bodies) rest

/-- A head, an arrow and alternatives, which state one rule each. -/
inductive RuleText : List Char → List Rule → List Char → Prop
  | intro {head : Nonterminal} {bodies : List Production} {cs front back rest : List Char} :
    SymbolText head cs front → Gap front ('-' :: '>' :: back) →
    AlternativesText back bodies rest → RuleText cs (bodies.map (Rule.mk head)) rest

/-- One rule or more, each with a gap after it, up to the end of the text. -/
inductive RulesText : List Char → List Rule → Prop
  | last {cs back : List Char} {rules : List Rule} :
    RuleText cs rules back → Gap back [] → RulesText cs rules
  | more {cs back next : List Char} {rules others : List Rule} :
    RuleText cs rules back → Gap back next → RulesText next others →
    RulesText cs (rules ++ others)

/-- A text that states the rules, one for each alternative, in the order of the text. -/
inductive GrammarText (cs : List Char) (rules : List Rule) : Prop
  | intro {front : List Char} : Gap cs front → RulesText front rules → GrammarText cs rules

end BalineseChart.Grammar.Format

/-!
# Nonterminals

The twenty-seven categories a grammar may use: the sentence and its parts, the
phrases, the word classes, and four helpers that hold two or three parts of a
sentence together so that every rule has at most two symbols on its right.

A nonterminal has a `name`, by which grammar texts refer to it, and an `index`,
its position in `Nonterminal.all`. `getElem?_index` and `ofName?_name` say that
each of the two determines the nonterminal.
-/

namespace BalineseChart

/-- A category of words or phrases. -/
inductive Nonterminal where
  /-- A sentence, *kalimat*. -/
  | sentence
  /-- A predicate and its complement. -/
  | predComp
  /-- A subject and a complement. -/
  | subjComp
  /-- A predicate with its complement, then the subject. -/
  | predCompSubj
  /-- A predicate, then the subject with a complement. -/
  | predSubjComp
  /-- The predicate, *predikat*. -/
  | predicate
  /-- An adjective phrase. -/
  | adjectivePhrase
  /-- An adverb of degree or frequency. -/
  | adverb
  /-- An adjective. -/
  | adjective
  /-- The subject, *subjek*. -/
  | subject
  /-- The complement, *pelengkap*. -/
  | complement
  /-- The adverbial, *keterangan*. -/
  | adverbial
  /-- A noun phrase. -/
  | nounPhrase
  /-- A verb phrase. -/
  | verbPhrase
  /-- A prepositional phrase. -/
  | prepositionalPhrase
  /-- A numeral phrase. -/
  | numeralPhrase
  /-- A noun phrase that names a time. -/
  | timePhrase
  /-- A common noun. -/
  | noun
  /-- A verb. -/
  | verb
  /-- A proper noun. -/
  | properNoun
  /-- A pronoun, free or bound. -/
  | pronoun
  /-- A determiner. -/
  | determiner
  /-- A particle before a name. -/
  | particle
  /-- A preposition. -/
  | preposition
  /-- A numeral. -/
  | numeral
  /-- A noun that names a time. -/
  | timeNoun
  /-- An adjective that names a time. -/
  | timeAdjective
deriving DecidableEq

namespace Nonterminal

/-- Every nonterminal, in the order that all listings follow. -/
def all : List Nonterminal :=
  [.sentence, .predComp, .subjComp, .predCompSubj, .predSubjComp, .predicate, .adjectivePhrase,
   .adverb, .adjective, .subject, .complement, .adverbial, .nounPhrase, .verbPhrase,
   .prepositionalPhrase, .numeralPhrase, .timePhrase, .noun, .verb, .properNoun, .pronoun,
   .determiner, .particle, .preposition, .numeral, .timeNoun, .timeAdjective]

/-- The name by which a grammar text refers to the nonterminal. -/
def name : Nonterminal → String
  | .sentence => "K"
  | .predComp => "X1"
  | .subjComp => "X2"
  | .predCompSubj => "X3"
  | .predSubjComp => "X4"
  | .predicate => "P"
  | .adjectivePhrase => "AdjP"
  | .adverb => "Adv"
  | .adjective => "Adj"
  | .subject => "S"
  | .complement => "Pel"
  | .adverbial => "Ket"
  | .nounPhrase => "NP"
  | .verbPhrase => "VP"
  | .prepositionalPhrase => "PP"
  | .numeralPhrase => "NumP"
  | .timePhrase => "NP_time"
  | .noun => "Noun"
  | .verb => "Verb"
  | .properNoun => "PropNoun"
  | .pronoun => "Pronoun"
  | .determiner => "Det"
  | .particle => "Part"
  | .preposition => "Prep"
  | .numeral => "Num"
  | .timeNoun => "Noun_time"
  | .timeAdjective => "Adj_time"

/-- The position of the nonterminal in `all`. -/
def index : Nonterminal → Nat
  | .sentence => 0
  | .predComp => 1
  | .subjComp => 2
  | .predCompSubj => 3
  | .predSubjComp => 4
  | .predicate => 5
  | .adjectivePhrase => 6
  | .adverb => 7
  | .adjective => 8
  | .subject => 9
  | .complement => 10
  | .adverbial => 11
  | .nounPhrase => 12
  | .verbPhrase => 13
  | .prepositionalPhrase => 14
  | .numeralPhrase => 15
  | .timePhrase => 16
  | .noun => 17
  | .verb => 18
  | .properNoun => 19
  | .pronoun => 20
  | .determiner => 21
  | .particle => 22
  | .preposition => 23
  | .numeral => 24
  | .timeNoun => 25
  | .timeAdjective => 26

/-- The nonterminal of a name, if there is one. -/
def ofName? (name : String) : Option Nonterminal :=
  all.find? (·.name == name)

/-! ## Names and indices determine the nonterminal -/

theorem getElem?_index (a : Nonterminal) : all[a.index]? = some a := by
  cases a <;> rfl

theorem index_lt (a : Nonterminal) : a.index < 27 := by
  cases a <;> decide

theorem mem_all (a : Nonterminal) : a ∈ all :=
  List.mem_of_getElem? (getElem?_index a)

theorem index_inj {a b : Nonterminal} : a.index = b.index ↔ a = b := by
  refine ⟨fun same => ?_, fun same => same ▸ rfl⟩
  have found := getElem?_index a
  rw [same, getElem?_index b] at found
  exact (Option.some.inj found).symm

theorem exists_index_eq {n : Nat} (small : n < 27) : ∃ a : Nonterminal, a.index = n := by
  have every : ∀ m < 27, ∃ a ∈ all, a.index = m := by decide
  obtain ⟨a, _, same⟩ := every n small
  exact ⟨a, same⟩

theorem ofName?_name (a : Nonterminal) : ofName? a.name = some a := by
  cases a <;> decide +kernel

theorem name_inj {a b : Nonterminal} : a.name = b.name ↔ a = b := by
  refine ⟨fun same => ?_, fun same => same ▸ rfl⟩
  have found := ofName?_name a
  rw [same, ofName?_name b] at found
  exact (Option.some.inj found).symm

/-- Only the nonterminal's own name leads to it. -/
theorem ofName?_eq_some_iff {name : String} {a : Nonterminal} :
    ofName? name = some a ↔ name = a.name := by
  refine ⟨fun found => ?_, fun same => same ▸ ofName?_name a⟩
  have matched := List.find?_some found
  exact (beq_iff_eq.mp matched).symm

/-! ## The order of nonterminals -/

instance : Ord Nonterminal where
  compare a b := compare a.index b.index

theorem compare_eq (a b : Nonterminal) : compare a b = compare a.index b.index :=
  rfl

instance : Std.TransOrd Nonterminal where
  eq_swap {a b} := by
    rw [compare_eq, compare_eq, Std.OrientedOrd.eq_swap]
  isLE_trans {a b c} := by
    rw [compare_eq, compare_eq, compare_eq]
    exact Std.TransOrd.isLE_trans

instance : Std.LawfulEqOrd Nonterminal where
  eq_of_compare same := index_inj.mp (Std.LawfulEqOrd.eq_of_compare same)

end Nonterminal

end BalineseChart

import BalineseChart.Nonterminal

/-!
# Sets of nonterminals

A set of nonterminals is a word of twenty-seven bits, the bit at `a.index` for the
nonterminal `a`. Two sets with the same members are equal (`NonterminalSet.ext`),
and `toList` lists the members in the order of `Nonterminal.all`.

`room_lt_of_subset` gives searches that collect nonterminals their measure: a set
that gains a member has a smaller `room`.
-/

namespace BalineseChart

/-- A set of nonterminals. -/
structure NonterminalSet where
  bits : BitVec 27
deriving DecidableEq

namespace NonterminalSet

/-- Whether a nonterminal is in the set. -/
def contains (s : NonterminalSet) (a : Nonterminal) : Bool :=
  s.bits.getLsbD a.index

instance : Membership Nonterminal NonterminalSet where
  mem s a := s.contains a = true

instance (a : Nonterminal) (s : NonterminalSet) : Decidable (a ∈ s) :=
  inferInstanceAs (Decidable (s.contains a = true))

instance : EmptyCollection NonterminalSet where
  emptyCollection := ⟨0⟩

/-- The set with one more member. -/
def insert (s : NonterminalSet) (a : Nonterminal) : NonterminalSet :=
  ⟨s.bits ||| BitVec.twoPow 27 a.index⟩

/-- The members of either set. -/
def union (s t : NonterminalSet) : NonterminalSet :=
  ⟨s.bits ||| t.bits⟩

instance : Union NonterminalSet where
  union := union

/-- The set of the listed nonterminals. -/
def ofList (as : List Nonterminal) : NonterminalSet :=
  as.foldl insert ∅

/-- The members of any of the listed sets. -/
def unions (sets : List NonterminalSet) : NonterminalSet :=
  sets.foldl union ∅

/-- The members in the order of `Nonterminal.all`. -/
def toList (s : NonterminalSet) : List Nonterminal :=
  Nonterminal.all.filter s.contains

/-- The complement of the set read as a number, a measure of how much the set can
still gain. -/
def room (s : NonterminalSet) : Nat :=
  (~~~s.bits).toNat

/-! ## Membership -/

theorem mem_def {a : Nonterminal} {s : NonterminalSet} : a ∈ s ↔ s.contains a = true :=
  Iff.rfl

theorem mem_iff_getLsbD {a : Nonterminal} {s : NonterminalSet} :
    a ∈ s ↔ s.bits.getLsbD a.index = true :=
  Iff.rfl

/-- Sets with the same members are equal. -/
theorem ext {s t : NonterminalSet} (same : ∀ a, a ∈ s ↔ a ∈ t) : s = t := by
  cases s with | mk bits
  cases t with | mk bits'
  have equal : bits = bits' := by
    apply BitVec.eq_of_getLsbD_eq
    intro i small
    obtain ⟨a, rfl⟩ := Nonterminal.exists_index_eq small
    exact Bool.eq_iff_iff.mpr (same a)
  rw [equal]

@[simp]
theorem not_mem_empty (a : Nonterminal) : a ∉ (∅ : NonterminalSet) := by
  rw [mem_iff_getLsbD]
  change ¬ (0#27).getLsbD a.index = true
  simp

theorem eq_empty_iff {s : NonterminalSet} : s = ∅ ↔ ∀ a, a ∉ s := by
  refine ⟨fun none_left a => none_left ▸ not_mem_empty a, fun none_left => ext fun a => ?_⟩
  exact iff_of_false (none_left a) (not_mem_empty a)

@[simp]
theorem mem_insert {a b : Nonterminal} {s : NonterminalSet} : a ∈ s.insert b ↔ a ∈ s ∨ a = b := by
  simp only [mem_iff_getLsbD, insert, BitVec.getLsbD_or, Bool.or_eq_true, BitVec.getLsbD_twoPow]
  simp only [b.index_lt, decide_true, Bool.true_and, decide_eq_true_eq, Nonterminal.index_inj]
  rw [@eq_comm _ b a]

@[simp]
theorem mem_union {a : Nonterminal} {s t : NonterminalSet} : a ∈ s ∪ t ↔ a ∈ s ∨ a ∈ t := by
  change a ∈ union s t ↔ _
  simp only [mem_iff_getLsbD, union, BitVec.getLsbD_or, Bool.or_eq_true]

theorem mem_foldl_insert {a : Nonterminal} {as : List Nonterminal} {s : NonterminalSet} :
    a ∈ as.foldl insert s ↔ a ∈ s ∨ a ∈ as := by
  induction as generalizing s with
  | nil => simp
  | cons b as ih => simp [ih, or_assoc]

@[simp]
theorem mem_ofList {a : Nonterminal} {as : List Nonterminal} : a ∈ ofList as ↔ a ∈ as := by
  simp [ofList, mem_foldl_insert]

theorem mem_foldl_union {a : Nonterminal} {sets : List NonterminalSet} {s : NonterminalSet} :
    a ∈ sets.foldl union s ↔ a ∈ s ∨ ∃ t ∈ sets, a ∈ t := by
  induction sets generalizing s with
  | nil => simp
  | cons t sets ih =>
    have step : a ∈ s.union t ↔ a ∈ s ∨ a ∈ t := mem_union
    simp [ih, step, or_assoc]

@[simp]
theorem mem_unions {a : Nonterminal} {sets : List NonterminalSet} :
    a ∈ unions sets ↔ ∃ t ∈ sets, a ∈ t := by
  simp [unions, mem_foldl_union]

@[simp]
theorem mem_toList {a : Nonterminal} {s : NonterminalSet} : a ∈ s.toList ↔ a ∈ s := by
  simp [toList, mem_def, Nonterminal.mem_all]

/-! ## Growth -/

theorem eq_union_of_subset {s t : NonterminalSet} (subset : ∀ a, a ∈ s → a ∈ t) : t = s ∪ t := by
  apply ext
  intro a
  rw [mem_union]
  exact ⟨Or.inr, fun either => either.elim (subset a) id⟩

/-- A set that gains members loses room. -/
theorem room_lt_of_subset {s t : NonterminalSet} (subset : ∀ a, a ∈ s → a ∈ t) (differ : s ≠ t) :
    t.room < s.room := by
  have whole : t.bits = s.bits ||| t.bits :=
    congrArg NonterminalSet.bits (eq_union_of_subset subset)
  have above : s.bits.toNat ≤ t.bits.toNat := by
    rw [whole, BitVec.toNat_or]
    exact Nat.left_le_or
  have strict : s.bits.toNat ≠ t.bits.toNat := by
    intro same
    apply differ
    cases s; cases t
    exact congrArg NonterminalSet.mk (BitVec.eq_of_toNat_eq same)
  have bound := t.bits.isLt
  unfold room
  rw [BitVec.toNat_not, BitVec.toNat_not]
  omega

theorem room_insert_lt {s : NonterminalSet} {a : Nonterminal} (fresh : a ∉ s) :
    (s.insert a).room < s.room := by
  apply room_lt_of_subset
  · intro b member
    exact mem_insert.mpr (Or.inl member)
  · intro same
    apply fresh
    rw [same]
    exact mem_insert.mpr (Or.inr rfl)

end NonterminalSet

end BalineseChart

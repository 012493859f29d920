import BalineseChart.Proofs.Agreement
import BalineseChart.Proofs.Reconstruction

/-!
# What depends on the order of the rules

A list of rules has an order and may repeat itself. Analyses see little of that: which
words are known and what the chart holds depends on the set of rules only, and a clitic is
cut off by the first pronoun that fits, for which the pronouns count in the order of their
first rules. `analyse_and_tree_eq_of_mem_iff` says that nothing else matters to an
analysis, and that its tree depends on the pairs of each nonterminal in the order of their
first rules besides.

Both orders matter through searches for the first success. Such a search gives the same
for a list and for the list without its repeats (`findSome?_eraseDups`), for a repeat is
tried only after its first occurrence has failed. The failure that a search ends with may
differ, as it is that of the last attempt; but an analysis never ends in a failure
(`exists_tree_analyse`), so it is enough to compare successes.
-/

namespace BalineseChart

/-! ## First successes in lists with repeats -/

section FirstHit

variable {α β γ : Type}

/-- Leaving out what has no success leaves the first success. -/
theorem findSome?_filter {f : α → Option β} {keep : α → Bool} {xs : List α}
    (dropped : ∀ x, keep x = false → f x = none) :
    (xs.filter keep).findSome? f = xs.findSome? f := by
  induction xs with
  | nil => rfl
  | cons x others ih =>
    cases verdict : keep x with
    | true => rw [List.filter_cons_of_pos verdict, List.findSome?_cons, List.findSome?_cons, ih]
    | false =>
      rw [List.filter_cons_of_neg (Bool.eq_false_iff.mp verdict), ih, List.findSome?_cons,
        dropped x verdict]

/-- Repeats do not change the first success: a list without its repeats goes on, after
its first member, without that member. -/
theorem findSome?_eraseDups [BEq α] [LawfulBEq α] (f : α → Option β) (xs : List α) :
    xs.eraseDups.findSome? f = xs.findSome? f := by
  match xs with
  | [] => rfl
  | x :: others =>
    rw [List.eraseDups_cons, List.findSome?_cons, List.findSome?_cons, findSome?_eraseDups f]
    cases hit : f x with
    | some result => rfl
    | none =>
      apply findSome?_filter
      intro y same
      rw [eq_of_beq (Bool.not_eq_eq_eq_not.mp same), hit]
termination_by xs.length
decreasing_by
  exact Nat.lt_succ_of_le (List.length_filter_le _ _)

theorem findSome?_congr_of_eraseDups [BEq α] [LawfulBEq α] (f : α → Option β) {xs ys : List α}
    (same : xs.eraseDups = ys.eraseDups) : xs.findSome? f = ys.findSome? f := by
  rw [← findSome?_eraseDups f xs, same, findSome?_eraseDups]

theorem findSome?_flatMap (f : β → Option γ) (lists : α → List β) (xs : List α) :
    (xs.flatMap lists).findSome? f = xs.findSome? fun x => (lists x).findSome? f := by
  induction xs with
  | nil => rfl
  | cons x others ih =>
    rw [List.flatMap_cons, List.findSome?_append, ih, List.findSome?_cons]
    cases (lists x).findSome? f <;> rfl

end FirstHit

/-! ## The search for a derivation -/

theorem eq_ok_of_toOption {ε α : Type} {outcome : Except ε α} {result : α}
    (found : outcome.toOption = some result) : outcome = .ok result := by
  cases outcome with
  | error failure => cases found
  | ok other => exact congrArg Except.ok (Option.some.inj found)

/-- What a search finds, if it finds anything, is the first success of its attempts. -/
theorem toOption_firstSuccess {α β ε : Type} (attempt : α → Except ε β) (failure : ε)
    (xs : List α) :
    (firstSuccess attempt failure xs).toOption = xs.findSome? fun x => (attempt x).toOption := by
  induction xs generalizing failure with
  | nil => rfl
  | cons x others ih =>
    rw [firstSuccess, List.findSome?_cons]
    cases attempt x with
    | ok result => rfl
    | error failure' => exact ih failure'

section Search

variable {g g' : Grammar} {chart : Chart} {tokens : List String}

theorem toOption_deriveSplit {fits : tokens.length = chart.size} (a : Nonterminal) {i j : Nat}
    (inside : j < chart.size) (split : Split i j) :
    (deriveSplit g chart tokens fits a inside split).toOption =
      (derive g chart tokens fits split.left i split.cut split.lower
        (Nat.lt_trans split.upper inside)).toOption.bind fun left =>
      (derive g chart tokens fits split.right (split.cut + 1) j split.upper inside).toOption.map
        (.join a left) := by
  unfold deriveSplit
  split
  · next failed => rw [failed]; rfl
  · next leftFound =>
    rw [leftFound]
    split
    · next failed => rw [failed]; rfl
    · next rightFound => rw [rightFound]; rfl

/-- Grammars with the same pairs in the same order, repeats left aside, find the same
trees, by induction on the length of the span. -/
theorem toOption_derive_congr
    (pairs : ∀ a, (g.pairsOf a).eraseDups = (g'.pairsOf a).eraseDups)
    (fits : tokens.length = chart.size) (a : Nonterminal) {i j : Nat} (ordered : i ≤ j)
    (inside : j < chart.size) :
    (derive g chart tokens fits a i j ordered inside).toOption =
      (derive g' chart tokens fits a i j ordered inside).toOption := by
  induction length : j - i using Nat.strongRecOn generalizing i j a with
  | ind d ih =>
    rcases Nat.lt_or_eq_of_le ordered with shorter | rfl
    · have attempts : ∀ split : Split i j,
          (deriveSplit g chart tokens fits a inside split).toOption =
            (deriveSplit g' chart tokens fits a inside split).toOption := by
        intro split
        have lower := split.lower
        have upper := split.upper
        rw [toOption_deriveSplit, toOption_deriveSplit, ih (split.cut - i) (by omega) _ lower _ rfl,
          ih (j - (split.cut + 1)) (by omega) _ upper inside rfl]
      rw [derive_of_lt a shorter, derive_of_lt a shorter, toOption_firstSuccess,
        toOption_firstSuccess, Chart.splits, Chart.splits, findSome?_flatMap, findSome?_flatMap,
        funext attempts]
      exact findSome?_congr_of_eraseDups _ (pairs a)
    · rw [derive_self, derive_self]

/-- A tree that one grammar finds is found by the other. -/
theorem reconstruct_of_pairs (start : g.start = g'.start)
    (pairs : ∀ a, (g.pairsOf a).eraseDups = (g'.pairsOf a).eraseDups) {tree : Tree}
    (found : reconstruct g chart tokens = .ok (some tree)) :
    reconstruct g' chart tokens = .ok (some tree) := by
  obtain ⟨fits, accepted, derived⟩ := exists_derive_of_reconstruct found
  have same := toOption_derive_congr pairs fits g.start chart.zero_le_last
    (Chart.last_lt_size (Chart.size_pos_of_accepts accepted))
  rw [derived] at same
  simp only [start] at accepted same
  exact reconstruct_of_derive accepted (eq_ok_of_toOption same.symm)

end Search

/-! ## Two lists of the same rules -/

/-- The words that the rules declare for a nonterminal, in order and with repeats. -/
def declaredWords (rules : List Rule) (a : Nonterminal) : List String :=
  rules.filterMap fun rule => if rule.head = a then rule.body.word? else none

/-- The pairs that the rules declare for a nonterminal, in order and with repeats. -/
def declaredPairs (rules : List Rule) (a : Nonterminal) : List (Nonterminal × Nonterminal) :=
  rules.filterMap fun rule => if rule.head = a then rule.body.pair? else none

theorem mem_declaredWords {rules : List Rule} {a : Nonterminal} {word : String} :
    word ∈ declaredWords rules a ↔ ⟨a, .word word⟩ ∈ rules := by
  rw [declaredWords, List.mem_filterMap]
  constructor
  · intro declared
    obtain ⟨⟨head, text | ⟨left, right⟩⟩, member, found⟩ := declared
    · split at found
      · next same =>
        cases found
        exact same ▸ member
      · cases found
    · split at found <;> cases found
  · intro member
    exact ⟨_, member, if_pos rfl⟩

theorem Grammar.clitics_ofRules (start : Nonterminal) (rules : List Rule) :
    (ofRules start rules).clitics = declaredWords rules .pronoun :=
  wordsOf_ofRules start rules .pronoun

/-- Pronouns in the same order, repeats left aside, end words alike. -/
theorem agree_of_declaredWords (start : Nonterminal) {rules rules' : List Rule}
    (declared : ∀ rule, rule ∈ rules ↔ rule ∈ rules')
    (pronouns : (declaredWords rules .pronoun).eraseDups =
      (declaredWords rules' .pronoun).eraseDups) :
    (Grammar.ofRules start rules).Agree (Grammar.ofRules start rules') := by
  apply Grammar.agree_of_mem_iff declared
  intro word
  rw [Grammar.cliticOf?, Grammar.cliticOf?, Grammar.clitics_ofRules, Grammar.clitics_ofRules,
    List.find?_eq_findSome?_guard, List.find?_eq_findSome?_guard]
  exact findSome?_congr_of_eraseDups _ pronouns

/-- Two lists of the same rules, in any order and with any repeats, make grammars that
analyse every sentence alike, if they have the pronouns in the same order of first rules;
and if they have the pairs of each nonterminal in the same order of first rules as well,
the trees are the same. -/
theorem analyse_and_tree_eq_of_mem_iff (start : Nonterminal) {rules rules' : List Rule}
    (declared : ∀ rule, rule ∈ rules ↔ rule ∈ rules')
    (pronouns : (declaredWords rules .pronoun).eraseDups =
      (declaredWords rules' .pronoun).eraseDups) :
    (∀ sentence, (Grammar.ofRules start rules).analyse sentence =
      (Grammar.ofRules start rules').analyse sentence) ∧
    ((∀ a, (declaredPairs rules a).eraseDups = (declaredPairs rules' a).eraseDups) →
      ∀ sentence,
        ((Grammar.ofRules start rules).analyse sentence).tree (.ofRules start rules) =
          ((Grammar.ofRules start rules').analyse sentence).tree (.ofRules start rules')) := by
  have agree := agree_of_declaredWords start declared pronouns
  refine ⟨agree.analyse_eq, ?_⟩
  intro pairs sentence
  have same : ∀ a, ((Grammar.ofRules start rules).pairsOf a).eraseDups =
      ((Grammar.ofRules start rules').pairsOf a).eraseDups := by
    intro a
    rw [Grammar.pairsOf_ofRules, Grammar.pairsOf_ofRules]
    exact pairs a
  rw [← agree.analyse_eq sentence]
  obtain ⟨tree?, found, verdict⟩ := exists_tree_analyse start rules sentence
  generalize (Grammar.ofRules start rules).analyse sentence = analysis at found verdict ⊢
  cases tree? with
  | none =>
    rw [Analysis.tree_of_rejected verdict.symm, Analysis.tree_of_rejected verdict.symm]
  | some tree =>
    rw [Analysis.tree_of_accepted verdict.symm] at found ⊢
    rw [found, Analysis.tree_of_accepted verdict.symm,
      reconstruct_of_pairs agree.start same found]

/-- Possessives, whose pronouns may be bound to the noun before them. -/
def possessives : List Rule :=
  [⟨.pronoun, .word "ne"⟩, ⟨.pronoun, .word "e"⟩, ⟨.noun, .word "buku"⟩, ⟨.noun, .word "adi"⟩,
   ⟨.nounPhrase, .pair .noun .pronoun⟩, ⟨.nounPhrase, .pair .nounPhrase .nounPhrase⟩]

/-- The same rules, some of them twice, in another order. -/
def mixedPossessives : List Rule :=
  [⟨.nounPhrase, .pair .noun .pronoun⟩, ⟨.noun, .word "adi"⟩, ⟨.pronoun, .word "ne"⟩,
   ⟨.nounPhrase, .pair .noun .pronoun⟩, ⟨.nounPhrase, .pair .nounPhrase .nounPhrase⟩,
   ⟨.noun, .word "buku"⟩, ⟨.pronoun, .word "ne"⟩, ⟨.pronoun, .word "e"⟩]

/-- The order of the classes and the repeats leave no trace in an analysis or its tree. -/
theorem mixedPossessives_alike :
    (∀ rule, rule ∈ possessives ↔ rule ∈ mixedPossessives) ∧
      (declaredWords possessives .pronoun).eraseDups =
        (declaredWords mixedPossessives .pronoun).eraseDups ∧
      (∀ a, (declaredPairs possessives a).eraseDups =
        (declaredPairs mixedPossessives a).eraseDups) ∧
      (Grammar.ofRules .nounPhrase possessives).analyse "Bukune adine" =
        (Grammar.ofRules .nounPhrase mixedPossessives).analyse "Bukune adine" ∧
      ((Grammar.ofRules .nounPhrase possessives).analyse "Bukune adine").tree
          (.ofRules .nounPhrase possessives) =
        ((Grammar.ofRules .nounPhrase mixedPossessives).analyse "Bukune adine").tree
          (.ofRules .nounPhrase mixedPossessives) := by
  have forth : ∀ rule ∈ possessives, rule ∈ mixedPossessives := by decide
  have back : ∀ rule ∈ mixedPossessives, rule ∈ possessives := by decide
  have declared : ∀ rule, rule ∈ possessives ↔ rule ∈ mixedPossessives :=
    fun rule => ⟨forth rule, back rule⟩
  have pronouns : (declaredWords possessives .pronoun).eraseDups =
      (declaredWords mixedPossessives .pronoun).eraseDups := by decide
  have pairs : ∀ a, (declaredPairs possessives a).eraseDups =
      (declaredPairs mixedPossessives a).eraseDups := by
    have listed : ∀ a ∈ Nonterminal.all, (declaredPairs possessives a).eraseDups =
        (declaredPairs mixedPossessives a).eraseDups := by decide
    exact fun a => listed a (Nonterminal.mem_all a)
  obtain ⟨analyses, trees⟩ := analyse_and_tree_eq_of_mem_iff .nounPhrase declared pronouns
  exact ⟨declared, pronouns, pairs, analyses "Bukune adine", trees pairs "Bukune adine"⟩

end BalineseChart

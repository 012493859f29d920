import BalineseChart.Proofs.RoundTrip
import Mathlib.Data.List.Perm.Subperm

/-!
# A text that is printed and read again and again settles

Printing groups the rules by their heads, and in the grouped rules the nonterminals may be
mentioned in another order than before. So the text of a grammar that was printed and read may
be grouped in yet another way, as that of `crossed` is. But this comes to an end: with each
round the listings of the nonterminals before and after it begin alike by one more
(`settled_after`), and when they are the same, then so are the texts (`reformatting_settles`).

The next listing begins with what the beginning of this one announces (`announced`): the start
symbol and what is mentioned in the rules of the nonterminals in it. That includes the beginning
itself, since a nonterminal is listed after something that accounts for it
(`placedAfter_of_order`): it has rules of its own or is mentioned in a rule of one that is listed
before it. If nothing else is announced, then the next nonterminal has rules of its own, and it
is listed next again (`prefix_order_rules_of_announced`).
-/

namespace BalineseChart.Grammar

open Format

/-! ## What stands before a nonterminal in the listing -/

/-- The nonterminals that the rules of one nonterminal mention, in order and with repeats. -/
def mentionedBy (g : Grammar) (a : Nonterminal) : List Nonterminal :=
  (g.rulesOf a).flatMap Rule.mentioned

/-- A nonterminal has a place in a listing after the nonterminals in `front` if it is the start
symbol, has a rule or is mentioned in a rule of one of them. -/
def PlacedAfter (g : Grammar) (front : List Nonterminal) (a : Nonterminal) : Prop :=
  a = g.start ∨ g.rulesOf a ≠ [] ∨ ∃ b ∈ front, a ∈ g.mentionedBy b

/-- The first of the rules that mention a nonterminal. -/
theorem exists_first_mention {rules : List Rule} {a : Nonterminal}
    (mentioned : ∃ rule ∈ rules, a ∈ rule.mentioned) :
    ∃ earlier rule later, rules = earlier ++ rule :: later ∧ a ∈ rule.mentioned ∧
      a ∉ earlier.flatMap Rule.mentioned := by
  have found : (rules.find? fun rule => a ∈ rule.mentioned).isSome := by
    simpa using mentioned
  obtain ⟨rule, first⟩ := Option.isSome_iff_exists.mp found
  obtain ⟨here, earlier, later, shape, before⟩ := List.find?_eq_some_iff_append.mp first
  refine ⟨earlier, rule, later, shape, of_decide_eq_true here, ?_⟩
  intro member
  obtain ⟨other, listed, inside⟩ := List.mem_flatMap.mp member
  simpa [inside] using before other listed

theorem eraseDups_prefix (as bs : List Nonterminal) : as.eraseDups <+: (as ++ bs).eraseDups :=
  ⟨_, List.eraseDups_append.symm⟩

/-- Every nonterminal is listed after something that accounts for it. -/
theorem placedAfter_of_order {start : Nonterminal} {rules : List Rule}
    {front back : List Nonterminal} {a : Nonterminal}
    (listing : (ofRules start rules).order = front ++ a :: back) :
    PlacedAfter (ofRules start rules) front a := by
  by_cases first : a = start
  · exact Or.inl (first.trans (start_ofRules start rules).symm)
  have member : a ∈ (ofRules start rules).order := by
    rw [listing]
    exact List.mem_append_cons_self
  rw [← (listed_ofRules start rules).mentions_iff, mentions_ofRules] at member
  obtain ⟨earlier, rule, later, shape, here, fresh⟩ :=
    exists_first_mention (member.resolve_left first)
  have listed : rule ∈ (ofRules start rules).rulesOf rule.head := by
    rw [mem_rulesOf, mem_productionsOf_ofRules, shape]
    exact ⟨rfl, List.mem_append_cons_self⟩
  refine Or.inr ?_
  by_cases head : a = rule.head
  · exact Or.inl (head ▸ List.ne_nil_of_mem listed)
  -- The head of the rule is mentioned right before its parts, so it is listed before them.
  refine Or.inr ⟨rule.head, ?_, List.mem_flatMap.mpr ⟨rule, listed, here⟩⟩
  let upToHead := start :: (earlier.flatMap Rule.mentioned ++ [rule.head])
  have whole : start :: rules.flatMap Rule.mentioned =
      upToHead ++ (rule.body.parts ++ later.flatMap Rule.mentioned) := by
    simp [upToHead, shape, Rule.mentioned]
  have before : upToHead.eraseDups <+: (ofRules start rules).order := by
    rw [order_ofRules, whole]
    exact eraseDups_prefix _ _
  have upToHere : front ++ [a] <+: (ofRules start rules).order :=
    ⟨back, by rw [listing, ← List.append_cons]⟩
  have headed : rule.head ∈ upToHead.eraseDups := by
    rw [List.mem_eraseDups]
    simp [upToHead]
  have unlisted : a ∉ upToHead.eraseDups := by
    rw [List.mem_eraseDups]
    simp [upToHead, first, fresh, head]
  rcases List.prefix_or_prefix_of_prefix before upToHere with within | beyond
  · rcases List.mem_append.mp (within.subset headed) with inFront | last
    · exact inFront
    · exact (head (List.mem_singleton.mp last).symm).elim
  · exact (unlisted (beyond.subset List.mem_concat_self)).elim

/-! ## One round -/

section Round

variable (start : Nonterminal) (rules : List Rule)

theorem rulesOf_rules (a : Nonterminal) :
    (ofRules start (ofRules start rules).rules).rulesOf a = (ofRules start rules).rulesOf a := by
  rw [rulesOf, productionsOf_rules, rulesOf]

theorem mentionedBy_rules (a : Nonterminal) :
    (ofRules start (ofRules start rules).rules).mentionedBy a =
      (ofRules start rules).mentionedBy a := by
  rw [mentionedBy, rulesOf_rules, mentionedBy]

/-- The rules of a nonterminal mention it first. -/
theorem exists_mentionedBy_eq_cons {a : Nonterminal}
    (headed : (ofRules start rules).rulesOf a ≠ []) :
    ∃ others, (ofRules start rules).mentionedBy a = a :: others := by
  obtain ⟨rule, later, shape⟩ := List.exists_cons_of_ne_nil headed
  have head : rule.head = a := (mem_rulesOf.mp (shape ▸ List.mem_cons_self)).1
  refine ⟨rule.body.parts ++ later.flatMap Rule.mentioned, ?_⟩
  rw [mentionedBy, shape, List.flatMap_cons, Rule.mentioned, head, List.cons_append]

/-- The start symbol and what the rules of the nonterminals in a listing mention. -/
def announced (listing : List Nonterminal) : List Nonterminal :=
  start :: listing.flatMap (ofRules start rules).mentionedBy

/-- The next listing is what this one announces. -/
theorem order_rules :
    (ofRules start (ofRules start rules).rules).order =
      (announced start rules (ofRules start rules).order).eraseDups := by
  rw [order_ofRules, Grammar.rules, List.flatMap_assoc]
  rfl

end Round

section Prefixes

variable {start : Nonterminal} {rules : List Rule} {front back : List Nonterminal}

/-- The next listing begins with what the beginning of this one announces. -/
theorem order_rules_of_append (listing : front ++ back = (ofRules start rules).order) :
    (ofRules start (ofRules start rules).rules).order =
      (announced start rules front).eraseDups ++
        ((back.flatMap (ofRules start rules).mentionedBy).removeAll
          (announced start rules front)).eraseDups := by
  rw [order_rules, announced, ← listing, List.flatMap_append, ← List.cons_append,
    List.eraseDups_append, announced]

/-- A nonterminal is announced by those that are listed before it, or it has rules of its own. -/
theorem announced_or_headed {a : Nonterminal}
    (listing : front ++ a :: back = (ofRules start rules).order) :
    a ∈ announced start rules front ∨
      ∃ others, (ofRules start rules).mentionedBy a = a :: others := by
  rw [announced, List.mem_cons, List.mem_flatMap]
  rcases placedAfter_of_order listing.symm with first | headed | mentioned
  · exact Or.inl (Or.inl (first.trans (start_ofRules start rules)))
  · exact Or.inr (exists_mentionedBy_eq_cons start rules headed)
  · exact Or.inl (Or.inr mentioned)

/-- The beginning of a listing is among what it announces. -/
theorem subset_announced (listing : front ++ back = (ofRules start rules).order) :
    front ⊆ announced start rules front := by
  intro a member
  obtain ⟨earlier, later, rfl⟩ := List.append_of_mem member
  rw [List.append_assoc, List.cons_append] at listing
  rcases announced_or_headed listing with before | ⟨others, shape⟩
  · rw [announced, List.flatMap_append, ← List.cons_append]
    exact List.mem_append_left _ before
  · rw [announced, List.mem_cons, List.mem_flatMap]
    exact Or.inr ⟨a, member, shape ▸ List.mem_cons_self⟩

/-- If the beginning of a listing announces just itself, then the next nonterminal has rules of
its own, and it is listed next again. -/
theorem prefix_order_rules_of_announced {a : Nonterminal}
    (listing : front ++ a :: back = (ofRules start rules).order)
    (closed : front = (announced start rules front).eraseDups) :
    front ++ [a] <+: (ofRules start (ofRules start rules).rules).order := by
  have fresh : a ∉ announced start rules front := by
    obtain ⟨-, -, apart⟩ :=
      List.nodup_append.mp (listing ▸ (listed_ofRules start rules).nodup)
    rw [← List.mem_eraseDups, ← closed]
    exact fun member => apart a member a List.mem_cons_self rfl
  obtain ⟨others, headed⟩ := (announced_or_headed listing).resolve_left fresh
  rw [order_rules_of_append listing, ← closed, List.flatMap_cons, headed, List.cons_append,
    List.cons_removeAll, if_pos (by simpa using fresh), List.eraseDups_cons,
    List.prefix_append_right_inj]
  exact ⟨_, rfl⟩

/-- If two listings in a row begin alike, then the second and the third begin alike by one more
nonterminal, or are the same altogether. -/
theorem settles_further {rules' : List Rule} (regrouped : rules' = (ofRules start rules).rules)
    (now : front <+: (ofRules start rules).order) (next : front <+: (ofRules start rules').order) :
    (ofRules start rules').order = (ofRules start (ofRules start rules').rules).order ∨
      ∃ a, front ++ [a] <+: (ofRules start rules').order ∧
        front ++ [a] <+: (ofRules start (ofRules start rules').rules).order := by
  have mentions : (ofRules start rules').mentionedBy = (ofRules start rules).mentionedBy := by
    rw [regrouped]
    exact funext (mentionedBy_rules start rules)
  have same : announced start rules' front = announced start rules front := by
    rw [announced, mentions, announced]
  obtain ⟨back, listing⟩ := now
  obtain ⟨back', listing'⟩ := next
  have order := order_rules_of_append listing
  have order' := order_rules_of_append listing'
  rw [← regrouped, ← same] at order
  have distinct : front.Nodup :=
    (List.nodup_append.mp (listing' ▸ (listed_ofRules start rules').nodup)).1
  have covered : front ⊆ (announced start rules' front).eraseDups :=
    fun a member => List.mem_eraseDups.mpr (subset_announced listing' member)
  have begins : front <+: (announced start rules' front).eraseDups :=
    List.prefix_of_prefix_length_le ⟨back', listing'⟩ ⟨_, order.symm⟩
      (List.subperm_of_subset distinct covered).length_le
  obtain ⟨more, shape⟩ := begins
  rcases more with _ | ⟨a, more⟩
  · rw [List.append_nil] at shape
    rcases back' with _ | ⟨a, back'⟩
    · left
      rw [order', ← shape, ← listing']
      rfl
    · right
      exact ⟨a, ⟨back', by rw [← List.append_cons, listing']⟩,
        prefix_order_rules_of_announced listing' shape⟩
  · right
    have longer : front ++ [a] <+: (announced start rules' front).eraseDups :=
      ⟨more, by rw [← List.append_cons, shape]⟩
    exact ⟨a, longer.trans ⟨_, order.symm⟩, longer.trans ⟨_, order'.symm⟩⟩

end Prefixes

/-! ## Many rounds -/

section Rounds

variable (start : Nonterminal) (rules : List Rule)

/-- The rules after they were grouped so many times. -/
def rounds : Nat → List Rule
  | 0 => rules
  | k + 1 => (ofRules start (rounds k)).rules

theorem productionsOf_rounds (k : Nat) (a : Nonterminal) :
    (ofRules start (rounds start rules k)).productionsOf a =
      (ofRules start rules).productionsOf a := by
  induction k with
  | zero => rfl
  | succ k ih => rw [rounds, productionsOf_rules, ih]

theorem length_order_rules :
    (ofRules start (ofRules start rules).rules).order.length =
      (ofRules start rules).order.length := by
  have listed := listed_ofRules start rules
  have listed' := listed_ofRules start (ofRules start rules).rules
  apply List.Perm.length_eq
  rw [List.perm_ext_iff_of_nodup listed'.nodup listed.nodup]
  intro a
  rw [← listed'.mentions_iff, mentions_rules, listed.mentions_iff]

theorem length_order_rounds (k : Nat) :
    (ofRules start (rounds start rules k)).order.length = (ofRules start rules).order.length := by
  induction k with
  | zero => rfl
  | succ k ih => rw [rounds, length_order_rules, ih]

/-- With each round, the listings before and after it begin alike by one more nonterminal. -/
theorem settled_after (k : Nat) :
    (ofRules start (rounds start rules k)).order =
        (ofRules start (rounds start rules (k + 1))).order ∨
      ∃ front : List Nonterminal, front.length = k + 1 ∧
        front <+: (ofRules start (rounds start rules k)).order ∧
        front <+: (ofRules start (rounds start rules (k + 1))).order := by
  induction k with
  | zero =>
    right
    obtain ⟨others, order⟩ := exists_order_eq_cons start rules
    obtain ⟨others', order'⟩ := exists_order_eq_cons start (ofRules start rules).rules
    exact ⟨[start], rfl, ⟨others, order.symm⟩, ⟨others', order'.symm⟩⟩
  | succ k ih =>
    rcases ih with same | ⟨front, length, now, next⟩
    · left
      have mentions : (ofRules start (rounds start rules (k + 1))).mentionedBy =
          (ofRules start (rounds start rules k)).mentionedBy :=
        funext (mentionedBy_rules start (rounds start rules k))
      rw [rounds, rounds, order_rules, order_rules, announced, announced, mentions, same]
    · rcases settles_further rfl now next with same | ⟨a, now', next'⟩
      · exact Or.inl same
      · refine Or.inr ⟨front ++ [a], ?_, now', next'⟩
        rw [List.length_append, length, List.length_singleton]

theorem take_order_rounds (k : Nat) :
    (ofRules start (rounds start rules k)).order.take (k + 1) =
      (ofRules start (rounds start rules (k + 1))).order.take (k + 1) := by
  rcases settled_after start rules k with same | ⟨front, length, now, next⟩
  · rw [same]
  · have before := List.prefix_iff_eq_take.mp now
    have after := List.prefix_iff_eq_take.mp next
    rw [length] at before after
    exact before.symm.trans after

end Rounds

/-! ## Printing and reading -/

theorem text_congr {g h : Grammar} (start : g.start = h.start) (order : g.order = h.order)
    (productions : ∀ a, g.productionsOf a = h.productionsOf a) : g.text = h.text := by
  have without : g.withoutRules = h.withoutRules := by
    simp only [withoutRules, order, productions]
  have own : g.rulesOf = h.rulesOf := by
    funext a
    rw [rulesOf, productions, rulesOf]
  have rules : g.rules = h.rules := by
    rw [Grammar.rules, order, own, Grammar.rules]
  simp only [text, withoutRulesLine, start, without, rules]

/-- What comes of a grammar that is printed and read again so many times. -/
def reformatted (g : Grammar) : Nat → Except TextError Grammar
  | 0 => .ok g
  | k + 1 =>
    match g.reformatted k with
    | .error cause => .error cause
    | .ok h => ofText h.text

theorem Statable.rounds {start : Nonterminal} {rules : List Rule} (statable : Statable start rules)
    (k : Nat) : Statable start (rounds start rules k) := by
  induction k with
  | zero => exact statable
  | succ k ih =>
    have same : ∀ rule, rule ∈ (ofRules start (Grammar.rounds start rules k)).rules ↔
        rule ∈ Grammar.rounds start rules k :=
      fun _ => mem_rules_ofRules start (Grammar.rounds start rules k)
    obtain ⟨rule, member, head⟩ := ih.headed
    exact ⟨⟨rule, (same rule).mpr member, head⟩,
      fun rule member => ih.plain rule ((same rule).mp member)⟩

theorem reformatted_ofRules {start : Nonterminal} {rules : List Rule}
    (statable : Statable start rules) (k : Nat) :
    (ofRules start rules).reformatted k = .ok (ofRules start (rounds start rules k)) := by
  induction k with
  | zero => rfl
  | succ k ih =>
    have now := statable.rounds k
    simp only [reformatted, ih]
    rw [ofText_text_ofRules now.headed now.plain, rounds]

/-- A grammar that was read can be printed and read again any number of times. The listings
before and after a round begin alike by one more nonterminal each time, and once they are as long
as that the text does not change any more. -/
theorem reformatting_settles {text : String} {g : Grammar} (read : ofText text = .ok g) (k : Nat) :
    ∃ h h' : Grammar, g.reformatted k = .ok h ∧ g.reformatted (k + 1) = .ok h' ∧
      ofText h.text = .ok h' ∧ h.order.take (k + 1) = h'.order.take (k + 1) ∧
      (g.order.length ≤ k + 1 → h'.order = h.order ∧ h'.text = h.text) := by
  obtain ⟨first, others, stated, rfl⟩ := exists_grammarText_of_ofText read
  have statable := statable_of_grammarText stated
  have now := statable.rounds k
  have begins := take_order_rounds first.head (first :: others) k
  refine ⟨_, _, reformatted_ofRules statable k, reformatted_ofRules statable (k + 1),
    ofText_text_ofRules now.headed now.plain, begins, fun long => ?_⟩
  have order : (ofRules first.head (rounds first.head (first :: others) (k + 1))).order =
      (ofRules first.head (rounds first.head (first :: others) k)).order := by
    rw [List.take_of_length_le, List.take_of_length_le] at begins
    · exact begins.symm
    · rwa [length_order_rounds]
    · rwa [length_order_rounds]
  refine ⟨order, text_congr ?_ order fun a => ?_⟩
  · rw [start_ofRules, start_ofRules]
  · rw [productionsOf_rounds, productionsOf_rounds]

/-- The grammar of crossed rules has seven nonterminals. -/
theorem crossed_settles :
    let g := ofRules .sentence (ofRules .sentence crossed).rules
    ofText (ofRules .sentence crossed).text = .ok g ∧ g.order.length ≤ 6 + 1 ∧
      ∃ h h' : Grammar, g.reformatted 6 = .ok h ∧ g.reformatted 7 = .ok h' ∧ h'.text = h.text := by
  intro g
  have read : ofText (ofRules .sentence crossed).text = .ok g :=
    ofText_text_ofRules statable_crossed.headed statable_crossed.plain
  have short : g.order.length ≤ 6 + 1 := by decide +kernel
  obtain ⟨h, h', now, next, -, -, settled⟩ := reformatting_settles read 6
  exact ⟨read, short, h, h', now, next, (settled short).2⟩

end BalineseChart.Grammar

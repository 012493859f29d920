import BalineseChart.Grammar

/-!
# What the indices of a grammar hold

`Grammar.ofRules` takes a list of rules one by one and keeps four tables in step.
Here each question that the tables answer is answered from the list alone:

* `productionsOf_ofRules`: the productions of a nonterminal are those of its rules,
  in order and with repeats;
* `headsOfWord_ofRules`, `headsOfPair_ofRules`: the heads of a word or pair are the
  heads of its rules, each at its first place only;
* `order_ofRules`: the nonterminals are listed by their first mention.

Each has a step lemma, for `addRule`, from which it follows by induction on the
rules. The order needs an invariant besides, `Listed`: the entries that `mention`
looks for are the nonterminals that are listed already.
-/

namespace BalineseChart

/-- The nonterminals on the right-hand side of a rule. -/
def Production.parts : Production → List Nonterminal
  | .word _ => []
  | .pair left right => [left, right]

/-- The nonterminals that a rule mentions, its head first. -/
def Rule.mentioned (rule : Rule) : List Nonterminal :=
  rule.head :: rule.body.parts

/-- The heads of the rules for one production, each at its first place only. -/
def headsOf (rules : List Rule) (body : Production) : List Nonterminal :=
  ((rules.filter fun rule => rule.body = body).map Rule.head).eraseDups

theorem mem_headsOf {rules : List Rule} {body : Production} {a : Nonterminal} :
    a ∈ headsOf rules body ↔ ⟨a, body⟩ ∈ rules := by
  rw [headsOf, List.mem_eraseDups]
  simp only [List.mem_map, List.mem_filter, decide_eq_true_eq]
  constructor
  · intro headed
    rcases headed with ⟨⟨head, body'⟩, ⟨member, rfl⟩, rfl⟩
    exact member
  · intro member
    exact ⟨_, ⟨member, rfl⟩, rfl⟩

/-! ## Lists without repeats -/

/-- What has no repeats and gains a new last member is the longer list without its
repeats. -/
theorem pushNew_eraseDups (as : List Nonterminal) (a : Nonterminal) :
    pushNew as.eraseDups a = (as ++ [a]).eraseDups := by
  rw [List.eraseDups_append]
  unfold pushNew
  by_cases member : a ∈ as
  · simp [member, List.removeAll]
  · simp [member, List.removeAll, List.eraseDups_cons]

theorem foldl_pushNew_eraseDups (as bs : List Nonterminal) :
    bs.foldl pushNew as.eraseDups = (as ++ bs).eraseDups := by
  induction bs generalizing as with
  | nil => simp
  | cons b bs ih =>
    rw [List.foldl_cons, pushNew_eraseDups, ih, List.append_assoc, List.singleton_append]

theorem mem_pushNew {as : List Nonterminal} {a b : Nonterminal} :
    b ∈ pushNew as a ↔ b ∈ as ∨ b = a := by
  unfold pushNew
  split
  · next present => exact ⟨Or.inl, fun either => either.elim id (fun same => same ▸ present)⟩
  · simp

theorem nodup_pushNew {as : List Nonterminal} (distinct : as.Nodup) (a : Nonterminal) :
    (pushNew as a).Nodup := by
  unfold pushNew
  split
  · exact distinct
  · next fresh =>
    rw [List.nodup_append]
    refine ⟨distinct, by simp, ?_⟩
    intro b member c last same
    rw [List.mem_singleton] at last
    exact fresh (last ▸ same ▸ member)

namespace Grammar

/-! ## One more entry -/

section Mention

variable (g : Grammar) (a : Nonterminal)

@[simp]
theorem start_mention : (g.mention a).start = g.start := by
  unfold mention
  split <;> rfl

@[simp]
theorem byWord_mention : (g.mention a).byWord = g.byWord := by
  unfold mention
  split <;> rfl

@[simp]
theorem byPair_mention : (g.mention a).byPair = g.byPair := by
  unfold mention
  split <;> rfl

/-- A new entry has no productions, as a missing one. -/
@[simp]
theorem productionsOf_mention (b : Nonterminal) :
    (g.mention a).productionsOf b = g.productionsOf b := by
  unfold mention productionsOf
  split
  · rfl
  · next missing =>
    rw [Std.TreeMap.getD_insert]
    split
    · next same =>
      have equal := Std.LawfulEqOrd.eq_of_compare same
      subst equal
      rw [Std.TreeMap.getD_eq_fallback_of_contains_eq_false (Bool.eq_false_iff.mpr missing)]
    · rfl

theorem mentions_mention (b : Nonterminal) :
    (g.mention a).mentions b = true ↔ g.mentions b = true ∨ b = a := by
  unfold mention mentions
  split
  · next present => exact ⟨Or.inl, fun either => either.elim id (fun same => same ▸ present)⟩
  · rw [Std.TreeMap.contains_insert, Bool.or_eq_true, beq_iff_eq,
      Std.LawfulEqOrd.compare_eq_iff_eq, or_comm, @eq_comm _ a b]

end Mention

/-- The listed nonterminals are those with an entry, each listed once. -/
structure Listed (g : Grammar) : Prop where
  mentions_iff : ∀ a, g.mentions a = true ↔ a ∈ g.order
  nodup : g.order.Nodup

theorem Listed.order_mention {g : Grammar} (listed : g.Listed) (a : Nonterminal) :
    (g.mention a).order = pushNew g.order a := by
  have entry := listed.mentions_iff a
  unfold mentions at entry
  unfold mention pushNew
  simp only [entry]
  split <;> rfl

theorem Listed.mention {g : Grammar} (listed : g.Listed) (a : Nonterminal) :
    (g.mention a).Listed where
  mentions_iff b := by
    rw [mentions_mention, listed.order_mention, mem_pushNew, listed.mentions_iff]
  nodup := by
    rw [listed.order_mention]
    exact nodup_pushNew listed.nodup a

/-! ## One more rule -/

section AddRule

variable (g : Grammar) (rule : Rule)

theorem start_addRule : (g.addRule rule).start = g.start := by
  rcases rule with ⟨head, text | ⟨left, right⟩⟩ <;> simp [addRule, indexHead]

theorem productionsOf_addRule (a : Nonterminal) :
    (g.addRule rule).productionsOf a =
      g.productionsOf a ++ if rule.head = a then [rule.body] else [] := by
  have indexed : (g.indexHead rule.head rule.body).productionsOf a = g.productionsOf a := by
    rcases rule with ⟨head, text | ⟨left, right⟩⟩
    · exact productionsOf_mention g head a
    · simp only [indexHead]
      rw [← g.productionsOf_mention head a, ← (g.mention head).productionsOf_mention left a,
        ← ((g.mention head).mention left).productionsOf_mention right a]
      rfl
  rw [← indexed]
  unfold addRule productionsOf
  simp only [Std.TreeMap.getD_alter, Std.LawfulEqOrd.compare_eq_iff_eq]
  split
  · next same => rw [same, Option.getD_some, ← Std.TreeMap.getD_eq_getD_getElem?]
  · rw [List.append_nil]

theorem headsOfWord_addRule (word : String) :
    (g.addRule rule).headsOfWord word =
      if rule.body = .word word then pushNew (g.headsOfWord word) rule.head
      else g.headsOfWord word := by
  rcases rule with ⟨head, text | ⟨left, right⟩⟩
  · simp only [addRule, indexHead, headsOfWord, byWord_mention, Std.TreeMap.getD_alter,
      Std.LawfulEqOrd.compare_eq_iff_eq, Production.word.injEq]
    split
    · next same => rw [same, Option.getD_some, ← Std.TreeMap.getD_eq_getD_getElem?]
    · rfl
  · simp [addRule, indexHead, headsOfWord]

theorem headsOfPair_addRule (b c : Nonterminal) :
    (g.addRule rule).headsOfPair b c =
      if rule.body = .pair b c then pushNew (g.headsOfPair b c) rule.head
      else g.headsOfPair b c := by
  rcases rule with ⟨head, text | ⟨left, right⟩⟩
  · simp [addRule, indexHead, headsOfPair]
  · simp only [addRule, indexHead, headsOfPair, byPair_mention, Std.TreeMap.getD_alter,
      Std.LawfulEqCmp.compare_eq_iff_eq, Production.pair.injEq, Prod.mk.injEq]
    split
    · next same =>
      rcases same with ⟨rfl, rfl⟩
      rw [Option.getD_some, ← Std.TreeMap.getD_eq_getD_getElem?]
    · rfl

theorem knows_addRule (word : String) :
    (g.addRule rule).knows word = true ↔ g.knows word = true ∨ rule.body = .word word := by
  rcases rule with ⟨head, text | ⟨left, right⟩⟩
  · simp only [addRule, indexHead, knows, byWord_mention, Std.TreeMap.contains_alter,
      Std.LawfulEqOrd.compare_eq_iff_eq, Production.word.injEq]
    split
    · next same => simp [same]
    · next differ => simp [differ]
  · simp [addRule, indexHead, knows]

end AddRule

theorem order_indexHead {g : Grammar} (listed : g.Listed) (head : Nonterminal) (body : Production) :
    (g.indexHead head body).order = (head :: body.parts).foldl pushNew g.order := by
  rcases body with text | ⟨left, right⟩
  · exact listed.order_mention head
  · change (((g.mention head).mention left).mention right).order = _
    rw [((listed.mention head).mention left).order_mention right,
      (listed.mention head).order_mention left, listed.order_mention head]
    rfl

theorem Listed.indexHead {g : Grammar} (listed : g.Listed) (head : Nonterminal)
    (body : Production) : (g.indexHead head body).Listed := by
  rcases body with text | ⟨left, right⟩
  · exact ⟨(listed.mention head).mentions_iff, (listed.mention head).nodup⟩
  · have parts := ((listed.mention head).mention left).mention right
    exact ⟨parts.mentions_iff, parts.nodup⟩

theorem mem_order_indexHead_self {g : Grammar} (listed : g.Listed) (head : Nonterminal)
    (body : Production) : head ∈ (g.indexHead head body).order := by
  have grows : ∀ (as bs : List Nonterminal), head ∈ as → head ∈ bs.foldl pushNew as := by
    intro as bs member
    induction bs generalizing as with
    | nil => exact member
    | cons b bs ih => exact ih _ (mem_pushNew.mpr (Or.inl member))
  rw [order_indexHead listed, List.foldl_cons]
  exact grows _ _ (mem_pushNew.mpr (Or.inr rfl))

theorem order_addRule {g : Grammar} (listed : g.Listed) (rule : Rule) :
    (g.addRule rule).order = rule.mentioned.foldl pushNew g.order :=
  order_indexHead listed rule.head rule.body

/-- A rule's production goes under the entry of its head, which is there by then. -/
theorem Listed.addRule {g : Grammar} (listed : g.Listed) (rule : Rule) :
    (g.addRule rule).Listed where
  mentions_iff a := by
    have indexed := (listed.indexHead rule.head rule.body).mentions_iff a
    have headed := mem_order_indexHead_self listed rule.head rule.body
    change (Std.TreeMap.alter _ _ _).contains a = true ↔ a ∈ (g.indexHead rule.head rule.body).order
    rw [Std.TreeMap.contains_alter]
    split
    · next same =>
      have equal := Std.LawfulEqOrd.eq_of_compare same
      subst equal
      simp [headed]
    · exact indexed
  nodup := (listed.indexHead rule.head rule.body).nodup

/-! ## All rules -/

theorem listed_blank (start : Nonterminal) : (blank start).Listed := by
  have nothing : Listed ⟨start, [], ∅, ∅, ∅⟩ := ⟨by simp [mentions], List.nodup_nil⟩
  exact nothing.mention start

theorem order_blank (start : Nonterminal) : (blank start).order = [start] := by
  simp [blank, mention]

theorem listed_foldl {g : Grammar} (listed : g.Listed) (rules : List Rule) :
    (rules.foldl addRule g).Listed := by
  induction rules generalizing g with
  | nil => exact listed
  | cons rule rules ih => exact ih (listed.addRule rule)

theorem listed_ofRules (start : Nonterminal) (rules : List Rule) : (ofRules start rules).Listed :=
  listed_foldl (listed_blank start) rules

@[simp]
theorem start_ofRules (start : Nonterminal) (rules : List Rule) :
    (ofRules start rules).start = start := by
  have kept : ∀ g : Grammar, (rules.foldl addRule g).start = g.start := by
    intro g
    induction rules generalizing g with
    | nil => rfl
    | cons rule rules ih => rw [List.foldl_cons, ih, start_addRule]
  rw [ofRules, kept, blank, start_mention]

/-- The productions of a nonterminal are those of its rules, in order. -/
theorem productionsOf_ofRules (start : Nonterminal) (rules : List Rule) (a : Nonterminal) :
    (ofRules start rules).productionsOf a =
      (rules.filter fun rule => rule.head = a).map Rule.body := by
  have run : ∀ g : Grammar, (rules.foldl addRule g).productionsOf a =
      g.productionsOf a ++ (rules.filter fun rule => rule.head = a).map Rule.body := by
    intro g
    induction rules generalizing g with
    | nil => simp
    | cons rule rules ih =>
      rw [List.foldl_cons, ih, productionsOf_addRule, List.filter_cons, List.append_assoc]
      by_cases same : rule.head = a <;> simp [same]
  rw [ofRules, run, blank, productionsOf_mention]
  simp [productionsOf]

theorem pairsOf_ofRules (start : Nonterminal) (rules : List Rule) (a : Nonterminal) :
    (ofRules start rules).pairsOf a =
      rules.filterMap fun rule => if rule.head = a then rule.body.pair? else none := by
  rw [pairsOf, productionsOf_ofRules, List.filterMap_map, List.filterMap_filter]
  simp only [decide_eq_true_eq, Function.comp_apply]

theorem wordsOf_ofRules (start : Nonterminal) (rules : List Rule) (a : Nonterminal) :
    (ofRules start rules).wordsOf a =
      rules.filterMap fun rule => if rule.head = a then rule.body.word? else none := by
  rw [wordsOf, productionsOf_ofRules, List.filterMap_map, List.filterMap_filter]
  simp only [decide_eq_true_eq, Function.comp_apply]

/-- A question whose answer grows by the heads of the rules for one production. -/
theorem heads_ofRules (ask : Grammar → List Nonterminal) (body : Production)
    (step : ∀ g rule, ask (addRule g rule) =
      if rule.body = body then pushNew (ask g) rule.head else ask g)
    (start : Nonterminal) (nothing : ask (blank start) = []) (rules : List Rule) :
    ask (ofRules start rules) = headsOf rules body := by
  have run : ∀ g : Grammar, ask (rules.foldl addRule g) =
      ((rules.filter fun rule => rule.body = body).map Rule.head).foldl pushNew (ask g) := by
    intro g
    induction rules generalizing g with
    | nil => rfl
    | cons rule rules ih =>
      rw [List.foldl_cons, ih, step, List.filter_cons]
      by_cases same : rule.body = body <;> simp [same]
  have empty : ask (blank start) = ([] : List Nonterminal).eraseDups := nothing
  rw [ofRules, run, empty, foldl_pushNew_eraseDups, List.nil_append]
  rfl

theorem headsOfWord_ofRules (start : Nonterminal) (rules : List Rule) (word : String) :
    (ofRules start rules).headsOfWord word = headsOf rules (.word word) := by
  refine heads_ofRules (fun g => g.headsOfWord word) (.word word) ?_ start ?_ rules
  · intro g rule
    exact headsOfWord_addRule g rule word
  · simp [headsOfWord, blank]

theorem headsOfPair_ofRules (start : Nonterminal) (rules : List Rule) (b c : Nonterminal) :
    (ofRules start rules).headsOfPair b c = headsOf rules (.pair b c) := by
  refine heads_ofRules (fun g => g.headsOfPair b c) (.pair b c) ?_ start ?_ rules
  · intro g rule
    exact headsOfPair_addRule g rule b c
  · simp [headsOfPair, blank]

theorem knows_ofRules (start : Nonterminal) (rules : List Rule) (word : String) :
    (ofRules start rules).knows word = true ↔ ∃ rule ∈ rules, rule.body = .word word := by
  have run : ∀ g : Grammar, (rules.foldl addRule g).knows word = true ↔
      g.knows word = true ∨ ∃ rule ∈ rules, rule.body = .word word := by
    intro g
    induction rules generalizing g with
    | nil => simp
    | cons rule rules ih => rw [List.foldl_cons, ih, knows_addRule, or_assoc]; simp
  rw [ofRules, run]
  simp [knows, blank]

/-- The nonterminals are listed by their first mention, the start symbol first. -/
theorem order_ofRules (start : Nonterminal) (rules : List Rule) :
    (ofRules start rules).order = (start :: rules.flatMap Rule.mentioned).eraseDups := by
  have run : ∀ g : Grammar, g.Listed →
      (rules.foldl addRule g).order = (rules.flatMap Rule.mentioned).foldl pushNew g.order := by
    intro g listed
    induction rules generalizing g with
    | nil => rfl
    | cons rule rules ih =>
      rw [List.foldl_cons, ih _ (listed.addRule rule), order_addRule listed, List.flatMap_cons,
        List.foldl_append]
  have single : [start] = [start].eraseDups := by simp [List.eraseDups_cons]
  rw [ofRules, run _ (listed_blank start), order_blank, single, foldl_pushNew_eraseDups,
    List.singleton_append]

/-! ## Membership -/

section Membership

variable {start : Nonterminal} {rules : List Rule}

theorem mem_productionsOf_ofRules {a : Nonterminal} {body : Production} :
    body ∈ (ofRules start rules).productionsOf a ↔ ⟨a, body⟩ ∈ rules := by
  rw [productionsOf_ofRules]
  simp only [List.mem_map, List.mem_filter, decide_eq_true_eq]
  constructor
  · intro produced
    rcases produced with ⟨rule, ⟨member, rfl⟩, rfl⟩
    exact member
  · intro member
    exact ⟨_, ⟨member, rfl⟩, rfl⟩

theorem mem_pairsOf_ofRules {a b c : Nonterminal} :
    (b, c) ∈ (ofRules start rules).pairsOf a ↔ ⟨a, .pair b c⟩ ∈ rules := by
  rw [← @mem_productionsOf_ofRules start, pairsOf, List.mem_filterMap]
  constructor
  · intro produced
    rcases produced with ⟨text | ⟨left, right⟩, member, found⟩
    · cases found
    · cases found
      exact member
  · intro member
    exact ⟨_, member, rfl⟩

theorem mem_headsOfWord_ofRules {a : Nonterminal} {word : String} :
    a ∈ (ofRules start rules).headsOfWord word ↔ ⟨a, .word word⟩ ∈ rules := by
  rw [headsOfWord_ofRules, mem_headsOf]

theorem mem_headsOfPair_ofRules {a b c : Nonterminal} :
    a ∈ (ofRules start rules).headsOfPair b c ↔ ⟨a, .pair b c⟩ ∈ rules := by
  rw [headsOfPair_ofRules, mem_headsOf]

theorem mentions_ofRules {a : Nonterminal} :
    (ofRules start rules).mentions a = true ↔
      a = start ∨ ∃ rule ∈ rules, a ∈ rule.mentioned := by
  rw [(listed_ofRules start rules).mentions_iff, order_ofRules, List.mem_eraseDups,
    List.mem_cons, List.mem_flatMap]

end Membership

end Grammar

end BalineseChart

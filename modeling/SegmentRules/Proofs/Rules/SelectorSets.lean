import SegmentRules.Proofs.Rules.Compilation
import SegmentRules.Proofs.Rules.Selection

/-! # Lists of tokens as sets of selectors

A list of tokens is read into its selectors, each where it first occurs. Their order is for the
reader alone: what a condition accepts, and whom it finds, depends on which selectors there are. -/
namespace SegmentRules

open Commerce (MemoryStore Predicate Store Subscription)

namespace Selector

variable {tokens front : List String} {token : String} {selector a b : Selector}
  {selectors others : List Selector}

def Denotes (tokens : List String) (selector : Selector) : Prop :=
  ∃ token ∈ tokens, selector.Written token.toList

/-- Tokens at the start of the list denote the one selector and not yet the other. -/
def Earlier (tokens : List String) (a b : Selector) : Prop :=
  ∃ front, front <+: tokens ∧ Denotes front a ∧ ¬ Denotes front b

/-- The selectors of tokens, each once, in the order in which they first occur. -/
structure InOrder (tokens : List String) (selectors : List Selector) : Prop where
  denoted : ∀ s, s ∈ selectors ↔ Denotes tokens s
  once : selectors.Nodup
  ordered : selectors.Pairwise (Earlier tokens)

/-! ## First occurrences -/

theorem mem_ofTokens_iff : selector ∈ ofTokens tokens ↔ Denotes tokens selector := by
  simp only [mem_ofTokens, Denotes, parse_eq_ok]

theorem Denotes.of_prefix (h : Denotes front selector) (isPrefix : front <+: tokens) :
    Denotes tokens selector := by
  obtain ⟨token, hmem, hwritten⟩ := h
  exact ⟨token, isPrefix.subset hmem, hwritten⟩

theorem Earlier.of_prefix (h : Earlier front a b) (isPrefix : front <+: tokens) :
    Earlier tokens a b := by
  obtain ⟨start, hstart, ha, hb⟩ := h
  exact ⟨start, hstart.trans isPrefix, ha, hb⟩

/-- Of two starts of a list one is a start of the other, so no two selectors precede each other. -/
theorem Earlier.asymm (hab : Earlier tokens a b) : ¬ Earlier tokens b a := by
  rintro ⟨second, hsecond, hb, ha⟩
  obtain ⟨first, hfirst, ha', hb'⟩ := hab
  rcases List.prefix_or_prefix_of_prefix hfirst hsecond with h | h
  · exact ha (ha'.of_prefix h)
  · exact hb' (hb.of_prefix h)

theorem ofTokens_concat (tokens : List String) (token : String) :
    ofTokens (tokens ++ [token]) =
      match parse token with
      | .ok selector =>
        if selector ∈ ofTokens tokens then ofTokens tokens else ofTokens tokens ++ [selector]
      | .error _ => ofTokens tokens := by
  rw [ofTokens, List.filterMap_append]
  cases hparse : parse token with
  | error error =>
    have hlast : [token].filterMap (fun token => (parse token).toOption) = [] := by
      simp [hparse, Except.toOption]
    rw [hlast, List.append_nil, ofTokens]
  | ok selector =>
    have hlast : [token].filterMap (fun token => (parse token).toOption) = [selector] := by
      simp [hparse, Except.toOption]
    simp only [hlast, eraseDups_concat, ofTokens, List.mem_eraseDups]

theorem ofTokens_inOrder (tokens : List String) : InOrder tokens (ofTokens tokens) := by
  refine ⟨fun s => mem_ofTokens_iff, (firstOccurrences_eraseDups _).once, ?_⟩
  -- From behind: the last token adds at most its own selector, which all others come before.
  induction tokens using List.reverseRecOn with
  | nil => exact List.Pairwise.nil
  | append_singleton tokens token ih =>
    have hstart : tokens <+: tokens ++ [token] := List.prefix_append tokens [token]
    have hkept : (ofTokens tokens).Pairwise (Earlier (tokens ++ [token])) :=
      ih.imp fun h => h.of_prefix hstart
    rw [ofTokens_concat]
    split
    · rename_i selector _
      split
      · exact hkept
      · rename_i hnew
        refine List.pairwise_append.mpr ⟨hkept, List.pairwise_singleton _ _, ?_⟩
        intro a ha b hb
        obtain rfl := List.mem_singleton.mp hb
        exact ⟨tokens, hstart, mem_ofTokens_iff.mp ha, fun h => hnew (mem_ofTokens_iff.mpr h)⟩
    · exact hkept

theorem InOrder.unique (h : InOrder tokens selectors) (h' : InOrder tokens others) :
    selectors = others := by
  have hperm : selectors.Perm others :=
    (List.perm_ext_iff_of_nodup h.once h'.once).mpr fun s =>
      (h.denoted s).trans (h'.denoted s).symm
  refine hperm.eq_of_pairwise ?_ h.ordered h'.ordered
  intro a b _ _ hab hba
  exact absurd hba hab.asymm

theorem parseAll_eq_ok :
    parseAll tokens = .ok selectors ↔ selectors ≠ [] ∧ InOrder tokens selectors := by
  have horder := ofTokens_inOrder tokens
  rw [parseAll]
  cases hread : ofTokens tokens with
  | nil =>
    rw [hread] at horder
    simp only [reduceCtorEq, false_iff, not_and]
    intro hne h
    exact hne (h.unique horder)
  | cons first rest =>
    rw [hread] at horder
    simp only [Except.ok.injEq]
    constructor
    · rintro rfl
      exact ⟨List.cons_ne_nil first rest, horder⟩
    · rintro ⟨-, h⟩
      exact horder.unique h

theorem parseAll_eq_error {error : RuleError} :
    parseAll tokens = .error error ↔ error = .noSelectors ∧ ∀ s, ¬ Denotes tokens s := by
  constructor
  · intro h
    rcases parseAll_cases tokens with ⟨hparse, hnone⟩ | ⟨-, selectors, hparse, -⟩
    · refine ⟨Except.error.inj (h.symm.trans hparse), ?_⟩
      rintro s ⟨token, hmem, hwritten⟩
      exact hnone ⟨token, hmem, s, parse_eq_ok.mpr hwritten⟩
    · cases h.symm.trans hparse
  · rintro ⟨rfl, hnone⟩
    have hread : ofTokens tokens = [] := by
      rw [List.eq_nil_iff_forall_not_mem]
      intro s hs
      exact hnone s (mem_ofTokens_iff.mp hs)
    rw [parseAll, hread]

theorem parseAll_same {others : List String} (same : ∀ s, Denotes tokens s ↔ Denotes others s) :
    (parseAll tokens = .error .noSelectors ∧ parseAll others = .error .noSelectors) ∨
      ∃ first second, parseAll tokens = .ok first ∧ parseAll others = .ok second ∧
        first ≠ [] ∧ second ≠ [] ∧ ∀ s, s ∈ first ↔ s ∈ second := by
  cases hfirst : parseAll tokens with
  | error error =>
    obtain ⟨rfl, hnone⟩ := parseAll_eq_error.mp hfirst
    refine .inl ⟨rfl, parseAll_eq_error.mpr ⟨rfl, ?_⟩⟩
    intro s hs
    exact hnone s ((same s).mpr hs)
  | ok first =>
    obtain ⟨hne, horder⟩ := parseAll_eq_ok.mp hfirst
    cases hsecond : parseAll others with
    | error error =>
      obtain ⟨-, hnone⟩ := parseAll_eq_error.mp hsecond
      obtain ⟨s, hs⟩ := List.exists_mem_of_ne_nil first hne
      exact absurd ((same s).mp ((horder.denoted s).mp hs)) (hnone s)
    | ok second =>
      obtain ⟨hne', horder'⟩ := parseAll_eq_ok.mp hsecond
      refine .inr ⟨first, second, rfl, rfl, hne, hne', ?_⟩
      intro s
      rw [horder.denoted, same, horder'.denoted]

end Selector

/-! ## Conditions with the same selectors -/

/-- Filters of one property and one operator whose tokens denote the same selectors. -/
structure Filter.SameSelectors (f g : Filter) : Prop where
  property : f.property = g.property
  operator : f.operator = g.operator
  selectors : ∀ s, Selector.Denotes f.tokens s ↔ Selector.Denotes g.tokens s

/-- Compiled conditions that differ in nothing that an evaluation looks at. -/
structure Compiled.Alike (a b : Compiled) : Prop where
  kind : a.condition.kind = b.condition.kind
  operator : a.condition.operator = b.condition.operator
  accepts : ∀ row, a.predicate.accepts row = b.predicate.accepts row

variable {f g : Filter}

theorem Condition.ofFilter_same (same : f.SameSelectors g) (catalog : Catalog) :
    (∃ error, ofFilter f catalog = .error error ∧ ofFilter g catalog = .error error) ∨
      ∃ kind operator first second, ofFilter f catalog = .ok ⟨kind, operator, first⟩ ∧
        ofFilter g catalog = .ok ⟨kind, operator, second⟩ ∧ first ≠ [] ∧ second ≠ [] ∧
        ∀ s, s ∈ first ↔ s ∈ second := by
  simp only [ofFilter, ← same.property, ← same.operator]
  cases hget : catalog.get? f.property with
  | none => exact .inl ⟨_, rfl, rfl⟩
  | some entry =>
    cases henabled : entry.enabled with
    | false => exact .inl ⟨.conditionDisabled entry.key, by simp [henabled], by simp [henabled]⟩
    | true =>
      simp only [henabled, Bool.not_true, Bool.false_eq_true, if_false]
      cases hoperator : operatorOf entry.key f.operator with
      | error error => exact .inl ⟨error, rfl, rfl⟩
      | ok operator =>
        cases hallows : entry.allows operator with
        | false =>
          exact .inl ⟨.unsupportedOperator entry.key operator.name,
            by simp [hallows, bind, Except.bind], by simp [hallows, bind, Except.bind]⟩
        | true =>
          rcases Selector.parseAll_same same.selectors with
            ⟨hfirst, hsecond⟩ | ⟨first, second, hfirst, hsecond, hne, hne', hall⟩
          · exact .inl ⟨.noSelectors, by simp [hallows, hfirst, bind, Except.bind],
              by simp [hallows, hsecond, bind, Except.bind]⟩
          · refine .inr ⟨entry.kind, operator, first, second, ?_, ?_, hne, hne', hall⟩
            · simp [hallows, hfirst, bind, Except.bind, pure, Except.pure]
            · simp [hallows, hsecond, bind, Except.bind, pure, Except.pure]

theorem Commerce.Predicate.accepts_same {first second : List Selector}
    (same : ∀ s, s ∈ first ↔ s ∈ second) (statuses : List Status) (window : Option Window)
    (row : Subscription) :
    accepts ⟨first, statuses, window⟩ row = accepts ⟨second, statuses, window⟩ row := by
  have hany : first.any (·.selects row.product row.price) =
      second.any (·.selects row.product row.price) := by
    rw [Bool.eq_iff_iff, List.any_eq_true, List.any_eq_true]
    simp only [same]
  simp only [accepts, hany, requiredStatuses]

theorem Compiler.compile_same (same : f.SameSelectors g) (compiler : Compiler) :
    (∃ error, compiler.compile f = .error error ∧ compiler.compile g = .error error) ∨
      ∃ a b, compiler.compile f = .ok a ∧ compiler.compile g = .ok b ∧ a.Alike b := by
  rcases Condition.ofFilter_same same compiler.catalog with
    ⟨error, hf, hg⟩ | ⟨kind, operator, first, second, hf, hg, hne, hne', hall⟩
  · exact .inl ⟨error, by simp [compile, hf, bind, Except.bind],
      by simp [compile, hg, bind, Except.bind]⟩
  cases hwindow : compiler.window? kind with
  | error error =>
    exact .inl ⟨error, by simp [compile, predicate, hf, hwindow, bind, Except.bind],
      by simp [compile, predicate, hg, hwindow, bind, Except.bind]⟩
  | ok window =>
    refine .inr ⟨⟨⟨kind, operator, first⟩, ⟨first, kind.statuses, window⟩⟩,
      ⟨⟨kind, operator, second⟩, ⟨second, kind.statuses, window⟩⟩, ?_, ?_, rfl, rfl, ?_⟩
    · simp [compile, predicate, Predicate.build, hf, hwindow, hne, bind, Except.bind, pure,
        Except.pure]
    · simp [compile, predicate, Predicate.build, hg, hwindow, hne', bind, Except.bind, pure,
        Except.pure]
    · exact Predicate.accepts_same hall kind.statuses window

/-! ## Whom they find -/

namespace Rules

theorem resolve_same {p q : Predicate} (same : ∀ row, p.accepts row = q.accepts row)
    (schema : Schema) (store : MemoryStore) :
    resolve schema p store = resolve schema q store := by
  have howners : store.owners p = store.owners q := by
    rw [MemoryStore.owners, MemoryStore.owners, funext same]
  have hanswer : Store.identities (.new schema p) store = Store.identities (.new schema q) store :=
    congrArg store.answer howners
  rw [resolve, resolve, hanswer]

theorem apply_same (rules : Rules) {filters others : List Filter}
    (same : List.Forall₂ Filter.SameSelectors filters others) (query : ContactQuery)
    (store : MemoryStore) : rules.apply filters query store = rules.apply others query store := by
  induction same generalizing query store with
  | nil => rfl
  | cons hfirst _ ih =>
    rcases rules.compiler.compile_same hfirst with ⟨error, hf, hg⟩ | ⟨a, b, hf, hg, halike⟩
    · simp only [apply, hf, hg, ih]
    · simp only [apply, hf, hg, ih, resolve_same halike.accepts, halike.operator]

/-- Tokens are read into the selectors they denote, each once and in the order in which they first
occur, and refused if they denote none. Two filters that denote the same selectors are refused for
the same reason, or accept the same subscriptions, find the same identities and restrict a query
alike. -/
theorem selectors_as_set (tokens : List String) :
    (∀ selectors, Selector.parseAll tokens = .ok selectors ↔
      selectors ≠ [] ∧ Selector.InOrder tokens selectors) ∧
    (∀ error, Selector.parseAll tokens = .error error ↔
      error = .noSelectors ∧ ∀ s, ¬ Selector.Denotes tokens s) ∧
    ∀ f g : Filter, f.SameSelectors g → ∀ rules : Rules,
      ((∃ error, rules.compiler.compile f = .error error ∧
          rules.compiler.compile g = .error error) ∨
        ∃ a b, rules.compiler.compile f = .ok a ∧ rules.compiler.compile g = .ok b ∧
          (∀ row, a.predicate.accepts row = b.predicate.accepts row) ∧
          ∀ (schema : Schema) (store : MemoryStore), store.failure = none →
            ∃ identities, resolve schema a.predicate store = (.ok identities, store.asked 1) ∧
              resolve schema b.predicate store = (.ok identities, store.asked 1)) ∧
      ∀ (query : ContactQuery) (store : MemoryStore),
        rules.apply [f] query store = rules.apply [g] query store := by
  refine ⟨fun selectors => Selector.parseAll_eq_ok, fun error => Selector.parseAll_eq_error, ?_⟩
  intro f g same rules
  refine ⟨?_, rules.apply_same (.cons same .nil)⟩
  rcases rules.compiler.compile_same same with herror | ⟨a, b, hf, hg, halike⟩
  · exact .inl herror
  refine .inr ⟨a, b, hf, hg, halike.accepts, ?_⟩
  intro schema store sound
  have ha := MemoryStore.resolve_eq sound schema a.predicate
  exact ⟨_, ha, (resolve_same halike.accepts schema store) ▸ ha⟩

/-- The same two selectors, once with blanks, signs, zeros, a repetition and a word among them. -/
def looseTokens : List String := [" 42 ", "any", "7:+1", "+042"]

def plainTokens : List String := ["7:1", "42"]

theorem loose_sameSelectors :
    (Filter.new "has_subscription_active" .member looseTokens).SameSelectors
      (.new "has_subscription_active" .member plainTokens) := by
  have hloose : Selector.ofTokens looseTokens = [⟨42, none⟩, ⟨7, some 1⟩] := by decide +kernel
  have hplain : Selector.ofTokens plainTokens = [⟨7, some 1⟩, ⟨42, none⟩] := by decide +kernel
  refine ⟨rfl, rfl, fun s => ?_⟩
  have hread : Selector.Denotes looseTokens s ↔ Selector.Denotes plainTokens s := by
    rw [← Selector.mem_ofTokens_iff, ← Selector.mem_ofTokens_iff, hloose, hplain]
    simp [or_comm]
  exact hread

theorem selectors_as_set_of_loose :
    (Filter.new "has_subscription_active" .member looseTokens).SameSelectors
        (.new "has_subscription_active" .member plainTokens) ∧
      Selector.InOrder looseTokens [⟨42, none⟩, ⟨7, some 1⟩] ∧
      MemoryStore.twoCustomers.failure = none ∧
      ∃ a b, standard.compiler.compile (.new "has_subscription_active" .member looseTokens) =
          .ok a ∧
        standard.compiler.compile (.new "has_subscription_active" .member plainTokens) = .ok b ∧
        ∃ identities, resolve standard.schema a.predicate MemoryStore.twoCustomers =
            (.ok identities, MemoryStore.twoCustomers.asked 1) ∧
          resolve standard.schema b.predicate MemoryStore.twoCustomers =
            (.ok identities, MemoryStore.twoCustomers.asked 1) := by
  obtain ⟨hread, -, hsame⟩ := selectors_as_set looseTokens
  have horder := ((hread [⟨42, none⟩, ⟨7, some 1⟩]).mp (by decide +kernel)).2
  obtain ⟨⟨error, hcompile, -⟩ | ⟨a, b, ha, hb, -, hfound⟩, -⟩ :=
    hsame _ _ loose_sameSelectors standard
  · have hok : (standard.compiler.compile
        (.new "has_subscription_active" .member looseTokens)).isOk = true := by decide +kernel
    rw [hcompile] at hok
    cases hok
  · exact ⟨loose_sameSelectors, horder, rfl, a, b, ha, hb,
      hfound standard.schema MemoryStore.twoCustomers rfl⟩

end Rules
end SegmentRules

import SegmentRules.Proofs.Rules.Selection

/-! # Filters that are left out

Whatever the store answers, a filter that is left out does what no filter does: it changes neither
the query nor the verdict, and it asks the store nothing. -/
namespace SegmentRules

open Commerce (MemoryStore Store)

/-- The verdict alone, as if no filter had been left out. -/
def Assessment.withoutSkipped (assessment : Assessment) : Assessment :=
  { assessment with skipped := [] }

namespace Rules

variable {σ : Type} [Store σ] {rules : Rules} {contact : Contact} {filter : Filter}

def skipped? (rules : Rules) (filter : Filter) : Option Skipped :=
  match rules.compiler.compile filter with
  | .error error => if error.isSkippable then some ⟨filter.property, error⟩ else none
  | .ok _ => none

def kept (rules : Rules) (filters : List Filter) : List Filter :=
  filters.filter fun filter => (rules.skipped? filter).isNone

theorem skipped?_eq_some {skipped : Skipped} :
    rules.skipped? filter = some skipped ↔ ∃ error, rules.compiler.compile filter = .error error ∧
      error.isSkippable = true ∧ skipped = ⟨filter.property, error⟩ := by
  cases h : rules.compiler.compile filter <;> simp [skipped?, h, eq_comm (a := skipped)]

theorem skipped?_of_skips (h : rules.Skips filter) :
    ∃ skipped, rules.skipped? filter = some skipped := by
  obtain ⟨error, herror, hskippable⟩ := h
  exact ⟨_, skipped?_eq_some.mpr ⟨error, herror, hskippable, rfl⟩⟩

theorem kept_cons_of_some {skipped : Skipped} (h : rules.skipped? filter = some skipped)
    (rest : List Filter) : rules.kept (filter :: rest) = rules.kept rest := by
  simp [kept, h]

theorem kept_cons_of_none (h : rules.skipped? filter = none) (rest : List Filter) :
    rules.kept (filter :: rest) = filter :: rules.kept rest := by
  simp [kept, h]

/-! ## One filter at a time -/

/-- What a filter does to a query, whatever follows: nothing, if it is left out; else it ends the
run, or it restricts the query behind one question. -/
theorem apply_cases (rules : Rules) (filter : Filter) (store : σ) :
    (∃ skipped, rules.skipped? filter = some skipped ∧ ∀ rest query,
      rules.apply (filter :: rest) query store = rules.apply rest query store) ∨
    rules.skipped? filter = none ∧
      ((∃ error after, ∀ rest query,
          rules.apply (filter :: rest) query store = (.error error, query, after)) ∨
        ∃ operator identities after, ∀ rest query,
          rules.apply (filter :: rest) query store =
            rules.apply rest (query.restrict rules.schema.contact operator identities) after) := by
  cases hcompile : rules.compiler.compile filter with
  | error error =>
    cases hskippable : error.isSkippable with
    | true =>
      refine .inl ⟨⟨filter.property, error⟩, ?_, fun rest query => ?_⟩
      · exact skipped?_eq_some.mpr ⟨error, hcompile, hskippable, rfl⟩
      · rw [apply, hcompile]
        exact if_pos hskippable
    | false =>
      refine .inr ⟨by simp [skipped?, hcompile, hskippable], .inl ⟨error, store, ?_⟩⟩
      intro rest query
      simp [apply, hcompile, hskippable]
  | ok compiled =>
    refine .inr ⟨by simp [skipped?, hcompile], ?_⟩
    rcases hresolve : resolve rules.schema compiled.predicate store with ⟨answer, after⟩
    cases answer with
    | error error =>
      exact .inl ⟨error, after, fun rest query => by simp [apply, hcompile, hresolve]⟩
    | ok identities =>
      refine .inr ⟨compiled.condition.operator, identities, after, fun rest query => ?_⟩
      simp [apply, hcompile, hresolve]

def behind (diagnostics : List RuleError) (skipped : List Skipped)
    (rest : Except RuleError Assessment × σ) : Except RuleError Assessment × σ :=
  (rest.1.map (withFindings diagnostics skipped), rest.2)

omit [Store σ] in
theorem behind_eq_ok {diagnostics : List RuleError} {skipped : List Skipped}
    {rest : Except RuleError Assessment × σ} {assessment : Assessment} {after : σ}
    (h : behind diagnostics skipped rest = (.ok assessment, after)) :
    ∃ found, rest = (.ok found, after) ∧ withFindings diagnostics skipped found = assessment := by
  rcases rest with ⟨_ | found, final⟩
  · simp [behind, Except.map] at h
  · obtain ⟨hfound, rfl⟩ : withFindings diagnostics skipped found = assessment ∧ final = after := by
      simpa [behind, Except.map] using h
    exact ⟨found, rfl, hfound⟩

/-- What a filter does to an assessment, whatever follows and was known before: it is noted, if it
is left out; else it ends the assessment, with an error or because the contact does not pass, or the
contact passes and only the findings stay. -/
theorem assess_cases (rules : Rules) (contact : Contact) (filter : Filter) (store : σ) :
    (∃ skipped, rules.skipped? filter = some skipped ∧ ∀ rest previous,
      rules.assess contact previous (filter :: rest) store =
        behind [] [skipped] (rules.assess contact previous rest store)) ∨
    rules.skipped? filter = none ∧
      ((∃ error after, ∀ rest previous,
          rules.assess contact previous (filter :: rest) store = (.error error, after)) ∨
        (∃ diagnostics after, ∀ rest previous,
          rules.assess contact previous (filter :: rest) store =
            (.ok ⟨false, diagnostics, []⟩, after)) ∨
        ∃ diagnostics after, ∀ rest previous,
          rules.assess contact previous (filter :: rest) store =
            behind diagnostics [] (rules.assess contact previous rest after)) := by
  cases hcompile : rules.compiler.compile filter with
  | error error =>
    cases hskippable : error.isSkippable with
    | true =>
      refine .inl ⟨⟨filter.property, error⟩, ?_, fun rest previous => ?_⟩
      · exact skipped?_eq_some.mpr ⟨error, hcompile, hskippable, rfl⟩
      · rw [assess, hcompile]
        exact if_pos hskippable
    | false =>
      refine .inr ⟨by simp [skipped?, hcompile, hskippable], .inl ⟨error, store, ?_⟩⟩
      intro rest previous
      simp [assess, hcompile, hskippable]
  | ok compiled =>
    refine .inr ⟨by simp [skipped?, hcompile], ?_⟩
    rcases hcheck : Membership.check rules.schema contact compiled.predicate store with
      ⟨answer, after⟩
    cases answer with
    | error error =>
      exact .inl ⟨error, after, fun rest previous => by simp [assess, hcompile, hcheck]⟩
    | ok membership =>
      refine .inr ?_
      cases hpasses : compiled.condition.operator.passes membership.isMember with
      | false =>
        refine .inl ⟨membership.ambiguity.toList, after, fun rest previous => ?_⟩
        simp [assess, hcompile, hcheck, hpasses]
      | true =>
        refine .inr ⟨membership.ambiguity.toList, after, fun rest previous => ?_⟩
        simp [assess, hcompile, hcheck, hpasses, behind]

/-! ## Whole runs -/

theorem apply_kept (filters : List Filter) (query : ContactQuery) (store : σ) :
    rules.apply (rules.kept filters) query store = rules.apply filters query store := by
  induction filters generalizing query store with
  | nil => rfl
  | cons filter rest ih =>
    rcases rules.apply_cases filter store with
      ⟨skipped, hskipped, hrun⟩ | ⟨hkept, ⟨error, after, hrun⟩ | ⟨operator, set, after, hrun⟩⟩
    · rw [kept_cons_of_some hskipped, hrun, ih]
    · rw [kept_cons_of_none hkept, hrun, hrun]
    · rw [kept_cons_of_none hkept, hrun, hrun, ih]

theorem assess_kept (contact : Contact) (previous : Bool) (filters : List Filter) (store : σ) :
    rules.assess contact previous (rules.kept filters) store =
      ((rules.assess contact previous filters store).1.map Assessment.withoutSkipped,
        (rules.assess contact previous filters store).2) := by
  induction filters generalizing store with
  | nil => rfl
  | cons filter rest ih =>
    rcases rules.assess_cases contact filter store with
      ⟨skipped, hskipped, hrun⟩ |
      ⟨hkept, ⟨error, after, hrun⟩ | ⟨diagnostics, after, hrun⟩ | ⟨diagnostics, after, hrun⟩⟩
    · rw [kept_cons_of_some hskipped, ih, hrun]
      rcases rules.assess contact previous rest store with ⟨_ | assessment, after⟩ <;> rfl
    · rw [kept_cons_of_none hkept, hrun, hrun]
      rfl
    · rw [kept_cons_of_none hkept, hrun, hrun]
      rfl
    · rw [kept_cons_of_none hkept, hrun, hrun, ih]
      rcases rules.assess contact previous rest after with ⟨_ | assessment, final⟩ <;> rfl

/-- An assessment looks at these of its filters: at all of them, or at those up to the first one the
contact does not pass. -/
structure LooksAt (rules : Rules) (contact : Contact) (filters : List Filter) (store : σ)
    (seen : List Filter) : Prop where
  isPrefix : seen <+: filters
  passed : ∀ before, before <+: seen → before ≠ seen → ∃ assessment after,
    rules.assess contact true before store = (.ok assessment, after) ∧ assessment.passed = true
  stopped : seen = filters ∨ ∃ assessment after,
    rules.assess contact true seen store = (.ok assessment, after) ∧ assessment.passed = false

theorem LooksAt.unique {filters a b : List Filter} {store : σ}
    (ha : rules.LooksAt contact filters store a) (hb : rules.LooksAt contact filters store b) :
    a = b := by
  -- Of two such prefixes the longer one goes on behind a filter that the other one stops at.
  have shorter : ∀ {a b : List Filter}, rules.LooksAt contact filters store a →
      rules.LooksAt contact filters store b → a <+: b → a = b := by
    intro a b ha hb hpart
    by_contra hne
    rcases ha.stopped with hall | ⟨assessment, after, hrun, hfails⟩
    · subst hall
      exact hne (hpart.eq_of_length_le hb.isPrefix.length_le)
    · obtain ⟨found, final, hfound, hpassed⟩ := hb.passed a hpart hne
      obtain ⟨rfl, -⟩ : assessment = found ∧ after = final := by simpa [hrun] using hfound
      simp [hfails] at hpassed
  rcases List.prefix_or_prefix_of_prefix ha.isPrefix hb.isPrefix with hpart | hpart
  · exact shorter ha hb hpart
  · exact (shorter hb ha hpart).symm

theorem LooksAt.cons {rest seen : List Filter} {store after : σ} {diagnostics : List RuleError}
    {skipped : List Skipped}
    (hrun : ∀ rest previous, rules.assess contact previous (filter :: rest) store =
      behind diagnostics skipped (rules.assess contact previous rest after))
    (h : rules.LooksAt contact rest after seen) :
    rules.LooksAt contact (filter :: rest) store (filter :: seen) where
  isPrefix := (List.prefix_cons_inj filter).mpr h.isPrefix
  passed := by
    intro before hpart hne
    cases before with
    | nil => exact ⟨⟨true, [], []⟩, store, rfl, rfl⟩
    | cons first before =>
      obtain ⟨rfl, hbefore⟩ := List.cons_prefix_cons.mp hpart
      obtain ⟨assessment, final, hassess, hpassed⟩ :=
        h.passed before hbefore fun hsame => hne (by rw [hsame])
      exact ⟨withFindings diagnostics skipped assessment, final, by rw [hrun, hassess]; rfl,
        hpassed⟩
  stopped := by
    rcases h.stopped with rfl | ⟨assessment, final, hassess, hfails⟩
    · exact .inl rfl
    · exact .inr ⟨withFindings diagnostics skipped assessment, final, by rw [hrun, hassess]; rfl,
        hfails⟩

theorem assess_skipped {filters : List Filter} {previous : Bool} {store after : σ}
    {assessment : Assessment}
    (run : rules.assess contact previous filters store = (.ok assessment, after)) :
    ∃ seen, rules.LooksAt contact filters store seen ∧
      assessment.skipped = seen.filterMap rules.skipped? := by
  induction filters generalizing store assessment with
  | nil =>
    obtain ⟨rfl, -⟩ : ⟨previous, [], []⟩ = assessment ∧ store = after := by
      simpa [assess] using run
    exact ⟨[], ⟨List.prefix_rfl, fun before hpart hne => absurd (List.prefix_nil.mp hpart) hne,
      .inl rfl⟩, rfl⟩
  | cons filter rest ih =>
    rcases rules.assess_cases contact filter store with
      ⟨skipped, hskipped, hrun⟩ |
      ⟨hkept, ⟨error, next, hrun⟩ | ⟨diagnostics, next, hrun⟩ | ⟨diagnostics, next, hrun⟩⟩
    · obtain ⟨found, hfound, rfl⟩ := behind_eq_ok ((hrun rest previous).symm.trans run)
      obtain ⟨seen, hseen, hall⟩ := ih hfound
      exact ⟨filter :: seen, hseen.cons hrun, by simp [withFindings, hskipped, hall]⟩
    · cases (hrun rest previous).symm.trans run
    · obtain ⟨rfl, -⟩ : ⟨false, diagnostics, []⟩ = assessment ∧ next = after := by
        simpa using (hrun rest previous).symm.trans run
      refine ⟨[filter], ⟨⟨rest, rfl⟩, ?_, .inr ⟨_, next, hrun [] true, rfl⟩⟩, by simp [hkept]⟩
      intro before hpart hne
      obtain rfl : before = [] := by
        rcases List.prefix_cons_iff.mp hpart with h | ⟨t, rfl, h⟩
        · exact h
        · exact absurd (by rw [List.prefix_nil.mp h]) hne
      exact ⟨⟨true, [], []⟩, store, rfl, rfl⟩
    · obtain ⟨found, hfound, rfl⟩ := behind_eq_ok ((hrun rest previous).symm.trans run)
      obtain ⟨seen, hseen, hall⟩ := ih hfound
      exact ⟨filter :: seen, hseen.cons hrun, by simp [withFindings, hkept, hall]⟩

/-! ## Closed gates -/

theorem skips_of_closed {settings : Settings} {gates : Gates} {now : Instant}
    (hnew : Rules.new settings gates now = .ok rules)
    (closed : gates.areOpen settings.commerceProvider = false) (filter : Filter) :
    rules.Skips filter := by
  cases hvalid : settings.validate with
  | error error => simp [Rules.new, hvalid, bind, Except.bind] at hnew
  | ok =>
    obtain ⟨offset, -, hsome⟩ := new_of_valid hvalid gates now
    obtain rfl := Except.ok.inj (hnew.symm.trans hsome)
    exact (skips_iff rfl).mpr (by simp [closed])

theorem apply_all_skipped {filters : List Filter} (h : ∀ filter ∈ filters, rules.Skips filter)
    (query : ContactQuery) (store : σ) :
    rules.apply filters query store = (.ok (), query, store) := by
  have hnone : rules.kept filters = [] := List.filter_eq_nil_iff.mpr fun filter hfilter => by
    obtain ⟨skipped, hskipped⟩ := skipped?_of_skips (h filter hfilter)
    simp [hskipped]
  rw [← apply_kept, hnone]
  rfl

theorem assess_all_skipped {filters : List Filter} (h : ∀ filter ∈ filters, rules.Skips filter)
    (contact : Contact) (previous : Bool) (store : σ) :
    rules.assess contact previous filters store =
      (.ok ⟨previous, [], filters.filterMap rules.skipped?⟩, store) := by
  induction filters with
  | nil => rfl
  | cons filter rest ih =>
    obtain ⟨hfilter, hrest⟩ := List.forall_mem_cons.mp h
    obtain ⟨skipped, hskipped⟩ := skipped?_of_skips hfilter
    rcases rules.assess_cases contact filter store with ⟨noted, hnoted, hrun⟩ | ⟨hkept, -⟩
    · rw [hrun, ih hrest, List.filterMap_cons, hnoted]
      rfl
    · cases hkept.symm.trans hskipped

/-- Filters that are left out are as good as absent: queries and verdicts come out the same without
them, errors included, and the store is left in the same state, so with as many questions counted.
An assessment lists those it came across. Behind closed gates these are all. -/
theorem skipped_as_absent (rules : Rules) (filters : List Filter) (query : ContactQuery)
    (contact : Contact) (previous : Bool) (store : σ) :
    rules.apply (rules.kept filters) query store = rules.apply filters query store ∧
    rules.assess contact previous (rules.kept filters) store =
      ((rules.assess contact previous filters store).1.map Assessment.withoutSkipped,
        (rules.assess contact previous filters store).2) ∧
    (∀ assessment after, rules.assess contact previous filters store = (.ok assessment, after) →
      (∃ seen, rules.LooksAt contact filters store seen) ∧
        ∀ seen, rules.LooksAt contact filters store seen →
          assessment.skipped = seen.filterMap rules.skipped?) ∧
    ∀ settings gates now, Rules.new settings gates now = .ok rules →
      gates.areOpen settings.commerceProvider = false →
        rules.apply filters query store = (.ok (), query, store) ∧
        rules.assess contact previous filters store =
          (.ok ⟨previous, [], filters.filterMap rules.skipped?⟩, store) := by
  refine ⟨apply_kept filters query store, assess_kept contact previous filters store, ?_, ?_⟩
  · intro assessment after run
    obtain ⟨seen, hseen, hskipped⟩ := assess_skipped run
    refine ⟨⟨seen, hseen⟩, fun other hother => ?_⟩
    rw [hother.unique hseen, hskipped]
  · intro settings gates now hnew closed
    have hall : ∀ filter ∈ filters, rules.Skips filter :=
      fun filter _ => skips_of_closed hnew closed filter
    exact ⟨apply_all_skipped hall query store, assess_all_skipped hall contact previous store⟩

/-- The second customer does not pass the third filter, so the fifth is not come across. -/
theorem skipped_at_standard :
    (standard.assess ⟨4, none, some "b@example.com"⟩ true
        (Filter.activeNotExpiring ++ Filter.activeNotExpiring) MemoryStore.twoCustomers =
          (.ok ⟨false, [], [⟨"has_cancelled", .unknownCondition "has_cancelled"⟩]⟩,
            { MemoryStore.twoCustomers with calls := 4 }) ∧
      ∃ seen, standard.LooksAt ⟨4, none, some "b@example.com"⟩
          (Filter.activeNotExpiring ++ Filter.activeNotExpiring) MemoryStore.twoCustomers seen ∧
        [⟨"has_cancelled", .unknownCondition "has_cancelled"⟩] =
          seen.filterMap standard.skipped?) ∧
    ∃ rules, Rules.new .standard .closed ⟨⟨0, 0⟩⟩ = .ok rules ∧
      rules.apply Filter.activeNotExpiring (.new .standard) MemoryStore.twoCustomers =
        (.ok (), .new .standard, MemoryStore.twoCustomers) := by
  constructor
  · obtain ⟨-, -, hskipped, -⟩ := skipped_as_absent standard
      (Filter.activeNotExpiring ++ Filter.activeNotExpiring) (.new .standard)
      ⟨4, none, some "b@example.com"⟩ true MemoryStore.twoCustomers
    have hrun : standard.assess ⟨4, none, some "b@example.com"⟩ true
        (Filter.activeNotExpiring ++ Filter.activeNotExpiring) MemoryStore.twoCustomers =
          (.ok ⟨false, [], [⟨"has_cancelled", .unknownCondition "has_cancelled"⟩]⟩,
            { MemoryStore.twoCustomers with calls := 4 }) := by decide +kernel
    obtain ⟨⟨seen, hseen⟩, hall⟩ := hskipped _ _ hrun
    exact ⟨hrun, seen, hseen, hall seen hseen⟩
  · have hnew : Rules.new .standard .closed ⟨⟨0, 0⟩⟩ =
        .ok ⟨⟨.withGate false, ⟨⟨0, 0⟩⟩, 0⟩, Settings.standard.schema⟩ := by decide +kernel
    obtain ⟨-, -, -, hclosed⟩ := skipped_as_absent
      ⟨⟨.withGate false, ⟨⟨0, 0⟩⟩, 0⟩, Settings.standard.schema⟩ Filter.activeNotExpiring
      (.new .standard) ⟨4, none, some "b@example.com"⟩ true MemoryStore.twoCustomers
    exact ⟨_, hnew, (hclosed _ _ _ hnew (by decide)).1⟩

end Rules
end SegmentRules

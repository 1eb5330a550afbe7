import SegmentRules.Proofs.Contact.Alternatives
import SegmentRules.Proofs.Rules.Skipping
import SegmentRules.Proofs.Rules.Views

/-! # Runs that fail

A run over a store that may fail at any question stops at the first filter that fails, with the
query restricted by those before. Applying the filters again restricts it by these twice, which is
no more than once. -/
namespace SegmentRules

open Commerce (Call MembershipQuery Recorder Store)

/-- A condition with the rows that its question was answered by. -/
structure Resolved where
  compiled : Compiled
  rows : List IdentityRow

namespace Resolved

def query (schema : Schema) (resolved : Resolved) : MembershipQuery :=
  .new schema resolved.compiled.predicate

def call (schema : Schema) (resolved : Resolved) : Call :=
  .identities (resolved.query schema) (.ok resolved.rows)

def restriction (resolved : Resolved) : Operator × IdentitySet :=
  (resolved.compiled.condition.operator, .ofRows resolved.rows)

variable {schema : Schema}

theorem eq_of_agree {a b : List Resolved} (same : a.map compiled = b.map compiled)
    (agree : Call.Agree (a.map (call schema)) (b.map (call schema))) : a = b := by
  induction a generalizing b with
  | nil => exact (List.map_eq_nil_iff.mp same.symm).symm
  | cons first a ih =>
    cases b with
    | nil => cases same
    | cons other b =>
      obtain ⟨hcompiled, hrest⟩ := List.cons.inj same
      obtain rfl : first = other := by
        rcases first with ⟨compiled, rows⟩
        rcases other with ⟨_, found⟩
        obtain rfl : compiled = _ := hcompiled
        have hrows : rows = found := agree _ List.mem_cons_self _ List.mem_cons_self rfl
        rw [hrows]
      rw [ih hrest (agree.mono (List.subset_cons_self _ _) (List.subset_cons_self _ _))]

theorem prefix_of_agree {a b : List Resolved} (same : a.map compiled <+: b.map compiled)
    (agree : Call.Agree (a.map (call schema)) (b.map (call schema))) : a <+: b := by
  obtain ⟨rest, hrest⟩ := same
  obtain ⟨front, back, rfl, hfront, -⟩ := List.map_eq_append_iff.mp hrest.symm
  have hsubset : front.map (call schema) ⊆ (front ++ back).map (call schema) :=
    List.map_subset _ (List.subset_append_left _ _)
  rw [eq_of_agree hfront.symm (agree.mono (List.Subset.refl _) hsubset)]
  exact List.prefix_append _ _

end Resolved

namespace Rules

variable {σ : Type} [Store σ] {rules : Rules} {filters : List Filter} {filter : Filter}
  {query : ContactQuery} {store after : σ}

def compiledAll (rules : Rules) (filters : List Filter) : List Compiled :=
  filters.filterMap fun filter => (rules.compiler.compile filter).toOption

/-- The filters are applied, each by the rows of its own question, and nothing else is asked. -/
structure Applied (rules : Rules) (filters : List Filter) (query : ContactQuery) (store : σ)
    (resolved : List Resolved) (final : ContactQuery) (after : σ) : Prop where
  compiled : resolved.map Resolved.compiled = rules.compiledAll filters
  restricted : final =
    query.restrictAll rules.schema.contact (resolved.map Resolved.restriction)
  run : rules.apply filters query (Recorder.new store) =
    (.ok (), final, ⟨after, resolved.map (Resolved.call rules.schema)⟩)

/-- A filter ends a run: it has no condition and cannot be skipped, or its question fails. -/
inductive StopsAt (rules : Rules) (filter : Filter) (store : σ) :
    RuleError → List Call → σ → Prop
  | uncompiled {error : RuleError} (compile : rules.compiler.compile filter = .error error)
      (stops : error.isSkippable = false) : StopsAt rules filter store error [] store
  | unanswered {compiled : Compiled} {failure : StoreError} {after : σ}
      (compile : rules.compiler.compile filter = .ok compiled)
      (answer : Store.identities (.new rules.schema compiled.predicate) store =
        (.error failure, after)) :
      StopsAt rules filter store (.lookupFailed failure)
        [.identities (.new rules.schema compiled.predicate) (.error failure)] after

/-- The filters behind those applied: there are none, or the first one ends the run. -/
inductive Ends (rules : Rules) : List Filter → σ → Except RuleError Unit → List Call → σ → Prop
  | done {store : σ} : Ends rules [] store (.ok ()) [] store
  | stopped {filter : Filter} {rest : List Filter} {store after : σ} {error : RuleError}
      {calls : List Call} (stops : StopsAt rules filter store error calls after) :
      Ends rules (filter :: rest) store (.error error) calls after

theorem StopsAt.error_cases {error : RuleError} {calls : List Call}
    (h : rules.StopsAt filter store error calls after) :
    (∃ failure, error = .lookupFailed failure) ∨ rules.compiler.Fails error := by
  cases h with
  | uncompiled compile stops => exact .inr (Compiler.compile_error compile stops)
  | unanswered compile answer => exact .inl ⟨_, rfl⟩

theorem StopsAt.apply {error : RuleError} {calls : List Call}
    (h : rules.StopsAt filter store error calls after) (rest : List Filter)
    (query : ContactQuery) :
    rules.apply (filter :: rest) query (Recorder.new store) =
      (.error error, query, ⟨after, calls⟩) := by
  cases h with
  | uncompiled compile stops =>
    rw [Rules.apply, compile]
    exact if_neg (by simp [stops])
  | unanswered compile answer =>
    simp [Rules.apply, compile, resolve, Store.identities, Recorder.new, answer]

/-! ## One filter at a time -/

theorem Applied.nil (rules : Rules) (query : ContactQuery) (store : σ) :
    rules.Applied [] query store [] query store where
  compiled := rfl
  restricted := rfl
  run := rfl

theorem Applied.cons_skip {filters : List Filter} {resolved : List Resolved} {final : ContactQuery}
    {error : RuleError} (compile : rules.compiler.compile filter = .error error)
    (skips : error.isSkippable = true)
    (h : rules.Applied filters query store resolved final after) :
    rules.Applied (filter :: filters) query store resolved final after where
  compiled := by
    rw [h.compiled, compiledAll, compiledAll, List.filterMap_cons, compile]
    rfl
  restricted := h.restricted
  run := by
    rw [Rules.apply, compile]
    exact (if_pos skips).trans h.run

/-- An answered question restricts the query, and what follows runs as from the store's next state,
with the question in front of its own ones. -/
theorem apply_answered {compiled : Compiled} {rows : List IdentityRow}
    (compile : rules.compiler.compile filter = .ok compiled)
    (answer : Store.identities (.new rules.schema compiled.predicate) store = (.ok rows, after))
    (rest : List Filter) (query : ContactQuery) :
    rules.apply (filter :: rest) query (Recorder.new store) =
      Prod.map id (Prod.map id (Recorder.after [Resolved.call rules.schema ⟨compiled, rows⟩]))
        (rules.apply rest
          (query.restrict rules.schema.contact compiled.condition.operator (.ofRows rows))
          (Recorder.new after)) := by
  rw [← rules.apply_view (Recorder.isView_after _)]
  simp [Rules.apply, compile, resolve, Store.identities, Recorder.new, Recorder.after, answer,
    Resolved.call, Resolved.query]

theorem Applied.cons_resolved {filters : List Filter} {mid : σ} {compiled : Compiled}
    {rows : List IdentityRow} {resolved : List Resolved} {final : ContactQuery}
    (compile : rules.compiler.compile filter = .ok compiled)
    (answer : Store.identities (.new rules.schema compiled.predicate) store = (.ok rows, mid))
    (h : rules.Applied filters
      (query.restrict rules.schema.contact compiled.condition.operator (.ofRows rows)) mid
      resolved final after) :
    rules.Applied (filter :: filters) query store (⟨compiled, rows⟩ :: resolved) final after where
  compiled := by
    rw [List.map_cons, h.compiled, compiledAll, compiledAll, List.filterMap_cons, compile]
    rfl
  restricted := h.restricted
  run := by
    rw [apply_answered compile answer, h.run]
    rfl

theorem apply_append {before : List Filter} {final : ContactQuery}
    (run : rules.apply before query store = (.ok (), final, after)) (rest : List Filter) :
    rules.apply (before ++ rest) query store = rules.apply rest final after := by
  induction before generalizing query store with
  | nil =>
    obtain ⟨rfl, rfl⟩ : query = final ∧ store = after := by simpa [Rules.apply] using run
    rfl
  | cons filter before ih =>
    rcases rules.apply_cases filter store with
      ⟨skipped, -, hrun⟩ | ⟨-, ⟨error, failed, hrun⟩ | ⟨operator, set, next, hrun⟩⟩
    · rw [List.cons_append, hrun]
      exact ih ((hrun before query).symm.trans run)
    · cases (hrun before query).symm.trans run
    · rw [List.cons_append, hrun]
      exact ih ((hrun before query).symm.trans run)

theorem Applied.append_ends {before rest : List Filter} {resolved : List Resolved} {mid : σ}
    {final : ContactQuery} {result : Except RuleError Unit} {calls : List Call}
    (applied : rules.Applied before query store resolved final mid)
    (ends : rules.Ends rest mid result calls after) :
    rules.apply (before ++ rest) query (Recorder.new store) =
      (result, final, ⟨after, resolved.map (Resolved.call rules.schema) ++ calls⟩) := by
  cases ends with
  | done => simpa using applied.run
  | stopped stops =>
    rw [apply_append applied.run, ← Recorder.after_new, rules.apply_view (Recorder.isView_after _),
      stops.apply]
    rfl

/-! ## Whole runs -/

theorem apply_upTo (rules : Rules) (filters : List Filter) (query : ContactQuery) (store : σ) :
    ∃ before rest resolved final mid result stop after, filters = before ++ rest ∧
      rules.Applied before query store resolved final mid ∧
      rules.Ends rest mid result stop after := by
  induction filters generalizing query store with
  | nil => exact ⟨[], [], [], query, store, _, _, _, rfl, .nil rules query store, .done⟩
  | cons filter filters ih =>
    cases hcompile : rules.compiler.compile filter with
    | error error =>
      cases hskippable : error.isSkippable with
      | true =>
        obtain ⟨before, rest, resolved, final, mid, result, stop, after, rfl, happlied, hends⟩ :=
          ih query store
        exact ⟨filter :: before, rest, resolved, final, mid, result, stop, after, rfl,
          happlied.cons_skip hcompile hskippable, hends⟩
      | false =>
        exact ⟨[], filter :: filters, [], query, store, _, _, _, rfl, .nil rules query store,
          .stopped (.uncompiled hcompile hskippable)⟩
    | ok compiled =>
      rcases hanswer : Store.identities (.new rules.schema compiled.predicate) store with
        ⟨failure | rows, next⟩
      · exact ⟨[], filter :: filters, [], query, store, _, _, _, rfl, .nil rules query store,
          .stopped (.unanswered hcompile hanswer)⟩
      · obtain ⟨before, rest, resolved, final, mid, result, stop, after, rfl, happlied, hends⟩ := ih
          (query.restrict rules.schema.contact compiled.condition.operator (.ofRows rows)) next
        exact ⟨filter :: before, rest, ⟨compiled, rows⟩ :: resolved, final, mid, result, stop,
          after, rfl, happlied.cons_resolved hcompile hanswer, hends⟩

theorem apply_ends {result : Except RuleError Unit} {final : ContactQuery} {calls : List Call}
    (run : rules.apply filters query (Recorder.new store) = (result, final, ⟨after, calls⟩)) :
    ∃ before rest resolved mid stop, filters = before ++ rest ∧
      rules.Applied before query store resolved final mid ∧
      rules.Ends rest mid result stop after ∧
      calls = resolved.map (Resolved.call rules.schema) ++ stop := by
  obtain ⟨before, rest, resolved, found, mid, answer, stop, last, rfl, happlied, hends⟩ :=
    rules.apply_upTo filters query store
  obtain ⟨rfl, rfl, rfl, rfl⟩ : answer = result ∧ found = final ∧ last = after ∧
      resolved.map (Resolved.call rules.schema) ++ stop = calls := by
    simpa using (happlied.append_ends hends).symm.trans run
  exact ⟨before, rest, resolved, mid, stop, rfl, happlied, hends, rfl⟩

theorem applied_of_ok {final : ContactQuery} {calls : List Call}
    (run : rules.apply filters query (Recorder.new store) = (.ok (), final, ⟨after, calls⟩)) :
    ∃ resolved, rules.Applied filters query store resolved final after ∧
      calls = resolved.map (Resolved.call rules.schema) := by
  obtain ⟨before, rest, resolved, mid, stop, rfl, happlied, hends, rfl⟩ := apply_ends run
  cases hends with
  | done => exact ⟨resolved, by simpa using happlied, by simp⟩

/-- A run that ended early, once more from what it left: what the first filters found before is
found by them again, so in all the query is restricted as by one run. -/
theorem retried_accepts {before rest : List Filter} {first all : List Resolved}
    {mid again fresh later last : σ} {final twice once : ContactQuery} {others : List Resolved}
    (left : rules.Applied before query store first final mid)
    (retried : rules.Applied (before ++ rest) final again all twice later)
    (single : rules.Applied (before ++ rest) query fresh others once last)
    (stable : Call.Agree (first.map (Resolved.call rules.schema))
      (all.map (Resolved.call rules.schema)))
    (same : Call.Agree (all.map (Resolved.call rules.schema))
      (others.map (Resolved.call rules.schema))) (contact : Contact) :
    twice.accepts contact = once.accepts contact := by
  obtain rfl : all = others :=
    Resolved.eq_of_agree (retried.compiled.trans single.compiled.symm) same
  have hstart : first.map Resolved.compiled <+: all.map Resolved.compiled := by
    rw [left.compiled, retried.compiled, compiledAll, compiledAll, List.filterMap_append]
    exact List.prefix_append _ _
  obtain ⟨more, rfl⟩ := Resolved.prefix_of_agree hstart stable
  rw [retried.restricted, single.restricted, left.restricted, ← ContactQuery.restrictAll_append,
    List.map_append, ContactQuery.restrictAll_again]

/-- A run over any store only records clauses. It asks one question for each filter with a
condition, in order, up to a question that fails; it fails for that, or for the settings, or is
broken off as the site has no time. What it leaves is what a successful run of the filters before
leaves, so the query as it was if no question was answered. All filters may be applied to that
again: if this succeeds, and the store answers as it did, the contacts accepted are those of one
successful run. -/
theorem retry_safe (rules : Rules) (filters : List Filter) (query : ContactQuery) (store : σ)
    {result : Except RuleError Unit} {final : ContactQuery} {after : σ} {calls : List Call}
    (run : rules.apply filters query (Recorder.new store) = (result, final, ⟨after, calls⟩)) :
    rules.apply filters query store = (result, final, after) ∧
    (final.columns = query.columns ∧ query.clauses <+: final.clauses) ∧
    (∃ before rest resolved mid stop, filters = before ++ rest ∧
      rules.Applied before query store resolved final mid ∧
      rules.Ends rest mid result stop after ∧
      calls = resolved.map (Resolved.call rules.schema) ++ stop) ∧
    (∀ error, result = .error error →
      (∃ failure, error = .lookupFailed failure) ∨ (∃ fault, error = .settings fault) ∨
        error = .panicked ∧ ¬ rules.compiler.siteNow.InYears) ∧
    (calls.filterMap Call.answered? = [] → final = query) ∧
    ∀ (again fresh : σ) {twice once : ContactQuery} {later last : σ}
      {retried single : List Call},
      rules.apply filters final (Recorder.new again) = (.ok (), twice, ⟨later, retried⟩) →
      rules.apply filters query (Recorder.new fresh) = (.ok (), once, ⟨last, single⟩) →
      Call.Agree calls retried → Call.Agree retried single →
      ∀ contact, twice.accepts contact = once.accepts contact := by
  obtain ⟨before, rest, resolved, mid, stop, rfl, happlied, hends, rfl⟩ := apply_ends run
  have hfinal := happlied.restricted
  rw [ContactQuery.restrictAll_clauses] at hfinal
  refine ⟨?_, ?_, ⟨before, rest, resolved, mid, stop, rfl, happlied, hends, rfl⟩, ?_, ?_, ?_⟩
  · have hview := rules.apply_view Recorder.isView_store (before ++ rest) query (.new store)
    rw [run] at hview
    exact hview
  · exact ⟨by rw [hfinal], by rw [hfinal]; exact List.prefix_append _ _⟩
  · rintro error rfl
    cases hends with
    | stopped stops => exact stops.error_cases
  · intro unanswered
    cases resolved with
    | nil => exact happlied.restricted
    | cons first others => cases unanswered
  · intro again fresh twice once later last retried single hagain hfresh hstable hsame contact
    obtain ⟨all, htwice, rfl⟩ := applied_of_ok hagain
    obtain ⟨others, honce, rfl⟩ := applied_of_ok hfresh
    have hfirst := hstable.mono (List.subset_append_left _ stop) (List.Subset.refl _)
    exact retried_accepts happlied htwice honce hfirst hsame contact

end Rules

/-- A store that answers some more questions and then fails. -/
structure Commerce.Interrupted (σ : Type) where
  store : σ
  left : Nat

namespace Commerce.Interrupted

def failure : StoreError := .connection "closed"

def answer (question : σ → Except StoreError α × σ) (state : Interrupted σ) :
    Except StoreError α × Interrupted σ :=
  match state.left with
  | 0 => (.error failure, state)
  | left + 1 =>
    let (result, store) := question state.store
    (result, ⟨store, left⟩)

instance [Store σ] : Store (Interrupted σ) where
  identities query := answer (Store.identities query)
  customers lookup := answer (Store.customers lookup)
  hasSubscription query := answer (Store.hasSubscription query)

end Commerce.Interrupted

/-- Two alternatives, so that restrictions concern the second one only. -/
def ContactQuery.firstOrSecond : ContactQuery :=
  ⟨.standard, [.test .conj (.equals "id" (.uint 1)), .test .disj (.equals "id" (.uint 2))]⟩

namespace Rules

open Commerce (Interrupted MemoryStore)

/-- What the first filter of `Filter.activeNotExpiring` finds among two customers. -/
def resolvedActive : Resolved where
  compiled := ⟨⟨.hasSubscription (some .active), .member, [⟨7, none⟩]⟩,
    ⟨[⟨7, none⟩], [.active], none⟩⟩
  rows := [⟨some 5, none⟩, ⟨none, some "b@example.com"⟩]

/-- What the last one finds. -/
def resolvedExpiring : Resolved where
  compiled := ⟨⟨.expiringWithin 7, .nonMember, [⟨7, some 1⟩, ⟨8, none⟩]⟩,
    ⟨[⟨7, some 1⟩, ⟨8, none⟩], [], some ⟨⟨0, 0⟩, ⟨691199, 0⟩⟩⟩⟩
  rows := [⟨none, some "b@example.com"⟩]

def activeCalls : List Call :=
  [resolvedActive.call standard.schema, resolvedExpiring.call standard.schema]

def interruptedCalls : List Call :=
  [resolvedActive.call standard.schema,
    .identities (resolvedExpiring.query standard.schema) (.error Interrupted.failure)]

theorem retry_safe_at_second_question :
    ∃ final twice once after later last,
      standard.apply Filter.activeNotExpiring .firstOrSecond
          (Recorder.new (⟨MemoryStore.twoCustomers, 1⟩ : Interrupted MemoryStore)) =
        (.error (.lookupFailed Interrupted.failure), final, ⟨after, interruptedCalls⟩) ∧
      standard.apply Filter.activeNotExpiring final
          (Recorder.new (⟨MemoryStore.twoCustomers, 2⟩ : Interrupted MemoryStore)) =
        (.ok (), twice, ⟨later, activeCalls⟩) ∧
      standard.apply Filter.activeNotExpiring .firstOrSecond
          (Recorder.new (⟨MemoryStore.twoCustomers, 2⟩ : Interrupted MemoryStore)) =
        (.ok (), once, ⟨last, activeCalls⟩) ∧
      Call.Agree interruptedCalls activeCalls ∧ Call.Agree activeCalls activeCalls ∧
      ContactQuery.firstOrSecond.clauses <+: final.clauses ∧
      ∀ contact, twice.accepts contact = once.accepts contact := by
  obtain ⟨final, after, hfails⟩ : ∃ final after,
      standard.apply Filter.activeNotExpiring .firstOrSecond
          (Recorder.new (⟨MemoryStore.twoCustomers, 1⟩ : Interrupted MemoryStore)) =
        (.error (.lookupFailed Interrupted.failure), final, ⟨after, interruptedCalls⟩) :=
    ⟨_, _, rfl⟩
  obtain ⟨once, last, honce⟩ : ∃ once last,
      standard.apply Filter.activeNotExpiring .firstOrSecond
          (Recorder.new (⟨MemoryStore.twoCustomers, 2⟩ : Interrupted MemoryStore)) =
        (.ok (), once, ⟨last, activeCalls⟩) :=
    ⟨_, _, rfl⟩
  obtain ⟨twice, later, htwice⟩ : ∃ twice later,
      standard.apply Filter.activeNotExpiring final
          (Recorder.new (⟨MemoryStore.twoCustomers, 2⟩ : Interrupted MemoryStore)) =
        (.ok (), twice, ⟨later, activeCalls⟩) :=
    ⟨_, _, rfl⟩
  have hfirst : Call.Agree interruptedCalls activeCalls := by decide +kernel
  have hsame : Call.Agree activeCalls activeCalls := by decide +kernel
  obtain ⟨-, ⟨-, hstart⟩, -, -, -, hretry⟩ :=
    retry_safe standard Filter.activeNotExpiring .firstOrSecond
      (⟨MemoryStore.twoCustomers, 1⟩ : Interrupted MemoryStore) hfails
  exact ⟨final, twice, once, after, later, last, hfails, htwice, honce, hfirst, hsame, hstart,
    hretry _ _ htwice honce hfirst hsame⟩

end Rules
end SegmentRules

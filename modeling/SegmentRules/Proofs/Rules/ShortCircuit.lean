import SegmentRules.Proofs.Rules.Skipping
import SegmentRules.Proofs.Rules.Views

/-! # Assessments condition by condition

An assessment evaluates its conditions in turn and ends with the first one that fails or that the
contact does not pass. What it answers, finds and asks is what these evaluations answer, find and
ask. -/
namespace SegmentRules

open Commerce (Call Customer CustomerLookup MemoryStore Recorder Store)

/-- How the evaluation of a condition ends: in an error, or with whether the contact passes and a
finding if its customer is in doubt. -/
inductive Outcome
  | failed (error : RuleError)
  | settled (passes : Bool) (finding : Option RuleError)

namespace Outcome

def error? : Outcome → Option RuleError
  | .failed error => some error
  | .settled _ _ => none

def disqualifies : Outcome → Bool
  | .failed _ => false
  | .settled passes _ => !passes

def findings : Outcome → List RuleError
  | .failed _ => []
  | .settled _ finding => finding.toList

def stops (outcome : Outcome) : Bool := outcome.error?.isSome || outcome.disqualifies

def verdict (previous : Bool) (outcomes : List Outcome) : Except RuleError Assessment :=
  match outcomes.findSome? error? with
  | some error => .error error
  | none =>
    .ok ⟨if outcomes.any disqualifies then false else previous, outcomes.flatMap findings, []⟩

theorem verdict_cons {outcome : Outcome} (goesOn : outcome.stops = false) (previous : Bool)
    (rest : List Outcome) :
    verdict previous (outcome :: rest) =
      (verdict previous rest).map (Rules.withFindings outcome.findings []) := by
  cases outcome with
  | failed error => cases goesOn
  | settled passes finding =>
    obtain rfl : passes = true := by simpa [stops, error?, disqualifies] using goesOn
    have hfirst : (settled true finding :: rest).findSome? error? = rest.findSome? error? := rfl
    simp only [verdict, hfirst]
    cases rest.findSome? error? with
    | some error => rfl
    | none => rfl

end Outcome

structure Evaluation where
  filter : Filter
  outcome : Outcome
  calls : List Call

namespace Rules

/-- The evaluation of one filter that is not left out. Without a condition, or for a contact without
identity, it asks nothing; without a customer it asks once, and else twice. -/
inductive Step [Store σ] (rules : Rules) (contact : Contact) :
    Filter → σ → Outcome → List Call → σ → Prop
  | uncompiled (compile : rules.compiler.compile filter = .error error)
      (stops : error.isSkippable = false) :
      Step rules contact filter store (.failed error) [] store
  | unidentified (compile : rules.compiler.compile filter = .ok compiled)
      (account : ¬ IsAccount contact.account) (email : ¬ IsEmail contact.email) :
      Step rules contact filter store
        (.settled (compiled.condition.operator.passes false) none) [] store
  | unanswered {failure : StoreError} (compile : rules.compiler.compile filter = .ok compiled)
      (identity : CustomerLookup.new? rules.schema contact.linkedAccount contact.linkedEmail =
        some lookup)
      (answer : Store.customers lookup store = (.error failure, after)) :
      Step rules contact filter store (.failed (.lookupFailed failure))
        [.customers lookup (.error failure)] after
  | unknown (compile : rules.compiler.compile filter = .ok compiled)
      (identity : CustomerLookup.new? rules.schema contact.linkedAccount contact.linkedEmail =
        some lookup)
      (answer : Store.customers lookup store = (.ok [], after)) :
      Step rules contact filter store
        (.settled (compiled.condition.operator.passes false) none)
        [.customers lookup (.ok [])] after
  | unchecked {failure : StoreError} (compile : rules.compiler.compile filter = .ok compiled)
      (identity : CustomerLookup.new? rules.schema contact.linkedAccount contact.linkedEmail =
        some lookup)
      (answer : Store.customers lookup store = (.ok customers, found))
      (customer : Membership.pick? contact customers = some (owner, finding))
      (check : Store.hasSubscription (.new rules.schema owner compiled.predicate) found =
        (.error failure, after)) :
      Step rules contact filter store (.failed (.lookupFailed failure))
        [.customers lookup (.ok customers),
          .hasSubscription (.new rules.schema owner compiled.predicate) (.error failure)] after
  | checked (compile : rules.compiler.compile filter = .ok compiled)
      (identity : CustomerLookup.new? rules.schema contact.linkedAccount contact.linkedEmail =
        some lookup)
      (answer : Store.customers lookup store = (.ok customers, found))
      (customer : Membership.pick? contact customers = some (owner, finding))
      (check : Store.hasSubscription (.new rules.schema owner compiled.predicate) found =
        (.ok isMember, after)) :
      Step rules contact filter store
        (.settled (compiled.condition.operator.passes isMember) finding)
        [.customers lookup (.ok customers),
          .hasSubscription (.new rules.schema owner compiled.predicate) (.ok isMember)] after

inductive Evaluated [Store σ] (rules : Rules) (contact : Contact) :
    List Filter → σ → List Evaluation → σ → Prop
  | done (store : σ) : Evaluated rules contact [] store [] store
  | stopped (step : rules.Step contact filter store outcome calls after)
      (stops : outcome.stops = true) (rest : List Filter) :
      Evaluated rules contact (filter :: rest) store [⟨filter, outcome, calls⟩] after
  | next (step : rules.Step contact filter store outcome calls mid)
      (goesOn : outcome.stops = false)
      (others : Evaluated rules contact rest mid evaluations after) :
      Evaluated rules contact (filter :: rest) store (⟨filter, outcome, calls⟩ :: evaluations) after

/-- The questions of an evaluation are those its filter and contact need: none without a condition
or an identity, one without a customer, and else two. -/
def Accounts (rules : Rules) (contact : Contact) (evaluation : Evaluation) : Prop :=
  match evaluation.calls with
  | [] => (∃ error, rules.compiler.compile evaluation.filter = .error error) ∨
      (¬ IsAccount contact.account ∧ ¬ IsEmail contact.email)
  | [.customers _ answer] => (∃ compiled, rules.compiler.compile evaluation.filter = .ok compiled) ∧
      (IsAccount contact.account ∨ IsEmail contact.email) ∧
      ((∃ failure, answer = .error failure) ∨ answer = .ok [])
  | [.customers _ answer, .hasSubscription _ _] =>
    (∃ compiled, rules.compiler.compile evaluation.filter = .ok compiled) ∧
      (IsAccount contact.account ∨ IsEmail contact.email) ∧
      ∃ first others, answer = .ok (first :: others)
  | _ => False

variable {σ : Type} [Store σ] {rules : Rules} {contact : Contact} {filter : Filter}
  {store after : σ} {outcome : Outcome} {calls : List Call}

/-! ## One filter -/

theorem step_of_kept (contact : Contact) (kept : rules.skipped? filter = none) (store : σ) :
    ∃ outcome calls after, rules.Step contact filter store outcome calls after := by
  cases hcompile : rules.compiler.compile filter with
  | error error =>
    cases hskippable : error.isSkippable with
    | true => simp [skipped?, hcompile, hskippable] at kept
    | false => exact ⟨_, _, _, .uncompiled hcompile hskippable⟩
  | ok compiled =>
    rcases Membership.lookup_cases rules.schema contact.linkedAccount contact.linkedEmail with
      ⟨haccount, hemail, -⟩ | ⟨lookup, hlookup, -, -⟩
    · refine ⟨_, _, _, .unidentified hcompile ?_ ?_⟩
      · rw [← linkedAccount?_isSome, ← Contact.linkedAccount, haccount]
        decide
      · rw [← linkedEmail?_isSome, ← Contact.linkedEmail, hemail]
        decide
    rcases hanswer : Store.customers lookup store with ⟨failure | customers, found⟩
    · exact ⟨_, _, _, .unanswered hcompile hlookup hanswer⟩
    rcases Membership.pick_cases contact customers with
      ⟨-, rfl⟩ | ⟨picked, -, finding, hpick⟩
    · exact ⟨_, _, _, .unknown hcompile hlookup hanswer⟩
    rcases hcheck : Store.hasSubscription (.new rules.schema picked.id compiled.predicate) found
      with ⟨failure | isMember, after⟩
    · exact ⟨_, _, _, .unchecked hcompile hlookup hanswer hpick hcheck⟩
    · exact ⟨_, _, _, .checked hcompile hlookup hanswer hpick hcheck⟩

/-- A step fails, or it finds out what the check of its contact finds out. -/
theorem Step.check (step : rules.Step contact filter store outcome calls after) :
    (∃ error, rules.compiler.compile filter = .error error ∧ error.isSkippable = false ∧
      outcome = .failed error ∧ calls = [] ∧ store = after) ∨
    ∃ compiled, rules.compiler.compile filter = .ok compiled ∧
      ((∃ error, outcome = .failed error ∧
          Membership.check rules.schema contact compiled.predicate (Recorder.new store) =
            (.error error, ⟨after, calls⟩)) ∨
        ∃ membership, outcome = .settled
            (compiled.condition.operator.passes membership.isMember) membership.ambiguity ∧
          Membership.check rules.schema contact compiled.predicate (Recorder.new store) =
            (.ok membership, ⟨after, calls⟩)) := by
  cases step with
  | uncompiled compile stops => exact .inl ⟨_, compile, stops, rfl, rfl, rfl⟩
  | unidentified compile account email =>
    have hlookup := Membership.lookup_of_unidentified rules.schema account email
    exact .inr ⟨_, compile, .inr ⟨.none, rfl, by simp [Membership.check, hlookup, Recorder.new]⟩⟩
  | unanswered compile identity answer =>
    exact .inr ⟨_, compile, .inl ⟨_, rfl, by
      simp [Membership.check, identity, Store.customers, Recorder.new, answer]⟩⟩
  | unknown compile identity answer =>
    have hpick := Membership.pick?_nil contact
    exact .inr ⟨_, compile, .inr ⟨.none, rfl, by
      simp [Membership.check, identity, Store.customers, Recorder.new, answer, hpick]⟩⟩
  | unchecked compile identity answer customer check =>
    exact .inr ⟨_, compile, .inl ⟨_, rfl, by
      simp [Membership.check, identity, Store.customers, Store.hasSubscription, Recorder.new,
        answer, customer, check]⟩⟩
  | checked compile identity answer customer check =>
    exact .inr ⟨_, compile, .inr ⟨⟨_, _⟩, rfl, by
      simp [Membership.check, identity, Store.customers, Store.hasSubscription, Recorder.new,
        answer, customer, check]⟩⟩

/-- A step decides an assessment, or leaves it to the filters behind. -/
theorem Step.assess (step : rules.Step contact filter store outcome calls after) (previous : Bool)
    (rest : List Filter) :
    rules.assess contact previous (filter :: rest) (Recorder.new store) =
      if outcome.stops then (Outcome.verdict previous [outcome], ⟨after, calls⟩)
      else behind outcome.findings []
        (Prod.map id (Recorder.after calls)
          (rules.assess contact previous rest (Recorder.new after))) := by
  rw [← rules.assess_view (Recorder.isView_after calls), Recorder.after_new]
  rcases step.check with
    ⟨error, hcompile, hstops, rfl, rfl, rfl⟩ |
    ⟨compiled, hcompile, ⟨error, rfl, hcheck⟩ | ⟨membership, rfl, hcheck⟩⟩
  · rw [Rules.assess, hcompile]
    exact if_neg (by simp [hstops])
  · rw [Rules.assess, hcompile]
    simp only [hcheck]
    rfl
  · rw [Rules.assess, hcompile]
    simp only [hcheck]
    cases compiled.condition.operator.passes membership.isMember with
    | false => cases membership.ambiguity <;> rfl
    | true => rfl

theorem Step.error_cases {error : RuleError}
    (step : rules.Step contact filter store (.failed error) calls after) :
    (∃ failure, error = .lookupFailed failure) ∨ rules.compiler.Fails error := by
  cases step with
  | uncompiled compile stops => exact .inr (Compiler.compile_error compile stops)
  | unanswered _ _ _ => exact .inl ⟨_, rfl⟩
  | unchecked _ _ _ _ _ => exact .inl ⟨_, rfl⟩

theorem Step.accounts (step : rules.Step contact filter store outcome calls after) :
    rules.Accounts contact ⟨filter, outcome, calls⟩ := by
  have identified : ∀ lookup, CustomerLookup.new? rules.schema contact.linkedAccount
      contact.linkedEmail = some lookup → IsAccount contact.account ∨ IsEmail contact.email := by
    intro lookup hlookup
    by_contra hnot
    rw [not_or] at hnot
    cases (Membership.lookup_of_unidentified rules.schema hnot.1 hnot.2).symm.trans hlookup
  have somebody : ∀ customers picked, Membership.pick? contact customers = some picked →
      ∃ first others, customers = first :: others := by
    intro customers picked hpick
    rcases Membership.pick_cases contact customers with ⟨hnone, -⟩ | ⟨one, hmem, -⟩
    · cases hnone.symm.trans hpick
    · exact List.exists_cons_of_ne_nil (List.ne_nil_of_mem hmem)
  cases step with
  | uncompiled compile _ => exact .inl ⟨_, compile⟩
  | unidentified compile account email => exact .inr ⟨account, email⟩
  | unanswered compile identity _ =>
    exact ⟨⟨_, compile⟩, identified _ identity, .inl ⟨_, rfl⟩⟩
  | unknown compile identity _ => exact ⟨⟨_, compile⟩, identified _ identity, .inr rfl⟩
  | unchecked compile identity _ customer _ =>
    obtain ⟨first, others, rfl⟩ := somebody _ _ customer
    exact ⟨⟨_, compile⟩, identified _ identity, first, others, rfl⟩
  | checked compile identity _ customer _ =>
    obtain ⟨first, others, rfl⟩ := somebody _ _ customer
    exact ⟨⟨_, compile⟩, identified _ identity, first, others, rfl⟩

/-! ## Whole assessments -/

theorem evaluated (rules : Rules) (contact : Contact) (filters : List Filter) (store : σ) :
    ∃ evaluations after, rules.Evaluated contact (rules.kept filters) store evaluations after := by
  induction filters generalizing store with
  | nil => exact ⟨[], store, .done store⟩
  | cons filter rest ih =>
    cases hskipped : rules.skipped? filter with
    | some skipped =>
      rw [kept_cons_of_some hskipped]
      exact ih store
    | none =>
      rw [kept_cons_of_none hskipped]
      obtain ⟨outcome, calls, mid, step⟩ := step_of_kept contact hskipped store
      cases hstops : outcome.stops with
      | true => exact ⟨_, mid, .stopped step hstops (rules.kept rest)⟩
      | false =>
        obtain ⟨evaluations, after, others⟩ := ih mid
        exact ⟨_, after, .next step hstops others⟩

namespace Evaluated

variable {filters : List Filter} {evaluations : List Evaluation}

theorem steps (h : rules.Evaluated contact filters store evaluations after) :
    ∀ evaluation ∈ evaluations, ∃ store after : σ,
      rules.Step contact evaluation.filter store evaluation.outcome evaluation.calls after := by
  induction h with
  | done => simp
  | stopped step _ _ => simpa using ⟨_, _, step⟩
  | next step _ _ ih => exact List.forall_mem_cons.mpr ⟨⟨_, _, step⟩, ih⟩

theorem upToStop (h : rules.Evaluated contact filters store evaluations after) :
    evaluations.map Evaluation.filter <+: filters ∧
    (∀ evaluation ∈ evaluations.dropLast, evaluation.outcome.stops = false) ∧
    (evaluations.map Evaluation.filter = filters ∨
      ∃ last, evaluations.getLast? = some last ∧ last.outcome.stops = true) := by
  induction h with
  | done => simp
  | stopped step stops rest => simp [stops]
  | next step goesOn others ih =>
    rename_i evaluations _
    obtain ⟨hstart, hbefore, hend⟩ := ih
    refine ⟨by simpa using hstart, ?_, ?_⟩
    · cases evaluations with
      | nil => simp
      | cons second others => exact List.forall_mem_cons.mpr ⟨goesOn, hbefore⟩
    · rcases hend with hall | ⟨last, hlast, hstops⟩
      · exact .inl (by rw [List.map_cons, hall])
      · exact .inr ⟨last, by rw [List.getLast?_cons, hlast]; rfl, hstops⟩

theorem assess (h : rules.Evaluated contact filters store evaluations after) (previous : Bool) :
    rules.assess contact previous filters (Recorder.new store) =
      (Outcome.verdict previous (evaluations.map Evaluation.outcome),
        ⟨after, evaluations.flatMap Evaluation.calls⟩) := by
  induction h with
  | done => rfl
  | stopped step stops rest =>
    rw [step.assess, if_pos stops]
    simp
  | next step goesOn others ih =>
    rw [step.assess, if_neg (by simp [goesOn]), ih, List.map_cons, Outcome.verdict_cons goesOn]
    rfl

end Evaluated

/-- An assessment is a conjunction that is cut short. Of the filters that are not left out it
evaluates those up to the first one that fails or disqualifies the contact. It fails with this
failure, which is one of the store or of the settings, or the site has no time; else a disqualified
contact does not pass, and any other one passes as it did before. The findings are those of the
evaluated filters, and so are the questions. Over a store that answers, filters that all compile or
are left out are a conjunction in any order. -/
theorem assess_short_circuits (rules : Rules) (contact : Contact) (previous : Bool)
    (filters : List Filter) (store : σ) :
    (∃ evaluations after result,
      rules.Evaluated contact (rules.kept filters) store evaluations after ∧
      (evaluations.map Evaluation.filter <+: rules.kept filters ∧
        (∀ evaluation ∈ evaluations.dropLast, evaluation.outcome.stops = false) ∧
        (evaluations.map Evaluation.filter = rules.kept filters ∨
          ∃ last, evaluations.getLast? = some last ∧ last.outcome.stops = true)) ∧
      rules.assess contact previous filters store = (result, after) ∧
      rules.assess contact previous filters (Recorder.new store) =
        (result, ⟨after, evaluations.flatMap Evaluation.calls⟩) ∧
      result.map Assessment.withoutSkipped =
        Outcome.verdict previous (evaluations.map Evaluation.outcome) ∧
      ∀ evaluation ∈ evaluations, rules.Accounts contact evaluation ∧
        ∀ error, evaluation.outcome = .failed error →
          (∃ failure, error = .lookupFailed failure) ∨ (∃ fault, error = .settings fault) ∨
            error = .panicked ∧ ¬ rules.compiler.siteNow.InYears) ∧
    ∀ (memory : MemoryStore) (order : List Filter), memory.failure = none →
      order.Perm filters → (∀ filter ∈ filters, rules.Evaluates filter) →
      ∃ assessment after, rules.assess contact previous order memory = (.ok assessment, after) ∧
        (assessment.passed = true ↔ previous = true ∧ rules.Requires filters fun compiled =>
          compiled.condition.operator.passes
            (memory.isMember rules.schema contact compiled.predicate) = true) := by
  constructor
  · obtain ⟨evaluations, after, h⟩ := rules.evaluated contact filters store
    have hkept := rules.assess_kept contact previous filters (Recorder.new store)
    rw [h.assess] at hkept
    have hview := rules.assess_view Recorder.isView_store contact previous filters (.new store)
    rcases hrun : rules.assess contact previous filters (Recorder.new store) with ⟨result, final⟩
    rw [hrun] at hkept hview
    obtain ⟨hverdict, rfl⟩ := Prod.mk.inj hkept
    refine ⟨evaluations, after, result, h, h.upToStop, hview, rfl, hverdict.symm, ?_⟩
    intro evaluation hmem
    obtain ⟨before, later, step⟩ := h.steps evaluation hmem
    refine ⟨step.accounts, fun error herror => ?_⟩
    rw [herror] at step
    exact step.error_cases
  · intro memory order sound hperm hall
    obtain ⟨assessment, after, hrun, hpassed⟩ :=
      assess_run sound (fun filter hmem => hall filter (hperm.mem_iff.mp hmem)) contact previous
    refine ⟨assessment, after, hrun, hpassed.trans (and_congr_right fun _ => ?_)⟩
    simp only [Requires, hperm.mem_iff]

theorem standard_evaluates : ∀ filter ∈ Filter.activeNotExpiring, standard.Evaluates filter := by
  simp only [Filter.activeNotExpiring, List.forall_mem_cons]
  exact ⟨.inr ⟨_, rfl⟩, .inl ⟨_, rfl, rfl⟩, .inr ⟨_, rfl⟩, by simp⟩

/-- In reverse order the exclusion comes first, and nothing is asked behind it. -/
theorem short_circuit_at_standard :
    MemoryStore.twoCustomers.failure = none ∧
    Filter.activeNotExpiring.reverse.Perm Filter.activeNotExpiring ∧
    ∃ assessment after,
      standard.assess ⟨3, none, some "b@example.com"⟩ true Filter.activeNotExpiring.reverse
        MemoryStore.twoCustomers = (.ok assessment, after) ∧
      assessment.passed = false ∧ after.calls = 2 ∧
      ¬ standard.Requires Filter.activeNotExpiring fun compiled =>
        compiled.condition.operator.passes (MemoryStore.twoCustomers.isMember standard.schema
          ⟨3, none, some "b@example.com"⟩ compiled.predicate) = true := by
  obtain ⟨-, hall⟩ := assess_short_circuits standard ⟨3, none, some "b@example.com"⟩ true
    Filter.activeNotExpiring MemoryStore.twoCustomers
  obtain ⟨assessment, after, hrun, hpassed⟩ := hall MemoryStore.twoCustomers
    Filter.activeNotExpiring.reverse rfl (List.reverse_perm _) standard_evaluates
  have hstopped : standard.assess ⟨3, none, some "b@example.com"⟩ true
      Filter.activeNotExpiring.reverse MemoryStore.twoCustomers =
        (.ok ⟨false, [], []⟩, { MemoryStore.twoCustomers with calls := 2 }) := by decide +kernel
  obtain ⟨hsame, rfl⟩ := Prod.mk.inj (hstopped.symm.trans hrun)
  obtain rfl := Except.ok.inj hsame
  refine ⟨rfl, List.reverse_perm _, _, _, hrun, rfl, rfl, fun hrequires => ?_⟩
  cases hpassed.mpr ⟨rfl, hrequires⟩

end Rules
end SegmentRules

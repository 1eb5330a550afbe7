import Mathlib.Logic.Basic
import SegmentRules.Proofs.Condition.Items
import SegmentRules.Proofs.Window
import SegmentRules.Rules.Basic

/-! # What filters mean

The meaning of a filter in terms of its texts and the rows of the store, apart from the compiler;
and what the compiler makes of a filter, said once for all later proofs. -/
namespace SegmentRules

open Commerce (Subscription Predicate)

def Selector.Names (selector : Selector) (row : Subscription) : Prop :=
  selector.product = row.product ∧ ∀ price, selector.variant = some price → row.price = some price

/-- The status and the expiration a kind of condition asks for, at a time on the site's clock. The
window ends with the last second of its last day. -/
def Kind.Wants (siteNow : Timestamp) (row : Subscription) : Kind → Prop
  | .hasSubscription none => True
  | .hasSubscription (some status) => row.status = status.name
  | .expiringWithin days => row.status = Status.active.name ∧
      ∃ t, row.expiration = some t ∧ siteNow.le t = true ∧
        t.le (.endOfDay (siteNow.dayNumber + days.toNat)) = true

namespace Filter

def Names (filter : Filter) (row : Subscription) : Prop :=
  ∃ selector, filter.Holds selector ∧ selector.Names row

def Hits (filter : Filter) (siteNow : Timestamp) (row : Subscription) : Prop :=
  ∃ kind ∈ Catalog.kinds, kind.key = filter.property ∧ filter.Names row ∧ kind.Wants siteNow row

/-- The filter asks for an operator; for members if it names none. -/
def Asks (filter : Filter) : Operator → Prop
  | .member => filter.operator = none ∨ filter.operator = some "" ∨ filter.operator = some "in"
  | .nonMember => filter.operator = some "not_in"

def Usable (filter : Filter) : Prop :=
  (∃ kind ∈ Catalog.kinds, kind.key = filter.property) ∧ (∃ operator, filter.Asks operator) ∧
    ∃ selector, filter.Holds selector

end Filter

theorem key_injective_on_kinds :
    ∀ a ∈ Catalog.kinds, ∀ b ∈ Catalog.kinds, a.key = b.key → a = b := by
  decide +kernel

theorem Operator.ofName?_eq_some {text : String} {operator : Operator} :
    ofName? text = some operator ↔ text = operator.name := by
  have hdistinct : Operator.member.name ≠ Operator.nonMember.name := by decide
  by_cases hmember : text = Operator.member.name
  · subst hmember
    cases operator <;> simp [ofName?, all, hdistinct]
  · by_cases hother : text = Operator.nonMember.name
    · subst hother
      cases operator <;> simp [ofName?, all, hdistinct, hdistinct.symm]
    · have hm : ¬ Operator.member.name = text := fun h => hmember h.symm
      have ho : ¬ Operator.nonMember.name = text := fun h => hother h.symm
      cases operator <;> simp [ofName?, all, hmember, hother, hm, ho]

theorem Operator.ofName?_name (operator : Operator) : ofName? operator.name = some operator :=
  ofName?_eq_some.mpr rfl

theorem Operator.mem_all (operator : Operator) : operator ∈ all := by
  cases operator <;> simp [all]

theorem Condition.operatorOf_cases (filter : Filter) (key : String) :
    (∃ text, operatorOf key filter.operator = .error (.unsupportedOperator key text) ∧
      ¬ ∃ operator, filter.Asks operator) ∨
    ∃ operator, operatorOf key filter.operator = .ok operator ∧ filter.Asks operator := by
  cases htext : filter.operator with
  | none => exact .inr ⟨.member, rfl, .inl htext⟩
  | some text =>
    by_cases hempty : text = ""
    · exact .inr ⟨.member, by simp [operatorOf, hempty], .inr (.inl (hempty ▸ htext))⟩
    cases hname : Operator.ofName? text with
    | some operator =>
      refine .inr ⟨operator, by simp [operatorOf, hempty, hname], ?_⟩
      have hoperator := Operator.ofName?_eq_some.mp hname
      cases operator with
      | member => exact .inr (.inr (htext.trans (congrArg some hoperator)))
      | nonMember => exact htext.trans (congrArg some hoperator)
    | none =>
      refine .inl ⟨text, by simp [operatorOf, hempty, hname], ?_⟩
      have hunknown : ∀ operator : Operator, text ≠ operator.name := fun operator h => by
        simp [Operator.ofName?_eq_some.mpr h] at hname
      rintro ⟨_ | _, h⟩
      · rcases h with h | h | h
        · cases htext.symm.trans h
        · exact hempty (Option.some.inj (htext.symm.trans h))
        · exact hunknown .member (Option.some.inj (htext.symm.trans h))
      · exact hunknown .nonMember (Option.some.inj (htext.symm.trans h))

namespace Catalog

theorem get?_withGate (enabled : Bool) (key : String) :
    ((withGate enabled).get? key = none ∧ ¬ ∃ kind ∈ kinds, kind.key = key) ∨
      ∃ kind ∈ kinds, kind.key = key ∧
        (withGate enabled).get? key = some ⟨kind, Operator.all, enabled⟩ := by
  cases h : (withGate enabled).get? key with
  | none =>
    refine .inl ⟨rfl, ?_⟩
    rintro ⟨kind, hkind, hkey⟩
    have hentry := List.find?_eq_none.mp h ⟨kind, Operator.all, enabled⟩
      (List.mem_map.mpr ⟨kind, hkind, rfl⟩)
    exact hentry (by simp [Entry.key, hkey])
  | some entry =>
    obtain ⟨kind, hkind, rfl⟩ := List.mem_map.mp (List.mem_of_find?_eq_some h)
    exact .inr ⟨kind, hkind, by simpa [Entry.key] using List.find?_some h, rfl⟩

end Catalog

/-- What the catalog makes of a filter: an error that only skips it, if the gate is closed or the
filter unusable, and else a condition with the filter's property, operator and selectors. -/
theorem Condition.ofFilter_cases (filter : Filter) (enabled : Bool) :
    (¬ (enabled = true ∧ filter.Usable) ∧
      ∃ error, ofFilter filter (.withGate enabled) = .error error ∧ error.isSkippable = true) ∨
    (enabled = true ∧ filter.Usable) ∧
      ∃ condition, ofFilter filter (.withGate enabled) = .ok condition ∧
        condition.kind ∈ Catalog.kinds ∧ condition.kind.key = filter.property ∧
        filter.Asks condition.operator ∧ condition.selectors ≠ [] ∧
        ∀ s, s ∈ condition.selectors ↔ filter.Holds s := by
  rcases Catalog.get?_withGate enabled filter.property with
    ⟨hget, hunknown⟩ | ⟨kind, hkind, hkey, hget⟩
  · exact .inl ⟨fun h => hunknown h.2.1, .unknownCondition filter.property,
      by simp [ofFilter, hget], rfl⟩
  cases enabled with
  | false =>
    exact .inl ⟨by simp, .conditionDisabled kind.key,
      by simp [ofFilter, hget, Catalog.Entry.key], rfl⟩
  | true =>
    rcases operatorOf_cases filter kind.key with ⟨text, hop, hnone⟩ | ⟨operator, hop, hasks⟩
    · exact .inl ⟨fun h => hnone h.2.2.1, .unsupportedOperator kind.key text, by
        simp [ofFilter, hget, Catalog.Entry.key, hop, bind, Except.bind], rfl⟩
    have hallows := operator.mem_all
    rcases Selector.parseAll_cases filter.tokens with
      ⟨hparse, hnone⟩ | ⟨hsome, selectors, hparse, hne, hall⟩
    · refine .inl ⟨?_, .noSelectors, by
        simp [ofFilter, hget, Catalog.Entry.key, Catalog.Entry.allows, hop, hallows, hparse, bind,
          Except.bind], rfl⟩
      rintro ⟨-, -, -, selector, hholds⟩
      obtain ⟨token, htoken, hselector⟩ := Filter.holds_iff_parse.mp hholds
      exact hnone ⟨token, htoken, selector, hselector⟩
    · obtain ⟨token, htoken, selector, hselector⟩ := hsome
      have hholds : filter.Holds selector :=
        Filter.holds_iff_parse.mpr ⟨token, htoken, hselector⟩
      refine .inr ⟨⟨rfl, ⟨kind, hkind, hkey⟩, ⟨operator, hasks⟩, selector, hholds⟩,
        ⟨kind, operator, selectors⟩, by
          simp [ofFilter, hget, Catalog.Entry.key, Catalog.Entry.allows, hop, hallows, hparse,
            bind, Except.bind, pure, Except.pure], hkind, hkey, hasks, hne, fun s => ?_⟩
      rw [hall, Filter.holds_iff_parse]

theorem Condition.ofFilter_error {filter : Filter} {catalog : Catalog} {error : RuleError}
    (h : ofFilter filter catalog = .error error) : error.isSkippable = true := by
  cases hget : catalog.get? filter.property with
  | none =>
    obtain rfl : RuleError.unknownCondition filter.property = error := by
      simpa [ofFilter, hget] using h
    rfl
  | some entry =>
    cases henabled : entry.enabled with
    | false =>
      obtain rfl : RuleError.conditionDisabled entry.key = error := by
        simpa [ofFilter, hget, henabled] using h
      rfl
    | true =>
      simp only [ofFilter, hget, henabled, Bool.not_true, Bool.false_eq_true, if_false] at h
      rcases operatorOf_cases filter entry.key with ⟨text, hoperator, -⟩ | ⟨operator, hoperator, -⟩
      · obtain rfl : RuleError.unsupportedOperator entry.key text = error := by
          simpa [hoperator, bind, Except.bind] using h
        rfl
      · cases hallows : entry.allows operator with
        | false =>
          obtain rfl : RuleError.unsupportedOperator entry.key operator.name = error := by
            simpa [hoperator, hallows, bind, Except.bind] using h
          rfl
        | true =>
          rcases Selector.parseAll_cases filter.tokens with
            ⟨hparse, -⟩ | ⟨-, selectors, hparse, -⟩
          · obtain rfl : RuleError.noSelectors = error := by
              simpa [hoperator, hallows, hparse, bind, Except.bind] using h
            rfl
          · simp [hoperator, hallows, hparse, bind, Except.bind, pure, Except.pure] at h

namespace Compiler

variable {compiler : Compiler}

def siteNow (compiler : Compiler) : Timestamp := compiler.now.onSite compiler.offset

/-- The error is one of the settings, or the site has no time. -/
def Fails (compiler : Compiler) (error : RuleError) : Prop :=
  (∃ fault, error = .settings fault) ∨ error = .panicked ∧ ¬ compiler.siteNow.InYears

theorem Fails.not_skippable {error : RuleError} (h : compiler.Fails error) :
    error.isSkippable = false := by
  rcases h with ⟨fault, rfl⟩ | ⟨rfl, -⟩
  · rfl
  · rfl

theorem window?_cases (compiler : Compiler) (kind : Kind) :
    (∃ error, compiler.window? kind = .error error ∧ compiler.Fails error) ∨
      ∃ window, compiler.window? kind = .ok window := by
  cases kind with
  | hasSubscription status => exact .inr ⟨none, rfl⟩
  | expiringWithin days =>
    have hending := Window.endingInDays_ending compiler.now days compiler.offset
    simp only [window?, Kind.windowDays]
    cases hwindow : Window.endingInDays compiler.now days compiler.offset with
    | ok window => exact .inr ⟨some window, rfl⟩
    | error error =>
      rw [hwindow] at hending
      refine .inl ⟨error, rfl, ?_⟩
      cases hending with
      | panicked outside => exact .inr ⟨rfl, outside⟩
      | late _ _ => exact .inl ⟨_, rfl⟩

theorem accepts_iff {kind : Kind} {window : Option Window} {selectors : List Selector}
    (h : compiler.window? kind = .ok window) (row : Subscription) :
    Predicate.accepts ⟨selectors, kind.statuses, window⟩ row = true ↔
      (∃ s ∈ selectors, s.Names row) ∧ kind.Wants compiler.siteNow row := by
  cases kind with
  | hasSubscription status =>
    obtain rfl : none = window := Except.ok.inj h
    cases status <;>
      simp [Predicate.accepts, Predicate.requiredStatuses, Kind.statuses, Kind.Wants,
        Selector.selects_iff, Selector.Names, eq_comm (a := row.status)]
  | expiringWithin days =>
    have hending := Window.endingInDays_ending compiler.now days compiler.offset
    cases hw : Window.endingInDays compiler.now days compiler.offset with
    | error error => simp [window?, Kind.windowDays, hw, Except.map] at h
    | ok found =>
      rw [hw] at hending
      cases hending
      obtain rfl : some _ = window := by
        simpa [window?, Kind.windowDays, hw, Except.map] using h
      simp [Predicate.accepts, Predicate.requiredStatuses, Kind.Wants, Selector.selects_iff,
        Selector.Names, Window.contains, siteNow, and_assoc, eq_comm (a := row.status),
        Option.any_eq_true]

/-- What the compiler makes of a filter: it skips the filter if the gate is closed or the filter is
unusable; else only the ends of the calendar keep it from a predicate for exactly the rows that
count. -/
theorem compile_cases {enabled : Bool} (h : compiler.catalog = .withGate enabled)
    (filter : Filter) :
    (¬ (enabled = true ∧ filter.Usable) ∧
      ∃ error, compiler.compile filter = .error error ∧ error.isSkippable = true) ∨
    (enabled = true ∧ filter.Usable) ∧
      ((∃ error, compiler.compile filter = .error error ∧ error.isSkippable = false) ∨
        ∃ compiled, compiler.compile filter = .ok compiled ∧
          filter.Asks compiled.condition.operator ∧
          ∀ row, compiled.predicate.accepts row = true ↔ filter.Hits compiler.siteNow row) := by
  rcases Condition.ofFilter_cases filter enabled with
    ⟨hskip, error, herror, hskippable⟩ |
    ⟨husable, condition, hcondition, hkind, hkey, hasks, hne, hselectors⟩
  · exact .inl ⟨hskip, error, by simp [compile, h, herror, bind, Except.bind], hskippable⟩
  refine .inr ⟨husable, ?_⟩
  rcases window?_cases compiler condition.kind with ⟨error, hwindow, hfails⟩ | ⟨window, hwindow⟩
  · exact .inl ⟨error, by simp [compile, predicate, h, hcondition, hwindow, bind, Except.bind],
      hfails.not_skippable⟩
  refine .inr ⟨⟨condition, ⟨condition.selectors, condition.kind.statuses, window⟩⟩, ?_, hasks, ?_⟩
  · simp [compile, predicate, h, hcondition, hwindow, Predicate.build, hne, bind, Except.bind,
      pure, Except.pure]
  intro row
  have hnames : (∃ s ∈ condition.selectors, s.Names row) ↔ filter.Names row := by
    constructor
    · rintro ⟨s, hs, hrow⟩
      exact ⟨s, (hselectors s).mp hs, hrow⟩
    · rintro ⟨s, hs, hrow⟩
      exact ⟨s, (hselectors s).mpr hs, hrow⟩
  rw [accepts_iff hwindow, hnames]
  constructor
  · rintro ⟨hrow, hwants⟩
    exact ⟨condition.kind, hkind, hkey, hrow, hwants⟩
  · rintro ⟨kind, hk, hsame, hrow, hwants⟩
    exact ⟨hrow, key_injective_on_kinds kind hk _ hkind (hsame.trans hkey.symm) ▸ hwants⟩

theorem compile_error {filter : Filter} {error : RuleError}
    (h : compiler.compile filter = .error error) (stops : error.isSkippable = false) :
    compiler.Fails error := by
  cases hcondition : Condition.ofFilter filter compiler.catalog with
  | error first =>
    obtain rfl : first = error := by simpa [compile, hcondition, bind, Except.bind] using h
    simp [Condition.ofFilter_error hcondition] at stops
  | ok condition =>
    rcases window?_cases compiler condition.kind with ⟨first, hwindow, hfails⟩ | ⟨window, hwindow⟩
    · obtain rfl : first = error := by
        simpa [compile, predicate, hcondition, hwindow, bind, Except.bind] using h
      exact hfails
    · cases hempty : condition.selectors.isEmpty with
      | true =>
        obtain rfl : RuleError.noSelectors = error := by
          simpa [compile, predicate, hcondition, hwindow, Predicate.build, hempty, bind,
            Except.bind] using h
        cases stops
      | false =>
        simp [compile, predicate, hcondition, hwindow, Predicate.build, hempty, bind,
          Except.bind, pure, Except.pure] at h

end Compiler
end SegmentRules

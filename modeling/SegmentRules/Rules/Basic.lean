import SegmentRules.Contact.Restriction
import SegmentRules.Rules.Compiler
import SegmentRules.Rules.Membership
import SegmentRules.Settings.Basic

/-! # Rules for segments and automations

Lists of filters restrict a query for many contacts, or are assessed for one. Both ways skip the
same filters. -/
namespace SegmentRules

open Commerce (Store)

structure Rules where
  compiler : Compiler
  schema : Schema
  deriving DecidableEq, Repr

structure Skipped where
  property : String
  reason : RuleError
  deriving DecidableEq, Repr

structure Assessment where
  passed : Bool
  diagnostics : List RuleError
  skipped : List Skipped
  deriving DecidableEq, Repr

namespace Rules

/-- The rules of valid settings. Gates are looked at here, once. -/
def new (settings : Settings) (gates : Gates) (now : Instant) : Except RuleError Rules := do
  settings.validate
  return ⟨⟨Catalog.new gates settings.commerceProvider, now, ← settings.utcOffset⟩,
    settings.schema⟩

def resolve [Store σ] (schema : Schema) (predicate : Commerce.Predicate) (store : σ) :
    Except RuleError IdentitySet × σ :=
  match Store.identities (.new schema predicate) store with
  | (.error error, store) => (.error (.lookupFailed error), store)
  | (.ok rows, store) => (.ok (.ofRows rows), store)

/-- Restrict a query by filters in turn. On an error the query keeps the restrictions of the filters
before it. -/
def apply [Store σ] (rules : Rules) : List Filter → ContactQuery → σ →
    Except RuleError Unit × ContactQuery × σ
  | [], query, store => (.ok (), query, store)
  | filter :: rest, query, store =>
    match rules.compiler.compile filter with
    | .error error =>
      if error.isSkippable then rules.apply rest query store else (.error error, query, store)
    | .ok compiled =>
      match resolve rules.schema compiled.predicate store with
      | (.error error, store) => (.error error, query, store)
      | (.ok identities, store) =>
        rules.apply rest
          (query.restrict rules.schema.contact compiled.condition.operator identities) store

def withFindings (diagnostics : List RuleError) (skipped : List Skipped) (rest : Assessment) :
    Assessment :=
  { rest with diagnostics := diagnostics ++ rest.diagnostics, skipped := skipped ++ rest.skipped }

/-- Assess a contact by filters in turn up to the first one it does not pass. If there is none, the
result is what was known before. -/
def assess [Store σ] (rules : Rules) (contact : Contact) (previous : Bool) :
    List Filter → σ → Except RuleError Assessment × σ
  | [], store => (.ok ⟨previous, [], []⟩, store)
  | filter :: rest, store =>
    match rules.compiler.compile filter with
    | .error error =>
      if error.isSkippable then
        let (result, store) := rules.assess contact previous rest store
        (result.map (withFindings [] [⟨filter.property, error⟩]), store)
      else (.error error, store)
    | .ok compiled =>
      match Membership.check rules.schema contact compiled.predicate store with
      | (.error error, store) => (.error error, store)
      | (.ok membership, store) =>
        let diagnostics := membership.ambiguity.toList
        if compiled.condition.operator.passes membership.isMember then
          let (result, store) := rules.assess contact previous rest store
          (result.map (withFindings diagnostics []), store)
        else (.ok ⟨false, diagnostics, []⟩, store)

end Rules
end SegmentRules

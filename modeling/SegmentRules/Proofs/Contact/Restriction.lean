import Mathlib.Logic.Basic
import SegmentRules.Contact.Restriction
import SegmentRules.Proofs.Contact.Identity

/-! # What a restriction keeps

Restrictions only add constraints that all have to hold, so a query restricted in turn keeps the
contacts that every single operator admits. -/
namespace SegmentRules

namespace IdentityColumns

def Distinct (columns : IdentityColumns) : Prop :=
  [columns.id, columns.accountId, columns.email].Nodup

instance (columns : IdentityColumns) : Decidable columns.Distinct :=
  inferInstanceAs (Decidable (List.Nodup _))

variable {columns : IdentityColumns} (contact : Contact)

theorem valueOf_id : columns.valueOf columns.id contact = some (.uint contact.id) := by
  simp [valueOf]

theorem valueOf_account (h : columns.Distinct) :
    columns.valueOf columns.accountId contact = contact.account.map .int := by
  have hne : columns.accountId ≠ columns.id := by simp_all [Distinct, eq_comm]
  simp [valueOf, hne]

theorem valueOf_email (h : columns.Distinct) :
    columns.valueOf columns.email contact = contact.email.map .text := by
  have hid : columns.email ≠ columns.id := by simp_all [Distinct, eq_comm]
  have haccount : columns.email ≠ columns.accountId := by simp_all [Distinct, eq_comm]
  simp [valueOf, hid, haccount]

end IdentityColumns

namespace Clause

variable {columns : IdentityColumns} {contact : Contact}

private theorem hold_behind_conjunction {clauses : List Clause}
    (h : ∀ clause ∈ clauses, clause.connector = .conj) (term : Bool) :
    holdsFrom columns contact term clauses =
      (term && clauses.all (·.holds columns contact)) := by
  induction clauses generalizing term with
  | nil => simp [holdsFrom]
  | cons clause rest ih =>
    have hconj : clause.connector = .conj := h clause (by simp)
    have hrest : ∀ clause ∈ rest, clause.connector = .conj :=
      fun clause hc => h clause (List.mem_cons_of_mem _ hc)
    rw [holdsFrom, hconj]
    simp only [ih hrest, List.all_cons, Bool.and_assoc]

theorem all_hold_of_conjoined {clauses : List Clause}
    (h : ∀ clause ∈ clauses, clause.connector = .conj) :
    allHold columns contact clauses = clauses.all (·.holds columns contact) := by
  cases clauses with
  | nil => simp [allHold]
  | cons clause rest =>
    rw [allHold, hold_behind_conjunction (fun clause hc => h clause (List.mem_cons_of_mem _ hc)),
      List.all_cons]

end Clause

/-- Whether a contact passes an operator, given the keys of those who were found. A null key is
not known to differ from anything: it passes no exclusion of keys. -/
def Operator.Admits (contact : Contact) (found : List IdentityRow) : Operator → Prop
  | .member => ∃ row ∈ found, contact.Shares row.account row.email
  | .nonMember => (∀ row ∈ found, ¬ contact.Shares row.account row.email) ∧
      (contact.account = none → ∀ row ∈ found, ¬ IsAccount row.account) ∧
      (contact.email = none → ∀ row ∈ found, ¬ IsEmail row.email)

def Step.connector : Step → Connector
  | .orWhereIn _ _ => .disj
  | _ => .conj

theorem Step.connector_clause? {step : Step} {clause : Clause} (h : step.clause? = some clause) :
    clause.connector = step.connector := by
  cases step with
  | group steps =>
    simp only [Step.clause?] at h
    split at h
    · cases h
    · cases h; rfl
  | _ => cases h; rfl

theorem mem_clausesOf {steps : List Step} {clause : Clause} :
    clause ∈ clausesOf steps ↔ ∃ step ∈ steps, step.clause? = some clause := by
  induction steps with
  | nil => simp [clausesOf]
  | cons step rest ih => simp [clausesOf, ih]

namespace IdentitySet

variable {columns : IdentityColumns} {contact : Contact}

theorem restriction_conjoined (operator : Operator) (set : IdentitySet) :
    ∀ clause ∈ clausesOf (set.restriction columns operator), clause.connector = .conj := by
  intro clause hc
  obtain ⟨step, hstep, hclause⟩ := mem_clausesOf.mp hc
  rw [Step.connector_clause? hclause]
  cases operator with
  | member =>
    simp only [restriction] at hstep
    split at hstep <;> simp_all [Step.connector]
  | nonMember =>
    simp only [restriction, exclusions, List.mem_append] at hstep
    rcases hstep with hstep | hstep <;> split at hstep <;> simp_all [Step.connector]

def accountTest (columns : IdentityColumns) (set : IdentitySet) : ColumnTest :=
  .anyOf columns.accountId (set.accounts.map .uint)

def emailTest (columns : IdentityColumns) (set : IdentitySet) : ColumnTest :=
  .anyOf columns.email (set.emails.map .text)

theorem alternatives_hold (columns : IdentityColumns) (contact : Contact) (set : IdentitySet)
    (h : set.isEmpty = false) :
    ∃ first rest, clausesOf (set.alternatives columns) = first :: rest ∧
      Clause.allHold columns contact (first :: rest) =
        ((set.accountTest columns).holds columns contact ||
          (set.emailTest columns).holds columns contact) := by
  obtain ⟨accounts, emails⟩ := set
  cases accounts with
  | nil =>
    cases emails with
    | nil => simp [isEmpty] at h
    | cons email emails =>
      refine ⟨.test .conj (.anyOf columns.email _), [], rfl, ?_⟩
      simp [Clause.allHold, Clause.holdsFrom, Clause.holds, ColumnTest.holds, accountTest,
        emailTest]
  | cons account accounts =>
    cases emails with
    | nil =>
      refine ⟨.test .conj (.anyOf columns.accountId _), [], rfl, ?_⟩
      simp [Clause.allHold, Clause.holdsFrom, Clause.holds, ColumnTest.holds, accountTest,
        emailTest]
    | cons email emails =>
      refine ⟨.test .conj (.anyOf columns.accountId _),
        [.test .disj (.anyOf columns.email _)], rfl, ?_⟩
      simp [Clause.allHold, Clause.holdsFrom, Clause.holds, accountTest, emailTest,
        Clause.connector]

theorem member_restriction_holds (set : IdentitySet) (h : set.isEmpty = false) :
    (clausesOf (set.restriction columns .member)).all (·.holds columns contact) =
      ((set.accountTest columns).holds columns contact ||
        (set.emailTest columns).holds columns contact) := by
  obtain ⟨first, rest, hclauses, hold⟩ := alternatives_hold columns contact set h
  simp [restriction, h, clausesOf, Step.clause?, hclauses, Clause.holds, hold]

theorem exclusion_restriction_holds (set : IdentitySet) :
    (clausesOf (set.restriction columns .nonMember)).all (·.holds columns contact) =
      ((ColumnTest.noneOf columns.accountId (set.accounts.map .uint)).holds columns contact &&
        (ColumnTest.noneOf columns.email (set.emails.map .text)).holds columns contact) := by
  obtain ⟨accounts, emails⟩ := set
  cases accounts <;> cases emails <;>
    simp [restriction, exclusions, clausesOf, Step.clause?, Clause.holds, ColumnTest.holds]

end IdentitySet

/-- What a test of one key column knows: the column holds the contact's key, and the values are
the keys of rows, those of them that identify someone. -/
structure KeyColumn (columns : IdentityColumns) (contact : Contact) (column : String)
    (values : List Sql.Value) (found : List (Option α)) (key : Option α)
    (Identifies : Option α → Prop) : Prop where
  null : key = none → columns.valueOf column contact = none
  present : ∀ x, key = some x → ∃ v, columns.valueOf column contact = some v ∧
    (values.any v.same = true ↔ ∃ k ∈ found, Identifies k ∧ k = some x)
  empty : values = [] ↔ ∀ k ∈ found, ¬ Identifies k
  null_unknown : ¬ Identifies none

namespace KeyColumn

variable {columns : IdentityColumns} {contact : Contact} {column : String}
  {values : List Sql.Value} {found : List (Option α)} {key : Option α}
  {Identifies : Option α → Prop}

theorem any_of_holds (h : KeyColumn columns contact column values found key Identifies) :
    (ColumnTest.anyOf column values).holds columns contact = true ↔
      ∃ k ∈ found, Identifies k ∧ key = k := by
  cases hkey : key with
  | none =>
    simp only [ColumnTest.holds, h.null hkey, Option.any_none, Bool.false_eq_true, false_iff]
    rintro ⟨k, _, hk, rfl⟩
    exact h.null_unknown hk
  | some x =>
    obtain ⟨v, hv, hsame⟩ := h.present x hkey
    simp only [ColumnTest.holds, hv, Option.any_some, hsame, eq_comm (a := some x)]

/-- An exclusion keeps the contacts with another key. One without a key stays only if there is
nothing to exclude. -/
theorem none_of_holds (h : KeyColumn columns contact column values found key Identifies) :
    (ColumnTest.noneOf column values).holds columns contact = true ↔
      (∀ k ∈ found, ¬ (Identifies k ∧ key = k)) ∧
        (key = none → ∀ k ∈ found, ¬ Identifies k) := by
  rw [ColumnTest.holds, Bool.or_eq_true, List.isEmpty_iff, h.empty]
  cases hkey : key with
  | none =>
    simp only [h.null hkey, Option.any_none, Bool.false_eq_true, or_false, true_implies]
    exact ⟨fun hnone => ⟨fun k hk hi => hnone k hk hi.1, hnone⟩, And.right⟩
  | some x =>
    obtain ⟨v, hv, hsame⟩ := h.present x hkey
    simp only [hv, Option.any_some, Bool.not_eq_true', ← Bool.not_eq_true, hsame, reduceCtorEq,
      false_implies, and_true]
    constructor
    · rintro (hnone | hnot) k hk ⟨hi, hx⟩
      · exact hnone k hk hi
      · exact hnot ⟨k, hk, hi, hx.symm⟩
    · rintro hnot
      exact .inr fun ⟨k, hk, hi, hx⟩ => hnot k hk ⟨hi, hx.symm⟩

end KeyColumn

namespace IdentitySet

variable {columns : IdentityColumns} {contact : Contact}

theorem account_column (contact : Contact) (rows : List IdentityRow) (h : columns.Distinct) :
    KeyColumn columns contact columns.accountId ((ofRows rows).accounts.map .uint)
      (rows.map IdentityRow.account) contact.account IsAccount where
  null hkey := by simp [IdentityColumns.valueOf_account contact h, hkey]
  present x hkey :=
    ⟨.int x, by simp [IdentityColumns.valueOf_account contact h, hkey], by
      simp only [any_same_accounts, List.mem_map, exists_exists_and_eq_and]⟩
  empty := by simp [accounts_ofRows_eq_nil]
  null_unknown := by simp [IsAccount]

theorem email_column (contact : Contact) (rows : List IdentityRow) (h : columns.Distinct) :
    KeyColumn columns contact columns.email ((ofRows rows).emails.map .text)
      (rows.map IdentityRow.email) contact.email IsEmail where
  null hkey := by simp [IdentityColumns.valueOf_email contact h, hkey]
  present x hkey :=
    ⟨.text x, by simp [IdentityColumns.valueOf_email contact h, hkey], by
      simp only [any_same_emails, List.mem_map, exists_exists_and_eq_and]⟩
  empty := by simp [emails_ofRows_eq_nil]
  null_unknown := by simp [IsEmail]

theorem restriction_admits {rows : List IdentityRow} (h : columns.Distinct)
    (known : contact.id ≠ impossibleId) (operator : Operator) :
    (clausesOf ((ofRows rows).restriction columns operator)).all (·.holds columns contact) = true ↔
      operator.Admits contact rows := by
  have haccount := account_column contact rows h
  have hemail := email_column contact rows h
  cases operator with
  | member =>
    cases hempty : (ofRows rows).isEmpty with
    | true =>
      have hnone : (∀ row ∈ rows, ¬ IsAccount row.account) ∧ ∀ row ∈ rows, ¬ IsEmail row.email := by
        simpa [isEmpty, accounts_ofRows_eq_nil, emails_ofRows_eq_nil] using hempty
      have hnobody : ¬ Operator.Admits contact rows .member := by
        rintro ⟨row, hrow, ⟨hi, _⟩ | ⟨hi, _⟩⟩
        · exact hnone.1 row hrow hi
        · exact hnone.2 row hrow hi
      simpa [restriction, hempty, clausesOf, Step.clause?, Clause.holds, ColumnTest.holds,
        IdentityColumns.valueOf_id, Sql.Value.same, hnobody] using known
    | false =>
      rw [member_restriction_holds _ hempty, Bool.or_eq_true, accountTest, emailTest,
        haccount.any_of_holds, hemail.any_of_holds]
      simp only [Operator.Admits, Contact.Shares, List.mem_map, exists_exists_and_eq_and,
        and_or_left, exists_or]
  | nonMember =>
    rw [exclusion_restriction_holds, Bool.and_eq_true, haccount.none_of_holds,
      hemail.none_of_holds]
    simp only [Operator.Admits, Contact.Shares, List.forall_mem_map, not_or, forall_and]
    exact and_and_and_comm

end IdentitySet
end SegmentRules

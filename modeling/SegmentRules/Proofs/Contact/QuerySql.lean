import SegmentRules.Contact.Query
import SegmentRules.Proofs.Contact.Restriction
import SegmentRules.Proofs.Sql.Phrase

/-! # The SQL of recorded queries

A recorded query means the same as text for a database and as a test in memory. Both are compared
with the formula its clauses stand for. -/
namespace SegmentRules

open Settings (isIdentifier)
open Sql (Formula IsBody IsTail Reading Row Slot Truth)

/-! ## Steps and clauses -/

def ColumnTest.column : ColumnTest → String
  | .anyOf column _ => column
  | .noneOf column _ => column
  | .equals column _ => column

inductive Step.Named : Step → Prop
  | whereIn {column values} (h : isIdentifier column = true) : (whereIn column values).Named
  | orWhereIn {column values} (h : isIdentifier column = true) : (orWhereIn column values).Named
  | whereNotIn {column values} (h : isIdentifier column = true) : (whereNotIn column values).Named
  | whereEq {column value} (h : isIdentifier column = true) : (whereEq column value).Named
  | group {steps} (h : ∀ step ∈ steps, step.Named) : (group steps).Named

/-- No group is empty, and all columns have safe names. -/
inductive Clause.WellFormed : Clause → Prop
  | test {connector check} (h : isIdentifier check.column = true) :
      (test connector check).WellFormed
  | group {connector clauses} (nonempty : clauses ≠ [])
      (h : ∀ clause ∈ clauses, clause.WellFormed) : (group connector clauses).WellFormed

theorem Step.Named.wellFormed {step : Step} (named : step.Named) :
    ∀ clause, step.clause? = some clause → clause.WellFormed := by
  induction named with
  | whereIn h | orWhereIn h | whereNotIn h | whereEq h =>
    intro clause hclause
    obtain rfl := Option.some.inj hclause
    exact .test h
  | @group steps named ih =>
    intro clause hclause
    have hall : ∀ clause ∈ clausesOf steps, clause.WellFormed := by
      intro clause hc
      obtain ⟨step, hstep, hsome⟩ := mem_clausesOf.mp hc
      exact ih step hstep clause hsome
    rw [Step.clause?] at hclause
    cases hclauses : clausesOf steps with
    | nil => simp [hclauses] at hclause
    | cons first rest =>
      obtain rfl : .group .conj (first :: rest) = clause := by simpa [hclauses] using hclause
      exact .group (by simp) (hclauses ▸ hall)

theorem clausesOf_wellFormed {steps : List Step} (named : ∀ step ∈ steps, step.Named) :
    ∀ clause ∈ clausesOf steps, clause.WellFormed := by
  intro clause hc
  obtain ⟨step, hstep, hsome⟩ := mem_clausesOf.mp hc
  exact (named step hstep).wellFormed clause hsome

/-! ## The formula of a query -/

def ColumnTest.formula : ColumnTest → Formula
  | .anyOf column values =>
    if values.isEmpty then .constant false else .among ⟨none, column⟩ values
  | .noneOf column values =>
    if values.isEmpty then .constant true else .notAmong ⟨none, column⟩ values
  | .equals column value => .compare ⟨none, column⟩ .equal value

def Connector.slot : Connector → Reading → Slot
  | .conj => Reading.conj
  | .disj => Reading.disj

namespace Clause

mutual

def formula : Clause → Formula
  | .test _ check => check.formula
  | .group _ clauses => formulaOf clauses

def formulaOf : List Clause → Formula
  | [] => .constant true
  | clause :: rest => (readingFrom ⟨none, clause.formula⟩ rest).formula

def readingFrom (reading : Reading) : List Clause → Reading
  | [] => reading
  | clause :: rest => readingFrom ((clause.connector.slot reading).fill clause.formula) rest

end
end Clause

/-! ## The text is read as the formula -/

theorem ColumnTest.reads {check : ColumnTest} (h : isIdentifier check.column = true) :
    IsBody check.sql check.params (·.fill check.formula) := by
  cases check with
  | anyOf name values =>
    by_cases hempty : values = []
    · subst hempty
      simpa [sql, params, formula] using Sql.isBody_constant false
    · have hbody := (Sql.isColumn_name h).membership false hempty
      simpa [sql, params, formula, hempty, column] using hbody
  | noneOf name values =>
    by_cases hempty : values = []
    · subst hempty
      simpa [sql, params, formula] using Sql.isBody_constant true
    · have hbody := (Sql.isColumn_name h).membership true hempty
      simpa [sql, params, formula, hempty, column] using hbody
  | equals name value => exact (Sql.isColumn_name h).compare .equal value

namespace Clause

theorem rest_reads {clauses : List Clause}
    (h : ∀ clause ∈ clauses, IsBody clause.sql clause.params (·.fill clause.formula)) :
    IsTail (restSql clauses) (allParams clauses) (readingFrom · clauses) := by
  induction clauses with
  | nil => simpa [restSql, allParams, readingFrom, Function.id_def] using Sql.isTail_empty
  | cons clause rest ih =>
    obtain ⟨hclause, hrest⟩ := List.forall_mem_cons.mp h
    have htail := ih hrest
    rw [restSql, allParams]
    cases hconnector : clause.connector with
    | conj =>
      simpa [Connector.sql, readingFrom, hconnector, Connector.slot, Function.comp_def] using
        hclause.conj.append htail
    | disj =>
      simpa [Connector.sql, readingFrom, hconnector, Connector.slot, Function.comp_def] using
        hclause.disj.append htail

theorem all_reads {first : Clause} {rest : List Clause}
    (h : ∀ clause ∈ first :: rest, IsBody clause.sql clause.params (·.fill clause.formula)) :
    IsBody (allSql (first :: rest)) (allParams (first :: rest))
      (fun slot => readingFrom (slot.fill first.formula) rest) := by
  obtain ⟨hfirst, hrest⟩ := List.forall_mem_cons.mp h
  rw [allSql, allParams]
  exact hfirst.append (rest_reads hrest)

theorem WellFormed.reads {clause : Clause} (h : clause.WellFormed) :
    IsBody clause.sql clause.params (·.fill clause.formula) := by
  induction h with
  | test h => simpa [sql, params, formula] using ColumnTest.reads h
  | @group connector clauses nonempty _ ih =>
    cases clauses with
    | nil => exact absurd rfl nonempty
    | cons first rest => simpa [sql, params, formula, formulaOf] using (all_reads ih).group

end Clause

/-! ## The formula is true of the contacts that the query accepts -/

/-- A contact as a row of a table with these columns; of equal names the first one counts. -/
def Contact.row (contact : Contact) (columns : IdentityColumns) : Row := fun column =>
  match column.table with
  | some _ => none
  | none => ([(columns.id, some (.integer contact.id.toNat)),
      (columns.accountId, contact.account.map fun id => .integer id.toInt),
      (columns.email, contact.email.map .text)].lookup column.name).join

section Truth

variable {columns : IdentityColumns} {contact : Contact}

theorem Contact.row_apply (column : String) :
    contact.row columns ⟨none, column⟩ = (columns.valueOf column contact).map Sql.Value.datum := by
  by_cases hid : column = columns.id
  · simp [row, IdentityColumns.valueOf, hid, Sql.Value.datum]
  have hid' : (column == columns.id) = false := beq_false_of_ne hid
  by_cases haccount : column = columns.accountId
  · subst haccount
    simp [row, IdentityColumns.valueOf, hid, List.lookup_cons, hid', Function.comp_def,
      Sql.Value.datum]
  have haccount' : (column == columns.accountId) = false := beq_false_of_ne haccount
  by_cases hemail : column = columns.email
  · subst hemail
    simp [row, IdentityColumns.valueOf, hid, haccount, List.lookup_cons, hid', haccount',
      Function.comp_def, Sql.Value.datum]
  have hemail' : (column == columns.email) = false := beq_false_of_ne hemail
  simp [row, IdentityColumns.valueOf, hid, haccount, hemail, List.lookup_cons, hid', haccount',
    hemail']

theorem Contact.compare_null {column : String} (h : columns.valueOf column contact = none)
    (value : Sql.Value) :
    (contact.row columns).compare ⟨none, column⟩ .equal value = .unknown :=
  Row.compare_null (by rw [row_apply, h]; rfl) .equal value

theorem Contact.compare_value {column : String} {held : Sql.Value}
    (h : columns.valueOf column contact = some held) (value : Sql.Value) :
    (contact.row columns).compare ⟨none, column⟩ .equal value = .ofBool (held.same value) :=
  Row.compare_equal_datum (by rw [row_apply, h]; rfl) value

theorem ColumnTest.truth_iff (check : ColumnTest) :
    check.formula.truth (contact.row columns) = .yes ↔ check.holds columns contact = true := by
  cases check with
  | anyOf column values =>
    cases values with
    | nil => simp [formula, Formula.truth, holds]
    | cons value rest =>
      rw [formula, List.isEmpty_cons, if_neg Bool.false_ne_true, Formula.truth,
        Row.among_eq_yes, holds]
      cases hvalue : columns.valueOf column contact with
      | none => simp [Contact.compare_null hvalue]
      | some held => simp [Contact.compare_value hvalue]
  | noneOf column values =>
    cases values with
    | nil => simp [formula, Formula.truth, holds]
    | cons value rest =>
      rw [formula, List.isEmpty_cons, if_neg Bool.false_ne_true, Formula.truth,
        Truth.not_eq_yes, Row.among_eq_no, holds]
      cases hvalue : columns.valueOf column contact with
      | none =>
        refine iff_of_false (fun hall => ?_) (by simp)
        simpa [Contact.compare_null hvalue] using hall value (by simp)
      | some held => simp [Contact.compare_value hvalue]
  | equals column value =>
    rw [formula, Formula.truth, holds]
    cases hvalue : columns.valueOf column contact with
    | none => simp [Contact.compare_null hvalue]
    | some held => simp [Contact.compare_value hvalue]

namespace Clause

theorem readingFrom_truth {clauses : List Clause}
    (h : ∀ clause ∈ clauses, clause.formula.truth (contact.row columns) = .yes ↔
      clause.holds columns contact = true)
    {reading : Reading} {term : Bool}
    (hterm : reading.term.truth (contact.row columns) = .yes ↔ term = true) :
    (readingFrom reading clauses).formula.truth (contact.row columns) = .yes ↔
      (∃ formula ∈ reading.alternatives, formula.truth (contact.row columns) = .yes) ∨
        holdsFrom columns contact term clauses = true := by
  -- The reader keeps the alternatives apart and the test in memory has only the running term, so
  -- the term stands for the last alternative alone.
  induction clauses generalizing reading term with
  | nil => rw [readingFrom, Reading.formula_eq_yes, holdsFrom, hterm]
  | cons clause rest ih =>
    obtain ⟨hclause, hrest⟩ := List.forall_mem_cons.mp h
    rw [readingFrom, holdsFrom]
    cases hconnector : clause.connector with
    | conj =>
      have hboth : ((Connector.slot .conj reading).fill clause.formula).term.truth
          (contact.row columns) = .yes ↔ (term && clause.holds columns contact) = true := by
        simp [Connector.slot, Reading.conj, Slot.fill, Formula.truth, hterm, hclause]
      exact ih hrest hboth
    | disj =>
      have hlast : ((Connector.slot .disj reading).fill clause.formula).term.truth
          (contact.row columns) = .yes ↔ clause.holds columns contact = true := hclause
      rw [ih hrest hlast]
      simp [Connector.slot, Reading.disj, Slot.fill, Reading.formula_eq_yes, hterm, or_assoc]

theorem formulaOf_truth {clauses : List Clause}
    (h : ∀ clause ∈ clauses, clause.formula.truth (contact.row columns) = .yes ↔
      clause.holds columns contact = true) :
    (formulaOf clauses).truth (contact.row columns) = .yes ↔
      allHold columns contact clauses = true := by
  cases clauses with
  | nil => simp [formulaOf, allHold, Formula.truth]
  | cons first rest =>
    obtain ⟨hfirst, hrest⟩ := List.forall_mem_cons.mp h
    rw [formulaOf, allHold, readingFrom_truth hrest hfirst]
    simp

theorem WellFormed.truth_iff {clause : Clause} (h : clause.WellFormed) :
    clause.formula.truth (contact.row columns) = .yes ↔ clause.holds columns contact = true := by
  induction h with
  | @test connector check _ => simpa [formula, holds] using check.truth_iff
  | group _ _ ih => simpa [formula, holds] using formulaOf_truth ih

end Clause
end Truth

namespace ContactQuery

/-- The text of a recorded query has a value for each placeholder, and is read as a formula that
is true of exactly the contacts the query accepts. No recorded group is empty. -/
theorem toSql_selects_accepted (columns : IdentityColumns) (steps : List Step)
    (named : ∀ step ∈ steps, step.Named) :
    (∀ clause ∈ ((new columns).extend steps).clauses, clause.WellFormed) ∧
      ((new columns).extend steps).toSql.placeholderCount =
        ((new columns).extend steps).toSql.params.length ∧
      ∃ formula, ((new columns).extend steps).toSql.formula? = some formula ∧
        ∀ contact : Contact, formula.truth (contact.row columns) = .yes ↔
          ((new columns).extend steps).accepts contact = true := by
  have hclauses : ∀ clause ∈ clausesOf steps, clause.WellFormed := clausesOf_wellFormed named
  have hread : ((new columns).extend steps).toSql.formula? =
      some (Clause.formulaOf (clausesOf steps)) := by
    cases h : clausesOf steps with
    | nil => simp [extend, new, toSql, h, Clause.allSql, Clause.allParams, Clause.formulaOf,
        Sql.Fragment.formula?]
    | cons first rest =>
      have hbody := (Clause.all_reads fun clause hc => (hclauses clause (h ▸ hc)).reads).formula?
      simpa [extend, new, toSql, h, Clause.formulaOf] using hbody
  refine ⟨by simpa [extend, new] using hclauses, Sql.placeholderCount_of_formula? hread, _,
    hread, fun contact => ?_⟩
  rw [Clause.formulaOf_truth fun clause hc => (hclauses clause hc).truth_iff]
  simp [accepts, extend, new]

def nestedSteps : List Step :=
  [.whereIn "id" [.uint 1, .int 2],
    .group [.whereEq "email" (.text "a@example.com"), .group [], .orWhereIn "user_id" [.uint 5],
      .group [.orWhereIn "id" [], .whereNotIn "user_id" []]]]

theorem toSql_selects_nested :
    ∃ formula, ((new .standard).extend nestedSteps).toSql.formula? = some formula ∧
      ∀ contact : Contact, formula.truth (contact.row .standard) = .yes ↔
        ((new .standard).extend nestedSteps).accepts contact = true := by
  have hlast : (Step.group [.orWhereIn "id" [], .whereNotIn "user_id" []]).Named := by
    refine .group (List.forall_mem_cons.mpr ⟨.orWhereIn ?_, List.forall_mem_singleton.mpr
      (.whereNotIn ?_)⟩) <;> decide
  have hnamed : ∀ step ∈ nestedSteps, step.Named := by
    refine List.forall_mem_cons.mpr ⟨.whereIn (by decide), List.forall_mem_singleton.mpr ?_⟩
    refine .group (List.forall_mem_cons.mpr ⟨.whereEq (by decide), ?_⟩)
    refine List.forall_mem_cons.mpr ⟨.group (by simp), ?_⟩
    exact List.forall_mem_cons.mpr ⟨.orWhereIn (by decide), List.forall_mem_singleton.mpr hlast⟩
  exact (toSql_selects_accepted .standard nestedSteps hnamed).2.2

end ContactQuery
end SegmentRules

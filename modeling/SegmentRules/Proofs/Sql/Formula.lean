import SegmentRules.Proofs.Calendar.Binding
import SegmentRules.Sql.Value

/-! # Formulas and their truth

The condition of a query is a formula on rows. With null values it is true, false or unknown, and
only rows it is true of are selected. -/
namespace SegmentRules.Sql

inductive Truth
  | no
  | unknown
  | yes
  deriving DecidableEq, Repr

namespace Truth

def ofBool (b : Bool) : Truth := if b then yes else no

def and : Truth → Truth → Truth
  | no, _ => no
  | _, no => no
  | yes, yes => yes
  | _, _ => unknown

def or : Truth → Truth → Truth
  | yes, _ => yes
  | _, yes => yes
  | no, no => no
  | _, _ => unknown

def not : Truth → Truth
  | no => yes
  | unknown => unknown
  | yes => no

variable {a b : Truth}

@[simp] theorem and_eq_yes : a.and b = yes ↔ a = yes ∧ b = yes := by
  cases a <;> cases b <;> decide

@[simp] theorem or_eq_yes : a.or b = yes ↔ a = yes ∨ b = yes := by
  cases a <;> cases b <;> decide

@[simp] theorem or_eq_no : a.or b = no ↔ a = no ∧ b = no := by
  cases a <;> cases b <;> decide

@[simp] theorem not_eq_yes : a.not = yes ↔ a = no := by
  cases a <;> decide

@[simp] theorem ofBool_eq_yes {p : Bool} : ofBool p = yes ↔ p = true := by
  cases p <;> decide

@[simp] theorem ofBool_eq_no {p : Bool} : ofBool p = no ↔ p = false := by
  cases p <;> decide

end Truth

/-- What a column of a row holds, if it is not null. -/
inductive Datum
  | integer (value : Int)
  | text (value : String)
  | time (value : Timestamp)
  deriving DecidableEq, Repr

/-- Bound integers have no width. -/
def Value.datum : Value → Datum
  | .int value => .integer value.toInt
  | .uint value => .integer value.toNat
  | .text value => .text value

/-- A bound value beside what a column holds; beside a time a text denotes one. -/
def Value.beside? : Datum → Value → Option Datum
  | .time _, .text written => (Timestamp.ofBindingText? written).map .time
  | _, value => some value.datum

/-- The order of data of one type; there is none between types. -/
def Datum.le? : Datum → Datum → Option Bool
  | .integer a, .integer b => some (a ≤ b)
  | .text a, .text b => some (a ≤ b)
  | .time a, .time b => some (a.le b)
  | _, _ => none

inductive Comparison
  | equal
  | atLeast
  | atMost
  deriving DecidableEq, Repr

def Comparison.holds? : Comparison → Datum → Datum → Option Bool
  | .equal, a, b => some (a == b)
  | .atLeast, a, b => b.le? a
  | .atMost, a, b => a.le? b

/-- A column, of the table with an alias if it has one in front. -/
structure Column where
  table : Option String
  name : String
  deriving DecidableEq, Repr

/-- The data of a row. Null columns and unknown ones hold none. -/
abbrev Row := Column → Option Datum

namespace Row

def compare (row : Row) (column : Column) (comparison : Comparison) (value : Value) : Truth :=
  match row column with
  | none => .unknown
  | some datum =>
    match (value.beside? datum).bind (comparison.holds? datum) with
    | none => .unknown
    | some holds => .ofBool holds

/-- Membership in a list is equality with one of its values. -/
def among (row : Row) (column : Column) : List Value → Truth
  | [] => .no
  | value :: rest => (row.compare column .equal value).or (row.among column rest)

end Row

inductive Formula
  | constant (value : Bool)
  | compare (column : Column) (comparison : Comparison) (value : Value)
  | among (column : Column) (values : List Value)
  | notAmong (column : Column) (values : List Value)
  | both (a b : Formula)
  | either (a b : Formula)
  deriving DecidableEq, Repr

def Formula.truth (row : Row) : Formula → Truth
  | .constant value => .ofBool value
  | .compare column comparison value => row.compare column comparison value
  | .among column values => row.among column values
  | .notAmong column values => (row.among column values).not
  | .both a b => (a.truth row).and (b.truth row)
  | .either a b => (a.truth row).or (b.truth row)

namespace Row

variable {row : Row} {column : Column}

theorem among_eq_yes {values : List Value} :
    row.among column values = .yes ↔ ∃ v ∈ values, row.compare column .equal v = .yes := by
  induction values with
  | nil => simp [among]
  | cons v rest ih => simp [among, ih]

theorem among_eq_no {values : List Value} :
    row.among column values = .no ↔ ∀ v ∈ values, row.compare column .equal v = .no := by
  induction values with
  | nil => simp [among]
  | cons v rest ih => simp [among, ih]

theorem compare_null (h : row column = none) (comparison : Comparison) (value : Value) :
    row.compare column comparison value = .unknown := by
  simp [compare, h]

end Row

theorem Value.same_iff {a b : Value} : a.same b = true ↔ a.datum = b.datum := by
  cases a with
  | int a =>
    cases b <;> simp [same, datum, Int64.toInt_inj]
  | uint a =>
    cases b with
    | int b => simp [same, datum, eq_comm (a := b.toInt)]
    | uint b =>
      simp only [same, datum, Datum.integer.injEq, beq_iff_eq, uint.injEq, ← UInt64.toNat_inj]
      omega
    | text b => simp [same, datum]
  | text a => cases b <;> simp [same, datum]

theorem Row.compare_equal_datum {row : Row} {column : Column} {held : Value}
    (h : row column = some held.datum) (value : Value) :
    row.compare column .equal value = .ofBool (held.same value) := by
  have hbeside : value.beside? held.datum = some value.datum := by
    cases held <;> cases value <;> rfl
  have hsame : (held.datum == value.datum) = held.same value := by
    rw [Bool.eq_iff_iff, Value.same_iff, beq_iff_eq]
  simp [compare, h, hbeside, Comparison.holds?, hsame]

end SegmentRules.Sql

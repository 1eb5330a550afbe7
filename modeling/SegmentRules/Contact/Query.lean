import SegmentRules.Contact.Identity
import SegmentRules.Schema
import SegmentRules.Sql.Fragment

/-! # Queries for contacts

A query records its constraints. It can be written as SQL, and it can be asked about one contact. -/
namespace SegmentRules

/-- How a clause joins those before it; AND binds tighter. -/
inductive Connector
  | conj
  | disj
  deriving DecidableEq, Inhabited, Repr

inductive ColumnTest
  | anyOf (column : String) (values : List Sql.Value)
  | noneOf (column : String) (values : List Sql.Value)
  | equals (column : String) (value : Sql.Value)
  deriving DecidableEq, Repr

/-- A constraint with the connector before it, which counts for nothing on the first one. -/
inductive Clause
  | test (connector : Connector) (test : ColumnTest)
  | group (connector : Connector) (clauses : List Clause)
  deriving Inhabited, Repr

structure ContactQuery where
  columns : IdentityColumns
  clauses : List Clause
  deriving Repr

inductive Step
  | whereIn (column : String) (values : List Sql.Value)
  | orWhereIn (column : String) (values : List Sql.Value)
  | whereNotIn (column : String) (values : List Sql.Value)
  | whereEq (column : String) (value : Sql.Value)
  | group (steps : List Step)
  deriving Inhabited, Repr

mutual

/-- The clause a step adds. A group without clauses adds none. -/
def Step.clause? : Step → Option Clause
  | .whereIn column values => some (.test .conj (.anyOf column values))
  | .orWhereIn column values => some (.test .disj (.anyOf column values))
  | .whereNotIn column values => some (.test .conj (.noneOf column values))
  | .whereEq column value => some (.test .conj (.equals column value))
  | .group steps =>
    match clausesOf steps with
    | [] => none
    | clauses => some (.group .conj clauses)

def clausesOf : List Step → List Clause
  | [] => []
  | step :: rest => step.clause?.toList ++ clausesOf rest

end

/-- The value of a column for a contact; null for a missing value or an unknown column. Of equal
column names the id goes first, then the account. -/
def IdentityColumns.valueOf (columns : IdentityColumns) (column : String) (contact : Contact) :
    Option Sql.Value :=
  if column = columns.id then some (.uint contact.id)
  else if column = columns.accountId then contact.account.map .int
  else if column = columns.email then contact.email.map .text
  else none

namespace ColumnTest

/-- Whether the test is true of a contact. Of null only the empty exclusion is true. -/
def holds (columns : IdentityColumns) (contact : Contact) : ColumnTest → Bool
  | .anyOf column values => (columns.valueOf column contact).any fun v => values.any v.same
  | .noneOf column values =>
    values.isEmpty || (columns.valueOf column contact).any fun v => !values.any v.same
  | .equals column value => (columns.valueOf column contact).any (·.same value)

/-- The test as SQL; a list without values is decided at once. -/
def sql : ColumnTest → String
  | .anyOf column values =>
    if values.isEmpty then "0 = 1" else column ++ " IN (" ++ Sql.placeholders values.length ++ ")"
  | .noneOf column values =>
    if values.isEmpty then "1 = 1"
    else column ++ " NOT IN (" ++ Sql.placeholders values.length ++ ")"
  | .equals column _ => column ++ " = ?"

def params : ColumnTest → List Sql.Value
  | .anyOf _ values => values
  | .noneOf _ values => values
  | .equals _ value => [value]

end ColumnTest

def Connector.sql : Connector → String
  | .conj => " AND "
  | .disj => " OR "

namespace Clause

def connector : Clause → Connector
  | .test connector _ => connector
  | .group connector _ => connector

mutual

def holds (columns : IdentityColumns) (contact : Contact) : Clause → Bool
  | .test _ check => check.holds columns contact
  | .group _ clauses => allHold columns contact clauses

/-- Whether clauses together are true of a contact; no clauses are. -/
def allHold (columns : IdentityColumns) (contact : Contact) : List Clause → Bool
  | [] => true
  | clause :: rest => holdsFrom columns contact (clause.holds columns contact) rest

/-- Whether clauses are true behind a conjunction with the given value. -/
def holdsFrom (columns : IdentityColumns) (contact : Contact) (term : Bool) : List Clause → Bool
  | [] => term
  | clause :: rest =>
    match clause.connector with
    | .conj => holdsFrom columns contact (term && clause.holds columns contact) rest
    | .disj => term || holdsFrom columns contact (clause.holds columns contact) rest

end

mutual

def sql : Clause → String
  | .test _ check => check.sql
  | .group _ clauses => "(" ++ allSql clauses ++ ")"

def allSql : List Clause → String
  | [] => ""
  | clause :: rest => clause.sql ++ restSql rest

def restSql : List Clause → String
  | [] => ""
  | clause :: rest => clause.connector.sql ++ clause.sql ++ restSql rest

end

mutual

def params : Clause → List Sql.Value
  | .test _ check => check.params
  | .group _ clauses => allParams clauses

def allParams : List Clause → List Sql.Value
  | [] => []
  | clause :: rest => clause.params ++ allParams rest

end
end Clause

namespace ContactQuery

def new (columns : IdentityColumns) : ContactQuery := ⟨columns, []⟩

def extend (query : ContactQuery) (steps : List Step) : ContactQuery :=
  { query with clauses := query.clauses ++ clausesOf steps }

def isUnconstrained (query : ContactQuery) : Bool := query.clauses.isEmpty

/-- The body of the condition; empty if every contact is wanted. -/
def toSql (query : ContactQuery) : Sql.Fragment :=
  ⟨Clause.allSql query.clauses, Clause.allParams query.clauses⟩

def accepts (query : ContactQuery) (contact : Contact) : Bool :=
  Clause.allHold query.columns contact query.clauses

def select (query : ContactQuery) (contacts : List Contact) : List Contact :=
  contacts.filter query.accepts

end ContactQuery
end SegmentRules

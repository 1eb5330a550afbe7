import SegmentRules.Contact.Restriction

/-! # The text of restricted queries

The text of a query is put together from the connectors and the texts of its clauses, and a
restriction adds clauses whose texts do not depend on the members of its set. -/
namespace SegmentRules

namespace Clause

def piece (clause : Clause) : Connector × String := (clause.connector, clause.sql)

theorem restSql_congr {a b : List Clause} (h : a.map piece = b.map piece) :
    restSql a = restSql b := by
  induction a generalizing b with
  | nil =>
    obtain rfl := List.map_eq_nil_iff.mp h.symm
    rfl
  | cons first rest ih =>
    cases b with
    | nil => cases h
    | cons other others =>
      obtain ⟨hfirst, hrest⟩ := List.cons.inj h
      obtain ⟨hconnector, hsql⟩ := Prod.mk.inj hfirst
      rw [restSql, restSql, hconnector, hsql, ih hrest]

theorem allSql_congr {a b : List Clause} (h : a.map piece = b.map piece) :
    allSql a = allSql b := by
  cases a with
  | nil =>
    obtain rfl := List.map_eq_nil_iff.mp h.symm
    rfl
  | cons first rest =>
    cases b with
    | nil => cases h
    | cons other others =>
      obtain ⟨hfirst, hrest⟩ := List.cons.inj h
      rw [allSql, allSql, (Prod.mk.inj hfirst).2, restSql_congr hrest]

end Clause

namespace IdentitySet

def size (set : IdentitySet) : Nat × Nat := (set.accounts.length, set.emails.length)

theorem restriction_pieces {s t : IdentitySet} (h : s.size = t.size) (columns : IdentityColumns)
    (operator : Operator) :
    (clausesOf (s.restriction columns operator)).map Clause.piece =
      (clausesOf (t.restriction columns operator)).map Clause.piece := by
  obtain ⟨accounts, emails⟩ := s
  obtain ⟨accounts', emails'⟩ := t
  obtain ⟨haccounts, hemails⟩ := Prod.mk.inj h
  cases accounts <;> cases accounts' <;> cases emails <;> cases emails' <;> cases operator <;>
    simp_all [restriction, alternatives, exclusions, isEmpty, clausesOf, Step.clause?,
      Clause.piece, Clause.connector, Clause.sql, Clause.allSql, Clause.restSql, ColumnTest.sql]

end IdentitySet

namespace ContactQuery

def restrictAll (query : ContactQuery) (columns : IdentityColumns)
    (restrictions : List (Operator × IdentitySet)) : ContactQuery :=
  restrictions.foldl (fun query (operator, set) => query.restrict columns operator set) query

theorem restrictAll_pieces {columns : IdentityColumns} {a b : List (Operator × IdentitySet)}
    (h : a.map (Prod.map id IdentitySet.size) = b.map (Prod.map id IdentitySet.size))
    {query other : ContactQuery}
    (same : query.clauses.map Clause.piece = other.clauses.map Clause.piece) :
    (query.restrictAll columns a).clauses.map Clause.piece =
      (other.restrictAll columns b).clauses.map Clause.piece := by
  induction a generalizing b query other with
  | nil =>
    obtain rfl := List.map_eq_nil_iff.mp h.symm
    exact same
  | cons first rest ih =>
    cases b with
    | nil => cases h
    | cons first' rest' =>
      obtain ⟨hfirst, hrest⟩ := List.cons.inj h
      obtain ⟨hoperator, hsize⟩ := Prod.mk.inj hfirst
      refine ih hrest ?_
      obtain ⟨operator, set⟩ := first
      obtain ⟨operator', set'⟩ := first'
      obtain rfl : operator = operator' := hoperator
      simp only [restrict, extend, List.map_append, same,
        IdentitySet.restriction_pieces hsize columns operator]

theorem restrictAll_sql {columns : IdentityColumns} {a b : List (Operator × IdentitySet)}
    (h : a.map (Prod.map id IdentitySet.size) = b.map (Prod.map id IdentitySet.size))
    (query : ContactQuery) :
    (query.restrictAll columns a).toSql.sql = (query.restrictAll columns b).toSql.sql :=
  Clause.allSql_congr (restrictAll_pieces h rfl)

end ContactQuery
end SegmentRules

import SegmentRules.Proofs.Contact.Restriction
import SegmentRules.Proofs.Contact.RestrictionText

/-! # Alternatives of a query

The ORs at the top of a query separate conjunctions. Clauses joined by AND enter the last one and
leave the others alone; entering twice is as good as entering once. -/
namespace SegmentRules

/-- Conjunctions separated by ORs: those that are complete and the last one, which is still open. -/
structure Alternatives where
  complete : List (List Clause)
  last : List Clause

namespace Alternatives

def hold (columns : IdentityColumns) (contact : Contact) (alternatives : Alternatives) : Bool :=
  alternatives.complete.any (·.all (·.holds columns contact)) ||
    alternatives.last.all (·.holds columns contact)

/-- One more clause joins the last conjunction, or completes it and starts another one. -/
def add (alternatives : Alternatives) (clause : Clause) : Alternatives :=
  match clause.connector with
  | .conj => ⟨alternatives.complete, alternatives.last ++ [clause]⟩
  | .disj => ⟨alternatives.complete ++ [alternatives.last], [clause]⟩

/-- The conjunctions of clauses in their order. The connector of the first one does not count. -/
def ofClauses : List Clause → Alternatives
  | [] => ⟨[], []⟩
  | clause :: rest => rest.foldl add ⟨[], [clause]⟩

variable {columns : IdentityColumns} {contact : Contact}

theorem foldl_add_conjoined {added : List Clause}
    (h : ∀ clause ∈ added, clause.connector = .conj) (alternatives : Alternatives) :
    added.foldl add alternatives =
      ⟨alternatives.complete, alternatives.last ++ added⟩ := by
  induction added generalizing alternatives with
  | nil => simp
  | cons clause rest ih =>
    obtain ⟨hclause, hrest⟩ := List.forall_mem_cons.mp h
    rw [List.foldl_cons, ih hrest, add, hclause]
    simp

theorem ofClauses_append_conjoined {added : List Clause}
    (h : ∀ clause ∈ added, clause.connector = .conj) (clauses : List Clause) :
    ofClauses (clauses ++ added) =
      ⟨(ofClauses clauses).complete, (ofClauses clauses).last ++ added⟩ := by
  cases clauses with
  | nil =>
    cases added with
    | nil => rfl
    | cons clause rest =>
      obtain ⟨-, hrest⟩ := List.forall_mem_cons.mp h
      exact foldl_add_conjoined hrest ⟨[], [clause]⟩
  | cons clause rest =>
    rw [List.cons_append, ofClauses, List.foldl_append, foldl_add_conjoined h]
    rfl

theorem hold_foldl_add (rest : List Clause) (alternatives : Alternatives) :
    (rest.foldl add alternatives).hold columns contact =
      (alternatives.complete.any (·.all (·.holds columns contact)) ||
        Clause.holdsFrom columns contact (alternatives.last.all (·.holds columns contact))
          rest) := by
  induction rest generalizing alternatives with
  | nil => simp [hold, Clause.holdsFrom]
  | cons clause rest ih =>
    rw [List.foldl_cons, ih, Clause.holdsFrom, add]
    cases clause.connector with
    | conj => simp
    | disj => simp [Bool.or_assoc]

theorem allHold_eq_hold (clauses : List Clause) :
    Clause.allHold columns contact clauses = (ofClauses clauses).hold columns contact := by
  cases clauses with
  | nil => simp [Clause.allHold, ofClauses, hold]
  | cons clause rest =>
    rw [ofClauses, hold_foldl_add, Clause.allHold]
    simp

end Alternatives

namespace ContactQuery

variable {columns : IdentityColumns} {contact : Contact}

def alternatives (query : ContactQuery) : Alternatives := .ofClauses query.clauses

/-- What restrictions by operators and sets require of a contact, each on its own. -/
def restrictionsHold (columns schema : IdentityColumns) (contact : Contact)
    (restrictions : List (Operator × IdentitySet)) : Bool :=
  restrictions.all fun (operator, set) =>
    (clausesOf (set.restriction schema operator)).all (·.holds columns contact)

theorem restrictAll_append (query : ContactQuery) (columns : IdentityColumns)
    (a b : List (Operator × IdentitySet)) :
    query.restrictAll columns (a ++ b) = (query.restrictAll columns a).restrictAll columns b :=
  List.foldl_append

/-- Restrictions record clauses behind those that are there, and all of them are joined by AND. -/
theorem restrictAll_clauses (query : ContactQuery) (columns : IdentityColumns)
    (restrictions : List (Operator × IdentitySet)) :
    query.restrictAll columns restrictions =
      { query with clauses := query.clauses ++ restrictions.flatMap fun (operator, set) =>
          clausesOf (set.restriction columns operator) } := by
  induction restrictions generalizing query with
  | nil => simp [restrictAll]
  | cons restriction rest ih =>
    have hrest := ih (query.restrict columns restriction.1 restriction.2)
    simp only [restrictAll, List.foldl_cons] at hrest ⊢
    rw [hrest]
    simp [restrict, extend]

theorem restrictions_conjoined (columns : IdentityColumns)
    (restrictions : List (Operator × IdentitySet)) :
    ∀ clause ∈ restrictions.flatMap fun (operator, set) =>
      clausesOf (set.restriction columns operator), clause.connector = .conj := by
  intro clause hclause
  obtain ⟨⟨operator, set⟩, -, hmem⟩ := List.mem_flatMap.mp hclause
  exact IdentitySet.restriction_conjoined operator set clause hmem

/-- A restricted query accepts what a complete alternative accepts, and of what the last one accepts
what the restrictions require. -/
theorem restrictAll_accepts (query : ContactQuery) (columns : IdentityColumns)
    (restrictions : List (Operator × IdentitySet)) (contact : Contact) :
    (query.restrictAll columns restrictions).accepts contact =
      (query.alternatives.complete.any (·.all (·.holds query.columns contact)) ||
        (query.alternatives.last.all (·.holds query.columns contact) &&
          restrictionsHold query.columns columns contact restrictions)) := by
  rw [restrictAll_clauses, accepts, Alternatives.allHold_eq_hold,
    Alternatives.ofClauses_append_conjoined (restrictions_conjoined columns restrictions),
    Alternatives.hold]
  simp only [List.all_append, restrictionsHold, List.all_flatMap, alternatives]

theorem restrictAll_again (query : ContactQuery) (columns : IdentityColumns)
    (a b : List (Operator × IdentitySet)) (contact : Contact) :
    (query.restrictAll columns (a ++ (a ++ b))).accepts contact =
      (query.restrictAll columns (a ++ b)).accepts contact := by
  simp only [restrictAll_accepts, restrictionsHold, List.all_append, Bool.and_self_left]

end ContactQuery
end SegmentRules

import SegmentRules.Proofs.Contact.Alternatives

/-! # The effect of restrictions

A restriction enters the last of the conjunctions that the ORs of a query separate, and there it
asks of a contact what its operator says of its set. -/
namespace SegmentRules

namespace Alternatives

def terms (alternatives : Alternatives) : List (List Clause) :=
  alternatives.complete ++ [alternatives.last]

/-- The conjunctions make up the clauses. An OR stands before each of them but the first, and an AND
before each other clause. -/
structure Separates (alternatives : Alternatives) (clauses : List Clause) : Prop where
  flatten : alternatives.terms.flatten = clauses
  conjoined : ∀ term ∈ alternatives.terms, ∀ clause ∈ term.tail, clause.connector = .conj
  separated : ∀ term ∈ alternatives.terms.tail, ∃ clause rest,
    term = clause :: rest ∧ clause.connector = .disj
  filled : clauses ≠ [] → [] ∉ alternatives.terms

theorem Separates.append_conj {complete : List (List Clause)} {first clause : Clause}
    {rest clauses : List Clause} (h : Separates ⟨complete, first :: rest⟩ clauses)
    (filled : [] ∉ complete) (hconnector : clause.connector = .conj) :
    Separates ⟨complete, first :: rest ++ [clause]⟩ (clauses ++ [clause]) := by
  have hconjoined := h.conjoined
  have hseparated := h.separated
  simp only [terms, List.mem_append, List.mem_singleton, or_imp, forall_and, forall_eq,
    List.tail_cons] at hconjoined
  refine ⟨?_, ?_, ?_, ?_⟩
  · simp [terms, ← h.flatten]
  · intro term hterm other hother
    simp only [terms, List.mem_append, List.mem_singleton] at hterm
    rcases hterm with hterm | rfl
    · exact hconjoined.1 term hterm other hother
    · rw [List.cons_append, List.tail_cons, List.mem_append, List.mem_singleton] at hother
      rcases hother with hother | rfl
      · exact hconjoined.2 other hother
      · exact hconnector
  · intro term hterm
    cases complete with
    | nil => simp [terms] at hterm
    | cons other complete =>
      simp only [terms, List.cons_append, List.tail_cons, List.mem_append,
        List.mem_singleton] at hterm hseparated
      rcases hterm with hterm | rfl
      · exact hseparated term (.inl hterm)
      · obtain ⟨_, _, hstart, hdisj⟩ := hseparated _ (.inr rfl)
        obtain ⟨rfl, -⟩ := List.cons.inj hstart
        exact ⟨first, rest ++ [clause], rfl, hdisj⟩
  · simp [terms, filled]

theorem Separates.append_disj {alternatives : Alternatives} {clause : Clause}
    {clauses : List Clause} (h : alternatives.Separates clauses)
    (filled : [] ∉ alternatives.terms) (hconnector : clause.connector = .disj) :
    Separates ⟨alternatives.terms, [clause]⟩ (clauses ++ [clause]) := by
  refine ⟨?_, ?_, ?_, ?_⟩
  · rw [terms, List.flatten_append, h.flatten, List.flatten_singleton]
  · intro term hterm
    rw [terms, List.mem_append, List.mem_singleton] at hterm
    rcases hterm with hterm | rfl
    · exact h.conjoined term hterm
    · simp
  · intro term hterm
    rw [terms, List.tail_append_of_ne_nil (by simp [terms]), List.mem_append,
      List.mem_singleton] at hterm
    rcases hterm with hterm | rfl
    · exact h.separated term hterm
    · exact ⟨clause, [], rfl, hconnector⟩
  · rw [terms, List.mem_append, List.mem_singleton]
    simp [filled]

theorem Separates.add {alternatives : Alternatives} {clauses : List Clause} (clause : Clause)
    (h : alternatives.Separates clauses) (started : clauses ≠ []) :
    (alternatives.add clause).Separates (clauses ++ [clause]) := by
  have hfilled := h.filled started
  cases hconnector : clause.connector with
  | conj =>
    obtain ⟨complete, last⟩ := alternatives
    rw [terms, List.mem_append, List.mem_singleton, not_or] at hfilled
    obtain ⟨first, rest, rfl⟩ := List.exists_cons_of_ne_nil (Ne.symm hfilled.2)
    rw [Alternatives.add, hconnector]
    exact h.append_conj hfilled.1 hconnector
  | disj =>
    rw [Alternatives.add, hconnector]
    exact h.append_disj hfilled hconnector

theorem foldl_add_separates {alternatives : Alternatives} {clauses : List Clause}
    (rest : List Clause) (h : alternatives.Separates clauses) (started : clauses ≠ []) :
    (rest.foldl Alternatives.add alternatives).Separates (clauses ++ rest) := by
  induction rest generalizing alternatives clauses with
  | nil => simpa using h
  | cons clause rest ih => simpa using ih (h.add clause started) (by simp)

theorem ofClauses_separates (clauses : List Clause) : (ofClauses clauses).Separates clauses := by
  cases clauses with
  | nil => exact ⟨rfl, by simp [ofClauses, terms], by simp [ofClauses, terms], by simp⟩
  | cons clause rest =>
    have hfirst : (⟨[], [clause]⟩ : Alternatives).Separates [clause] :=
      ⟨rfl, by simp [terms], by simp [terms], by simp [terms]⟩
    exact foldl_add_separates rest hfirst (List.cons_ne_nil clause [])

end Alternatives

namespace IdentitySet

variable {columns : IdentityColumns} {contact : Contact} {rows : List IdentityRow}

/-- What an operator with a set asks of a contact. A null key is not known to be none of the
excluded ones, unless nothing is excluded. -/
def keeps (set : IdentitySet) (contact : Contact) : Operator → Bool
  | .member => if set.isEmpty then contact.id == 0 else set.contains contact
  | .nonMember => !set.contains contact && (contact.account.isSome || set.accounts.isEmpty) &&
      (contact.email.isSome || set.emails.isEmpty)

theorem tests_hold_iff_contains (h : columns.Distinct) :
    ((ofRows rows).accountTest columns).holds columns contact = true ∨
        ((ofRows rows).emailTest columns).holds columns contact = true ↔
      (ofRows rows).contains contact = true := by
  rw [accountTest, emailTest, (account_column contact rows h).any_of_holds,
    (email_column contact rows h).any_of_holds, contains_ofRows]
  simp only [Contact.Shares, List.mem_map, exists_exists_and_eq_and, and_or_left, exists_or]

theorem keeps_nonMember : (ofRows rows).keeps contact .nonMember = true ↔
    (∀ row ∈ rows, ¬ contact.Shares row.account row.email) ∧
      (contact.account = none → ∀ row ∈ rows, ¬ IsAccount row.account) ∧
      (contact.email = none → ∀ row ∈ rows, ¬ IsEmail row.email) := by
  have hcontains : (ofRows rows).contains contact = false ↔
      ∀ row ∈ rows, ¬ contact.Shares row.account row.email := by
    rw [← Bool.not_eq_true, contains_ofRows]
    simp
  have haccounts : contact.account.isSome = true ∨ (ofRows rows).accounts = [] ↔
      (contact.account = none → ∀ row ∈ rows, ¬ IsAccount row.account) := by
    rw [accounts_ofRows_eq_nil]
    cases contact.account <;> simp
  have hemails : contact.email.isSome = true ∨ (ofRows rows).emails = [] ↔
      (contact.email = none → ∀ row ∈ rows, ¬ IsEmail row.email) := by
    rw [emails_ofRows_eq_nil]
    cases contact.email <;> simp
  simp only [keeps, Bool.and_eq_true, Bool.not_eq_true', Bool.or_eq_true, List.isEmpty_iff,
    hcontains, haccounts, hemails, and_assoc]

theorem restriction_holds_eq_keeps (h : columns.Distinct) (operator : Operator)
    (rows : List IdentityRow) (contact : Contact) :
    (clausesOf ((ofRows rows).restriction columns operator)).all (·.holds columns contact) =
      (ofRows rows).keeps contact operator := by
  rw [Bool.eq_iff_iff]
  cases operator with
  | member =>
    cases hempty : (ofRows rows).isEmpty with
    | true =>
      simp [restriction, keeps, hempty, clausesOf, Step.clause?, Clause.holds, ColumnTest.holds,
        IdentityColumns.valueOf_id, Sql.Value.same, impossibleId]
    | false =>
      rw [member_restriction_holds _ hempty, Bool.or_eq_true, tests_hold_iff_contains h]
      simp [keeps, hempty]
  | nonMember =>
    rw [exclusion_restriction_holds, Bool.and_eq_true,
      (account_column contact rows h).none_of_holds, (email_column contact rows h).none_of_holds,
      keeps_nonMember]
    simp only [Contact.Shares, List.forall_mem_map, not_or, forall_and]
    exact and_and_and_comm

end IdentitySet

namespace ContactQuery

def resolved (restrictions : List (Operator × List IdentityRow)) : List (Operator × IdentitySet) :=
  restrictions.map (Prod.map id IdentitySet.ofRows)

theorem restrictionsHold_resolved {columns : IdentityColumns} (h : columns.Distinct)
    (contact : Contact) (restrictions : List (Operator × List IdentityRow)) :
    restrictionsHold columns columns contact (resolved restrictions) =
      restrictions.all fun (operator, rows) =>
        (IdentitySet.ofRows rows).keeps contact operator := by
  rw [restrictionsHold, resolved, List.all_map]
  refine congrArg (List.all restrictions) (funext fun restriction => ?_)
  exact IdentitySet.restriction_holds_eq_keeps h restriction.1 restriction.2 contact

theorem accepts_eq_hold (query : ContactQuery) (contact : Contact) :
    query.accepts contact = query.alternatives.hold query.columns contact :=
  Alternatives.allHold_eq_hold query.clauses

theorem alternatives_of_conjoined {query : ContactQuery}
    (h : ∀ clause ∈ query.clauses.tail, clause.connector = .conj) :
    query.alternatives = ⟨[], query.clauses⟩ := by
  rw [alternatives]
  cases hclauses : query.clauses with
  | nil => rfl
  | cons clause rest =>
    rw [hclauses] at h
    exact Alternatives.foldl_add_conjoined h ⟨[], [clause]⟩

theorem restricted_accepts {query : ContactQuery} (h : query.columns.Distinct) (operator : Operator)
    (rows : List IdentityRow) (contact : Contact) :
    (query.restrict query.columns operator (IdentitySet.ofRows rows)).accepts contact =
      (query.alternatives.complete.any (·.all (·.holds query.columns contact)) ||
        (query.alternatives.last.all (·.holds query.columns contact) &&
          (IdentitySet.ofRows rows).keeps contact operator)) := by
  have hone := query.restrictAll_accepts query.columns (resolved [(operator, rows)]) contact
  rw [restrictionsHold_resolved h] at hone
  simpa [restrictAll, resolved] using hone

theorem restrict_le {query : ContactQuery} (h : query.columns.Distinct) (operator : Operator)
    (rows : List IdentityRow) (contact : Contact)
    (accepted : (query.restrict query.columns operator (IdentitySet.ofRows rows)).accepts contact) :
    query.accepts contact := by
  rw [restricted_accepts h, Bool.or_eq_true, Bool.and_eq_true] at accepted
  rw [accepts_eq_hold, Alternatives.hold, Bool.or_eq_true]
  exact accepted.imp id And.left

theorem restrictAll_select {query : ContactQuery} (h : query.columns.Distinct)
    (conjoined : ∀ clause ∈ query.clauses.tail, clause.connector = .conj)
    (restrictions : List (Operator × List IdentityRow)) (contacts : List Contact) :
    (query.restrictAll query.columns (resolved restrictions)).select contacts =
      (query.select contacts).filter fun contact => restrictions.all fun (operator, rows) =>
        (IdentitySet.ofRows rows).keeps contact operator := by
  rw [select, select, List.filter_filter]
  refine List.filter_congr fun contact _ => ?_
  rw [restrictAll_accepts, restrictionsHold_resolved h, accepts_eq_hold,
    alternatives_of_conjoined conjoined, Alternatives.hold]
  simp [Bool.and_comm]

/-- A restriction asks what its set keeps of the last conjunction alone. It selects nobody anew, and
restrictions of a query that is one conjunction select the same in every order. -/
theorem restricted_exactly (query : ContactQuery) (distinct : query.columns.Distinct) :
    (query.alternatives.Separates query.clauses ∧
      ∀ contact, query.accepts contact =
        query.alternatives.terms.any (·.all (·.holds query.columns contact))) ∧
    (∀ operator rows contact,
      (query.restrict query.columns operator (IdentitySet.ofRows rows)).accepts contact =
        (query.alternatives.complete.any (·.all (·.holds query.columns contact)) ||
          (query.alternatives.last.all (·.holds query.columns contact) &&
            (IdentitySet.ofRows rows).keeps contact operator))) ∧
    (∀ operator rows contacts,
      ((query.restrict query.columns operator (IdentitySet.ofRows rows)).select contacts).Sublist
        (query.select contacts)) ∧
    ((∀ clause ∈ query.clauses.tail, clause.connector = .conj) → ∀ restrictions contacts,
      (query.restrictAll query.columns (resolved restrictions)).select contacts =
        ((query.select contacts).filter fun contact => restrictions.all fun (operator, rows) =>
          (IdentitySet.ofRows rows).keeps contact operator) ∧
      ∀ reordered, reordered.Perm restrictions →
        (query.restrictAll query.columns (resolved reordered)).select contacts =
          (query.restrictAll query.columns (resolved restrictions)).select contacts) := by
  refine ⟨⟨Alternatives.ofClauses_separates query.clauses, fun contact => ?_⟩,
    restricted_accepts distinct, fun operator rows contacts => ?_,
    fun conjoined restrictions contacts => ⟨?_, fun reordered hperm => ?_⟩⟩
  · rw [accepts_eq_hold, Alternatives.hold, Alternatives.terms]
    simp
  · exact List.monotone_filter_right contacts (restrict_le distinct operator rows)
  · exact restrictAll_select distinct conjoined restrictions contacts
  · have hall : ∀ contact : Contact,
        (reordered.all fun (operator, rows) => (IdentitySet.ofRows rows).keeps contact operator) =
          restrictions.all fun (operator, rows) =>
            (IdentitySet.ofRows rows).keeps contact operator :=
      fun contact => hperm.all_eq
    rw [restrictAll_select distinct conjoined, restrictAll_select distinct conjoined]
    exact List.filter_congr fun contact _ => hall contact

/-- Behind an OR with a group, and of a conjunction restricted twice. A contact without an email is
not known to be none of those excluded by theirs. -/
theorem restricted_exactly_of_rows :
    let rows : List IdentityRow := [⟨some 7, some "a@example.com"⟩, ⟨some (-7), some ""⟩]
    let grouped : ContactQuery := (ContactQuery.new .standard).extend
      [.whereEq "email" (.text "b@example.com"), .orWhereIn "user_id" [.int 7, .uint 8],
        .group [.whereIn "id" [.uint 1], .orWhereIn "id" [.uint 2]]]
    let named : ContactQuery := (ContactQuery.new .standard).extend [.whereNotIn "id" [.uint 3]]
    (grouped.columns.Distinct ∧
      grouped.accepts ⟨2, some 8, none⟩ = true ∧
      (grouped.restrict grouped.columns .nonMember (IdentitySet.ofRows rows)).accepts
        ⟨2, some 8, none⟩ = false ∧
      (grouped.restrict grouped.columns .nonMember (IdentitySet.ofRows rows)).accepts
        ⟨9, some 7, some "b@example.com"⟩ = true) ∧
    named.columns.Distinct ∧ ∀ contacts,
      (named.restrictAll named.columns (resolved [(.member, rows), (.nonMember, [])])).select
          contacts =
        (named.restrictAll named.columns (resolved [(.nonMember, []), (.member, rows)])).select
          contacts := by
  intro rows grouped named
  have hgrouped : grouped.columns.Distinct := by decide
  have hnamed : named.columns.Distinct := by decide
  obtain ⟨⟨-, haccepts⟩, hrestricted, -⟩ := restricted_exactly grouped hgrouped
  obtain ⟨-, -, -, hintersection⟩ := restricted_exactly named hnamed
  refine ⟨⟨hgrouped, ?_, ?_, ?_⟩, hnamed, fun contacts => ?_⟩
  · rw [haccepts]
    decide +kernel
  · rw [hrestricted]
    decide +kernel
  · rw [hrestricted]
    decide +kernel
  · exact (hintersection (by decide) [(.nonMember, []), (.member, rows)] contacts).2 _
      (List.Perm.swap _ _ _)

end ContactQuery
end SegmentRules

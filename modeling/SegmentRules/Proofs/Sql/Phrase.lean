import SegmentRules.Proofs.Sql.Reader

/-! # Parts of conditions

What a text is read as, whatever stands around it. The notions compose as texts do, so that a
renderer is followed piece by piece. -/
namespace SegmentRules.Sql

open Settings (isNameChar isIdentifier)

/-- The text is a column, in front of a test. -/
def IsColumn (text : String) (column : Column) : Prop :=
  ∃ tokens, Spells text [] tokens ∧ ∀ stack slot rest, rest.head? ≠ some .dot →
    operand stack slot (tokens ++ rest) = test stack slot column rest

/-- The text is a sequence of operands and their connectives. -/
def IsBody (text : String) (params : List Value) (read : Slot → Reading) : Prop :=
  ∃ tokens, Spells text params tokens ∧ ∀ stack slot rest,
    operand stack slot (tokens ++ rest) = connective stack (read slot) rest

/-- The text is such a sequence behind another operand. -/
def IsTail (text : String) (params : List Value) (read : Reading → Reading) : Prop :=
  ∃ tokens, Spells text params tokens ∧ Ends text.toList ∧ ∀ stack reading rest,
    connective stack reading (tokens ++ rest) = connective stack (read reading) rest

variable {a b text : String} {params pa pb : List Value} {column : Column}

/-! ## Columns and tests -/

theorem isColumn_name {name : String} (h : isIdentifier name = true) :
    IsColumn name ⟨none, name⟩ := by
  exact ⟨[.word name], spells_name h, fun stack slot rest hdot => operand_name hdot⟩

theorem isColumn_qualified {table name : String} (htable : isIdentifier table = true)
    (hname : isIdentifier name = true) : IsColumn (table ++ "." ++ name) ⟨some table, name⟩ := by
  have hdot : Closed "." [] [.dot] := fun rest more => by simp
  have hrest : Spells ("." ++ name) [] [.dot, .word name] := hdot.append (spells_name hname)
  have hends : Ends ("." ++ name).toList := by
    rw [String.toList_append]
    exact ends_of_cons (by decide)
  refine ⟨[.word table, .dot, .word name], ?_, fun stack slot rest _ => operand_qualified⟩
  rw [String.append_assoc]
  exact (spells_name htable).append hrest hends

/-- A comparison with a placeholder, as renderers write it. -/
def Comparison.sql : Comparison → String
  | .equal => " = ?"
  | .atLeast => " >= ?"
  | .atMost => " <= ?"

theorem IsColumn.compare (h : IsColumn text column) (comparison : Comparison) (value : Value) :
    IsBody (text ++ comparison.sql) [value] (·.fill (.compare column comparison value)) := by
  obtain ⟨tokens, hspells, hread⟩ := h
  have hclosed : Closed comparison.sql [value] [.comparison comparison, .value value] := by
    intro rest more
    cases comparison <;> simp [Comparison.sql, Function.comp_def]
  have hends : Ends comparison.sql.toList := by
    cases comparison <;> exact ends_of_cons (by decide)
  refine ⟨_, hspells.append hclosed.spells hends, fun stack slot rest => ?_⟩
  rw [List.append_assoc, hread _ _ _ (by simp)]
  exact test_value

def listed : List Value → List Token
  | [] => []
  | [value] => [.value value]
  | value :: rest => .value value :: .comma :: listed rest

theorem closed_placeholders (values : List Value) :
    Closed (placeholders values.length) values (listed values) := by
  induction values with
  | nil => exact fun rest more => by simp [placeholders, listed]
  | cons value others ih =>
    cases others with
    | nil => exact fun rest more => by simp [placeholders, listed]
    | cons second others =>
      have htext : placeholders (value :: second :: others).length =
          "?, " ++ placeholders (second :: others).length := by
        simp [placeholders, List.replicate_succ]
      intro rest more
      have hrest := ih rest more
      simp only [List.length_cons, List.cons_append] at hrest
      rw [htext, String.toList_append, List.append_assoc]
      simp [listed, hrest, Function.comp_def]

theorem values_listed {values : List Value} (h : values ≠ []) (stack : List Slot) (slot : Slot)
    (test : List Value → Formula) (seen : List Value) (rest : List Token) :
    Sql.values stack slot test seen (listed values ++ .closing :: rest) =
      connective stack (slot.fill (test (seen ++ values))) rest := by
  induction values generalizing seen with
  | nil => exact absurd rfl h
  | cons value others ih =>
    cases others with
    | nil => simp [listed]
    | cons second others =>
      have hrest := ih (by simp) (seen ++ [value])
      simpa [listed] using hrest

theorem IsColumn.membership (h : IsColumn text column) (negated : Bool) {values : List Value}
    (hne : values ≠ []) :
    IsBody (text ++ (if negated then " NOT IN (" else " IN (") ++ placeholders values.length ++ ")")
      values (·.fill (if negated then .notAmong column values else .among column values)) := by
  obtain ⟨tokens, hspells, hcolumn⟩ := h
  have hclosing : Closed ")" [] [.closing] := fun rest more => by simp
  have hlist : Spells (placeholders values.length ++ ")") (values ++ [])
      (listed values ++ [.closing]) := (closed_placeholders values).append hclosing.spells
  have hkeywords : Closed (if negated then " NOT IN (" else " IN (") []
      ((if negated then [.word "NOT"] else []) ++ [.word "IN", .opening]) := fun rest more => by
    cases negated <;> simp [scan_letter, isNameChar, Function.comp_def]
  have hall := hspells.append (hkeywords.append hlist) (by
    cases negated <;> rw [String.toList_append] <;> exact ends_of_cons (by decide))
  refine ⟨_, by simpa [String.append_assoc] using hall, fun stack slot rest => ?_⟩
  rw [List.append_assoc, hcolumn _ _ _ (by cases negated <;> simp)]
  cases negated <;> simp [values_listed hne]

theorem isBody_constant (value : Bool) :
    IsBody (if value then "1 = 1" else "0 = 1") [] (·.fill (.constant value)) := by
  have hequal : Closed " = " [] [.comparison .equal] := fun rest more => by simp
  have hone : Spells "1" [] [.word "1"] := spells_name (by decide)
  have hdigit : Spells (if value then "1" else "0") [] [.word (if value then "1" else "0")] :=
    spells_name (by cases value <;> decide)
  have hall := hdigit.append (hequal.append hone) (ends_of_cons (by decide))
  have htext : (if value then "1 = 1" else "0 = 1") =
      (if value then "1" else "0") ++ (" = " ++ "1") := by cases value <;> decide
  have hconstant : constant? ⟨none, if value then "1" else "0"⟩ "1" = some value := by
    cases value <;> decide
  refine ⟨_, htext ▸ hall, fun stack slot rest => ?_⟩
  exact (operand_name (by simp)).trans (test_constant hconstant)

/-! ## Sequences -/

variable {f : Slot → Reading} {g h : Reading → Reading}

theorem IsBody.append (ha : IsBody a pa f) (hb : IsTail b pb g) :
    IsBody (a ++ b) (pa ++ pb) (g ∘ f) := by
  obtain ⟨ta, hspells, hread⟩ := ha
  obtain ⟨tb, hspells', hends, hread'⟩ := hb
  refine ⟨ta ++ tb, hspells.append hspells' hends, fun stack slot rest => ?_⟩
  rw [List.append_assoc, hread, hread', Function.comp_apply]

theorem IsTail.append (ha : IsTail a pa g) (hb : IsTail b pb h) :
    IsTail (a ++ b) (pa ++ pb) (h ∘ g) := by
  obtain ⟨ta, hspells, hends, hread⟩ := ha
  obtain ⟨tb, hspells', hends', hread'⟩ := hb
  refine ⟨ta ++ tb, hspells.append hspells' hends', ?_, fun stack reading rest => ?_⟩
  · rw [String.toList_append]
    exact hends.append hends'
  · rw [List.append_assoc, hread, hread', Function.comp_apply]

theorem isTail_empty : IsTail "" [] id :=
  ⟨[], fun rest more _ => by simp, by simp [Ends], fun stack reading rest => rfl⟩

private theorem IsBody.behind {word : String} {token : Token} {next : Reading → Slot}
    (hclosed : Closed word [] [token]) (hends : Ends (word ++ b).toList)
    (hnext : ∀ stack reading rest,
      connective stack reading (token :: rest) = operand stack (next reading) rest)
    (hb : IsBody b pb f) : IsTail (word ++ b) pb (f ∘ next) := by
  obtain ⟨tokens, hspells, hread⟩ := hb
  refine ⟨token :: tokens, hclosed.append hspells, hends, fun stack reading rest => ?_⟩
  rw [List.cons_append, hnext, hread, Function.comp_apply]

theorem IsBody.conj (hb : IsBody b pb f) : IsTail (" AND " ++ b) pb (f ∘ Reading.conj) := by
  have hand : Closed " AND " [] [.word "AND"] := fun rest more => by
    simp [scan_letter, isNameChar]
  refine hb.behind hand ?_ fun _ _ _ => connective_and
  rw [String.toList_append]
  exact ends_of_cons (by decide)

theorem IsBody.disj (hb : IsBody b pb f) : IsTail (" OR " ++ b) pb (f ∘ Reading.disj) := by
  have hor : Closed " OR " [] [.word "OR"] := fun rest more => by
    simp [scan_letter, isNameChar]
  refine hb.behind hor ?_ fun _ _ _ => connective_or
  rw [String.toList_append]
  exact ends_of_cons (by decide)

/-- Parentheses make one operand of what they hold. -/
theorem IsBody.group (hb : IsBody b pb f) :
    IsBody ("(" ++ b ++ ")") pb (·.fill (f .start).formula) := by
  obtain ⟨tokens, hspells, hread⟩ := hb
  have hopening : Closed "(" [] [.opening] := fun rest more => by simp
  have hclosing : Closed ")" [] [.closing] := fun rest more => by simp
  have hall := (hopening.append hspells).append hclosing.spells (ends_of_cons (by decide))
  refine ⟨.opening :: tokens ++ [.closing], by simpa using hall, fun stack slot rest => ?_⟩
  simp [hread]

theorem IsBody.formula? (hb : IsBody text params f) :
    Fragment.formula? ⟨text, params⟩ = some (f .start).formula := by
  obtain ⟨tokens, hspells, hread⟩ := hb
  have hscan : scan [] text.toList params = some tokens := by
    simpa using hspells [] [] (by simp [Ends])
  have hoperand := hread [] .start []
  have hne : text ≠ "" := by
    rintro rfl
    cases params with
    | nil =>
      obtain rfl : tokens = [] := by simpa [eq_comm] using hscan
      cases hoperand
    | cons => simp at hscan
  rw [List.append_nil] at hoperand
  simp [Fragment.formula?, hne, hscan, hoperand]

theorem placeholderCount_of_formula? {fragment : Fragment} {formula : Formula}
    (h : fragment.formula? = some formula) :
    fragment.placeholderCount = fragment.params.length := by
  obtain ⟨sql, params⟩ := fragment
  by_cases hempty : sql = ""
  · subst hempty
    cases params with
    | nil => rfl
    | cons => simp [Fragment.formula?] at h
  · simp only [Fragment.formula?, hempty, ↓reduceIte] at h
    obtain ⟨tokens, hscan, -⟩ := Option.bind_eq_some_iff.mp h
    exact count_of_scan hscan

end SegmentRules.Sql

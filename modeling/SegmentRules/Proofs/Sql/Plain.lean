import SegmentRules.Settings.Basic
import SegmentRules.Sql.Fragment

/-! # Plain text

The text of a query has no quotes and no other characters that could end a name or begin a literal.
Values stand outside of it, one for each placeholder. -/
namespace SegmentRules.Sql

open Settings (isNameChar isIdentifier)

/-- The characters of names, and the marks that generated conditions need. -/
def isPlainChar (c : Char) : Bool := c.isAlphanum || "_., ()=<>?".toList.contains c

def isPlain (text : String) : Bool := text.toList.all isPlainChar

def marks (text : String) : Nat := text.toList.count '?'

/-- Plain text with a value for each placeholder. -/
def Fragment.IsPlain (fragment : Fragment) : Prop :=
  isPlain fragment.sql = true ∧ fragment.placeholderCount = fragment.params.length

instance (fragment : Fragment) : Decidable fragment.IsPlain := inferInstanceAs (Decidable (_ ∧ _))

/-- A text that may stand for a name, or for nothing. -/
def isName (text : String) : Bool := text.toList.all isNameChar

variable {a b : String}

@[simp] theorem isPlain_append : isPlain (a ++ b) = (isPlain a && isPlain b) := by
  simp [isPlain]

@[simp] theorem marks_append : marks (a ++ b) = marks a + marks b := by
  simp [marks]

@[simp] theorem isName_append : isName (a ++ b) = (isName a && isName b) := by
  simp [isName]

theorem Fragment.isPlain_iff {fragment : Fragment} : fragment.IsPlain ↔
    isPlain fragment.sql = true ∧ marks fragment.sql = fragment.params.length := Iff.rfl

theorem isName_of_isIdentifier (h : isIdentifier a = true) : isName a = true := by
  rw [isIdentifier, Bool.and_eq_true] at h
  exact h.2

theorem Fragment.isPlain_name (h : isName a = true) : IsPlain ⟨a, []⟩ := by
  have hname : ∀ c ∈ a.toList, isNameChar c = true := List.all_eq_true.mp h
  constructor
  · refine List.all_eq_true.mpr fun c hc => ?_
    have hc := hname c hc
    rw [isNameChar, Bool.or_eq_true] at hc
    rcases hc with halphanum | hlow
    · simp [isPlainChar, halphanum]
    · simp [isPlainChar, eq_of_beq hlow]
  · refine List.count_eq_zero.mpr fun hmark => ?_
    exact absurd (hname '?' hmark) (by decide)

theorem Fragment.IsPlain.append {first second : List Value} (ha : IsPlain ⟨a, first⟩)
    (hb : IsPlain ⟨b, second⟩) : IsPlain ⟨a ++ b, first ++ second⟩ := by
  obtain ⟨hplain, hmarks⟩ := isPlain_iff.mp ha
  obtain ⟨hplain', hmarks'⟩ := isPlain_iff.mp hb
  simp [isPlain_iff, hplain, hplain', hmarks, hmarks']

/-- Plain pieces make plain text, with their values in one list. -/
theorem Fragment.isPlain_intercalate {separator : String} (hplain : isPlain separator = true)
    (hmarks : marks separator = 0) {α : Type} {text : α → String} {values : α → List Value}
    {pieces : List α} (h : ∀ piece ∈ pieces, IsPlain ⟨text piece, values piece⟩) :
    IsPlain ⟨String.intercalate separator (pieces.map text), pieces.flatMap values⟩ := by
  induction pieces with
  | nil => exact ⟨rfl, rfl⟩
  | cons first rest ih =>
    obtain ⟨hfirst, hrest⟩ := List.forall_mem_cons.mp h
    cases rest with
    | nil => simpa using hfirst
    | cons second rest =>
      have hseparator : IsPlain ⟨separator, []⟩ := ⟨hplain, hmarks⟩
      simpa using (hfirst.append hseparator).append (ih hrest)

theorem Fragment.isPlain_placeholders (values : List Value) :
    IsPlain ⟨placeholders values.length, values⟩ := by
  have hquestion : isPlain "?" = true ∧ marks "?" = 1 := by decide
  have hcomma : isPlain ", " = true ∧ marks ", " = 0 := by decide
  have hmark : ∀ value ∈ values, IsPlain ⟨"?", [value]⟩ := fun value _ => hquestion
  simpa [placeholders, List.map_const'] using isPlain_intercalate hcomma.1 hcomma.2 hmark

end SegmentRules.Sql

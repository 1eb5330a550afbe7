import Mathlib.Data.List.Infix
import SegmentRules.Text.Parts

/-! # Parts of a text are found -/
namespace SegmentRules

/-- Characters that a class tells apart. -/
theorem ne_of_class {p : Char → Bool} {c other : Char} (h : p c = true) (hother : p other = false) :
    c ≠ other := by
  rintro rfl
  cases hother.symm.trans h

namespace Text

variable {start text rest before after : List Char} {separator : Char}

theorem dropStart?_eq_some : dropStart? start text = some rest ↔ text = start ++ rest := by
  induction start generalizing text with
  | nil => simp [dropStart?]
  | cons c start ih =>
    cases text with
    | nil => simp [dropStart?]
    | cons d text =>
      by_cases h : c = d
      · simp [dropStart?, h, ih]
      · have h' : d ≠ c := Ne.symm h
        simp [dropStart?, h, h']

theorem dropStart?_append : dropStart? start (start ++ rest) = some rest :=
  dropStart?_eq_some.mpr rfl

theorem occursIn_iff {part : List Char} : occursIn part text = true ↔ part <:+: text := by
  induction text with
  | nil => simp [occursIn]
  | cons c rest ih =>
    rw [occursIn, Bool.or_eq_true, ih, List.isPrefixOf_iff_prefix, List.infix_cons_iff]

/-! ## The first separator -/

theorem splitFirst_eq_none : splitFirst separator text = none ↔ separator ∉ text := by
  induction text with
  | nil => simp [splitFirst]
  | cons c rest ih =>
    by_cases hc : c = separator
    · simp [splitFirst, hc]
    · have hc' : separator ≠ c := Ne.symm hc
      simp [splitFirst, hc, hc', ih]

theorem splitFirst_append (h : separator ∉ before) :
    splitFirst separator (before ++ separator :: after) = some (before, after) := by
  induction before with
  | nil => simp [splitFirst]
  | cons c before ih =>
    rw [List.mem_cons, not_or] at h
    rw [List.cons_append, splitFirst, if_neg (Ne.symm h.1), ih h.2]
    rfl

theorem splitFirst_eq_some : splitFirst separator text = some (before, after) ↔
    text = before ++ separator :: after ∧ separator ∉ before := by
  constructor
  · intro h
    induction text generalizing before with
    | nil => simp [splitFirst] at h
    | cons c rest ih =>
      by_cases hc : c = separator
      · subst hc
        obtain ⟨rfl, rfl⟩ : [] = before ∧ rest = after := by simpa [splitFirst] using h
        exact ⟨rfl, List.not_mem_nil⟩
      · rw [splitFirst, if_neg hc] at h
        obtain ⟨⟨first, second⟩, hsplit, hpair⟩ := Option.map_eq_some_iff.mp h
        obtain ⟨rfl, rfl⟩ := Prod.mk.inj hpair
        obtain ⟨rfl, hfree⟩ := ih hsplit
        refine ⟨rfl, ?_⟩
        rw [List.mem_cons, not_or]
        exact ⟨Ne.symm hc, hfree⟩
  · rintro ⟨rfl, hfree⟩
    exact splitFirst_append hfree

/-! ## All separators -/

theorem split_eq_splitOn (separator : Char) (text : List Char) :
    split separator text = text.splitOn separator := by
  induction text with
  | nil => rfl
  | cons c rest ih =>
    have hcons : (c :: rest).splitOn separator =
        if (c == separator) = true then [] :: rest.splitOn separator
        else (rest.splitOn separator).modifyHead (List.cons c) :=
      List.splitOnP_cons_eq_if_modifyHead c rest
    rw [split, ih, hcons]
    by_cases hseparator : c = separator
    · rw [if_pos hseparator, if_pos (beq_iff_eq.mpr hseparator)]
    · obtain ⟨part, parts, hparts⟩ : ∃ part parts, rest.splitOn separator = part :: parts :=
        List.exists_cons_of_ne_nil (List.splitOnP_ne_nil _ _)
      rw [if_neg hseparator, if_neg (by simpa using hseparator), hparts]
      rfl

theorem split_ne_nil (separator : Char) (text : List Char) : split separator text ≠ [] := by
  rw [split_eq_splitOn]
  exact List.splitOnP_ne_nil _ _

theorem intercalate_split (separator : Char) (text : List Char) :
    [separator].intercalate (split separator text) = text := by
  rw [split_eq_splitOn, List.intercalate_splitOn]

theorem split_of_not_mem (h : separator ∉ text) : split separator text = [text] := by
  rw [split_eq_splitOn, List.splitOn_eq_singleton h]

theorem split_append (separator : Char) (before after : List Char) :
    split separator (before ++ separator :: after) =
      split separator before ++ split separator after := by
  simp only [split_eq_splitOn]
  exact List.splitOnP_append_cons before after (beq_self_eq_true separator)

end Text
end SegmentRules

import Mathlib.Data.List.TakeWhile
import SegmentRules.Numeral
import SegmentRules.Text.Blank

/-! # Trimmed texts

A text is its trimmed part between blanks, and blanks around a text do not show in its trimmed
part. -/
namespace SegmentRules.Text

variable {text before after : List Char}

def AllBlank (text : List Char) : Prop := ∀ c ∈ text, isBlank c = true

theorem allBlank_nil : AllBlank [] := by simp [AllBlank]

theorem allBlank_reverse : AllBlank text.reverse ↔ AllBlank text := by
  simp [AllBlank]

theorem allBlank_takeWhile (text : List Char) : AllBlank (text.takeWhile isBlank) :=
  fun _ => List.mem_takeWhile_imp

theorem AllBlank.not_mem {c : Char} (h : AllBlank text) (hc : isBlank c = false) : c ∉ text := by
  intro hmem
  have hblank := h c hmem
  rw [hc] at hblank
  cases hblank

theorem not_isBlank_of_isDigit {c : Char} (h : Numeral.isDigit c = true) :
    isBlank c = false := by
  have hdigit : 48 ≤ c.toNat ∧ c.toNat ≤ 57 := by
    simp only [Numeral.isDigit, Numeral.digit?] at h
    split at h
    · rename_i hrange
      exact ⟨UInt32.le_iff_toNat_le.mp hrange.1, UInt32.le_iff_toNat_le.mp hrange.2⟩
    · cases h
  simp [isBlank, Ranges.contains, blankRanges]
  omega

theorem dropWhile_blanks (h : AllBlank before) :
    (before ++ text).dropWhile isBlank = text.dropWhile isBlank := by
  induction before with
  | nil => rfl
  | cons c rest ih =>
    obtain ⟨hc, hrest⟩ := List.forall_mem_cons.mp h
    rw [List.cons_append, List.dropWhile_cons_of_pos hc, ih hrest]

theorem dropWhile_of_no_blank (h : ∀ c ∈ text, isBlank c = false) :
    text.dropWhile isBlank = text := by
  cases text with
  | nil => rfl
  | cons c rest =>
    have hc : isBlank c = false := h c List.mem_cons_self
    exact List.dropWhile_cons_of_neg (by simp [hc])

theorem trimStart_cons {c : Char} (h : isBlank c = false) (rest : List Char) :
    trimStart (c :: rest) = c :: rest :=
  List.dropWhile_cons_of_neg (by simp [h])

theorem trimStart_blanks (h : AllBlank before) : trimStart (before ++ text) = trimStart text :=
  dropWhile_blanks h

theorem trimEnd_blanks (h : AllBlank after) : trimEnd (text ++ after) = trimEnd text := by
  rw [trimEnd, List.reverse_append, dropWhile_blanks (allBlank_reverse.mpr h), trimEnd]

/-- Blanks at either end are all that trimming takes away. -/
theorem exists_blanks_trimStart (text : List Char) :
    ∃ before, AllBlank before ∧ text = before ++ trimStart text :=
  ⟨text.takeWhile isBlank, allBlank_takeWhile text, List.takeWhile_append_dropWhile.symm⟩

theorem exists_blanks_trimEnd (text : List Char) :
    ∃ after, AllBlank after ∧ text = trimEnd text ++ after := by
  obtain ⟨blanks, hblanks, htext⟩ := exists_blanks_trimStart text.reverse
  refine ⟨blanks.reverse, allBlank_reverse.mpr hblanks, ?_⟩
  have hreverse := congrArg List.reverse htext
  rwa [List.reverse_reverse, List.reverse_append] at hreverse

theorem exists_blanks_trim (text : List Char) :
    ∃ before after, AllBlank before ∧ AllBlank after ∧ text = before ++ trim text ++ after := by
  obtain ⟨before, hbefore, hstart⟩ := exists_blanks_trimStart text
  obtain ⟨after, hafter, hend⟩ := exists_blanks_trimEnd (trimStart text)
  refine ⟨before, after, hbefore, hafter, ?_⟩
  rw [List.append_assoc, trim, ← hend]
  exact hstart

theorem trim_blanks (hbefore : AllBlank before) (hafter : AllBlank after) :
    trim (before ++ text ++ after) = trim text := by
  rw [List.append_assoc, trim, trimStart_blanks hbefore, trimStart, List.dropWhile_append, trim,
    trimStart]
  split
  · rename_i hempty
    have hblank : (after ++ []).dropWhile isBlank = [] := dropWhile_blanks hafter
    rw [List.append_nil] at hblank
    rw [hblank, List.isEmpty_iff.mp hempty]
  · exact trimEnd_blanks hafter

theorem trim_of_no_blank (h : ∀ c ∈ text, isBlank c = false) : trim text = text := by
  have hreverse : ∀ c ∈ text.reverse, isBlank c = false :=
    fun c hc => h c (List.mem_reverse.mp hc)
  rw [trim, trimStart, dropWhile_of_no_blank h, trimEnd, dropWhile_of_no_blank hreverse,
    List.reverse_reverse]

end SegmentRules.Text

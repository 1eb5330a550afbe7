import Mathlib.Data.List.Basic
import SegmentRules.Json.Reader
import SegmentRules.Json.Writer

/-! # Texts in JSON are read back -/
namespace SegmentRules.Json

/-! ## Characters by number -/

theorem not_surrogate (c : Char) : ¬ (0xD800 ≤ c.toNat ∧ c.toNat < 0xE000) := by
  intro h
  rcases c.valid with hlow | ⟨hhigh, -⟩
  · have hbelow : c.toNat < 0xD800 := hlow
    omega
  · have habove : 0xDFFF < c.toNat := hhigh
    omega

theorem ofUnits?_toNat (chars : List Char) : ofUnits? (chars.map Char.toNat) = some chars := by
  induction chars with
  | nil => rfl
  | cons c rest ih =>
    have hc := not_surrogate c
    cases rest with
    | nil => simp [ofUnits?, hc]
    | cons next rest =>
      have hpair : ¬ (0xD800 ≤ c.toNat ∧ c.toNat < 0xDC00 ∧ 0xDC00 ≤ next.toNat ∧
          next.toNat < 0xE000) := by omega
      rw [List.map_cons, List.map_cons, ofUnits?, if_neg hpair, if_neg hc, ← List.map_cons, ih]
      simp

theorem hexUnit?_digits : ∀ n < 32,
    hexUnit? '0' '0' (Numeral.digitChar (n / 16)) (Numeral.digitChar (n % 16)) = some n := by
  decide

/-! ## Quoted texts -/

/-- Behind the number of a character stand those of the rest. -/
def afterUnit (unit : Nat) (rest : List Char) : Option (List Nat × List Char) := do
  let (units, rest) ← readUnits? rest
  return (unit :: units, rest)

theorem readUnits?_letter {letter c : Char} (h : escaped? letter = some c) (rest : List Char) :
    readUnits? ('\\' :: letter :: rest) = afterUnit c.toNat rest := by
  have hletter : letter ≠ 'u' := by
    rintro rfl
    cases h
  simp [readUnits?, hletter, h, afterUnit]

theorem readUnits?_number {n : Nat} (h : n < 32) (rest : List Char) :
    readUnits? ('\\' :: 'u' :: '0' :: '0' :: Numeral.digitChar (n / 16) ::
      Numeral.digitChar (n % 16) :: rest) = afterUnit n rest := by
  simp [readUnits?, hexUnit?_digits n h, afterUnit]

theorem readUnits?_plain {c : Char} (quote : c ≠ '"') (backslash : c ≠ '\\')
    (printed : ¬ c.toNat < 0x20) (rest : List Char) :
    readUnits? (c :: rest) = afterUnit c.toNat rest := by
  simp [readUnits?, backslash, printed, afterUnit]

/-- Whichever way a character is written, it is read as its number. -/
theorem readUnits?_escape (c : Char) (rest : List Char) :
    readUnits? (escape c ++ rest) = afterUnit c.toNat rest := by
  unfold escape
  split
  · rename_i h
    rcases h with rfl | rfl
    · exact readUnits?_letter rfl rest
    · exact readUnits?_letter rfl rest
  rename_i hplain
  obtain ⟨hquote, hbackslash⟩ := not_or.mp hplain
  iterate 5
    split
    · subst_vars
      exact readUnits?_letter rfl rest
  split
  · rename_i hcontrol
    exact readUnits?_number hcontrol rest
  · rename_i hcontrol
    exact readUnits?_plain hquote hbackslash hcontrol rest

theorem readUnits?_quoted (chars rest : List Char) :
    readUnits? (chars.flatMap escape ++ '"' :: rest) = some (chars.map Char.toNat, rest) := by
  induction chars with
  | nil => simp [readUnits?]
  | cons c chars ih =>
    rw [List.flatMap_cons, List.append_assoc, readUnits?_escape, afterUnit, ih]
    rfl

theorem readText?_quoted (text : String) (rest : List Char) :
    readText? (text.toList.flatMap escape ++ '"' :: rest) = some (some text, rest) := by
  simp [readText?, readUnits?_quoted, ofUnits?_toNat]

theorem renderText_toList (text : String) :
    (renderText text).toList = '"' :: (text.toList.flatMap escape ++ ['"']) := by
  simp [renderText]

end SegmentRules.Json

import SegmentRules.Proofs.Numeral
import SegmentRules.Proofs.Sql.Formula

/-! # Values as literals

A literal in quotes is read as the text that it was written for, and any other literal is a number.
So two values have one literal exactly if the database takes them for equal. -/
namespace SegmentRules.Sql

/-! ## Texts in quotes -/

/-- The text in front of the closing quote. A quote inside stands twice. -/
def quoted? : List Char → Option (List Char)
  | [] => none
  | c :: rest =>
    if c = '\'' then
      match rest with
      | [] => some []
      | d :: after => if d = '\'' then (quoted? after).map ('\'' :: ·) else none
    else (quoted? rest).map (c :: ·)

/-- The text that a literal in quotes stands for. -/
def unquote? (literal : String) : Option String :=
  match literal.toList with
  | [] => none
  | c :: rest => if c = '\'' then (quoted? rest).map String.ofList else none

theorem quoted?_of_ne {c : Char} (hc : c ≠ '\'') (rest : List Char) :
    quoted? (c :: rest) = (quoted? rest).map (c :: ·) := by
  rw [quoted?.eq_def]
  exact if_neg hc

theorem quoted?_escaped (text : List Char) :
    quoted? (text.flatMap Value.escapeQuote ++ ['\'']) = some text := by
  induction text with
  | nil => simp [quoted?]
  | cons c rest ih =>
    by_cases hc : c = '\''
    · subst hc
      simp [Value.escapeQuote, quoted?, ih]
    · simp [Value.escapeQuote, hc, quoted?_of_ne hc, ih]

theorem eq_escaped_of_quoted? {literal text : List Char} (h : quoted? literal = some text) :
    literal = text.flatMap Value.escapeQuote ++ ['\''] := by
  fun_induction quoted? literal generalizing text with
  | case1 => cases h
  | case2 =>
    obtain rfl := Option.some.inj h
    rfl
  | case3 after ih =>
    obtain ⟨inner, hinner, rfl⟩ := Option.map_eq_some_iff.mp h
    simp [Value.escapeQuote, ih hinner]
  | case4 => cases h
  | case5 c rest hc ih =>
    obtain ⟨inner, hinner, rfl⟩ := Option.map_eq_some_iff.mp h
    simp [Value.escapeQuote, hc, ih hinner]

/-- A text is read from its own literal and from no other one. -/
theorem unquote?_eq_some {literal text : String} :
    unquote? literal = some text ↔ literal = (Value.text text).display := by
  constructor
  · intro h
    unfold unquote? at h
    split at h
    · cases h
    · rename_i c rest hliteral
      split at h
      · rename_i hc
        obtain ⟨inner, hinner, rfl⟩ := Option.map_eq_some_iff.mp h
        rw [← String.toList_inj, hliteral, hc, eq_escaped_of_quoted? hinner]
        simp [Value.display]
      · cases h
  · rintro rfl
    simp [unquote?, Value.display, quoted?_escaped]

/-! ## Numbers -/

namespace Value

theorem display_of_integer {v : Value} {n : Int} (h : v.datum = .integer n) :
    v.display = Numeral.signed n := by
  cases v with
  | int value =>
    obtain rfl : value.toInt = n := Datum.integer.inj h
    rfl
  | uint value =>
    obtain rfl : (value.toNat : Int) = n := Datum.integer.inj h
    rw [← String.toList_inj, Numeral.signed_toList]
    simp [display, Numeral.decimal]
  | text value => cases h

/-- A number is written with digits and a sign, so no quote opens it. -/
theorem unquote?_of_integer {v : Value} {n : Int} (h : v.datum = .integer n) :
    unquote? v.display = none := by
  have hquote : Numeral.isDigit '\'' = false := by decide
  have hfirst : ∀ c rest, v.display.toList = c :: rest → c ≠ '\'' := by
    rintro c rest hdisplay rfl
    rw [display_of_integer h, Numeral.signed_eq_signChars, Numeral.signChars] at hdisplay
    split at hdisplay
    · cases (List.cons.inj hdisplay).1
    · rw [List.nil_append] at hdisplay
      have hmem : '\'' ∈ Numeral.digits 10 n.natAbs := by
        rw [hdisplay]
        exact List.mem_cons_self
      have hdigit := Numeral.digits_all_isDigit n.natAbs '\'' hmem
      rw [hquote] at hdigit
      cases hdigit
  unfold unquote?
  split
  · rfl
  · rename_i c rest hdisplay
    exact if_neg (hfirst c rest hdisplay)

theorem integer_or_text (v : Value) : (∃ n, v.datum = .integer n) ∨ ∃ t, v = .text t := by
  cases v with
  | int value => exact .inl ⟨_, rfl⟩
  | uint value => exact .inl ⟨_, rfl⟩
  | text value => exact .inr ⟨value, rfl⟩

theorem display_eq_text {v : Value} {t : String} :
    v.display = (text t).display ↔ v = .text t := by
  constructor
  · intro h
    have hread : unquote? v.display = some t := unquote?_eq_some.mpr h
    rcases v.integer_or_text with ⟨n, hn⟩ | ⟨own, rfl⟩
    · rw [unquote?_of_integer hn] at hread
      cases hread
    · have hown : unquote? (text own).display = some own := unquote?_eq_some.mpr rfl
      rw [Option.some.inj (hown.symm.trans hread)]
  · rintro rfl
    rfl

theorem display_eq_iff {a b : Value} : a.display = b.display ↔ a.datum = b.datum := by
  rcases b.integer_or_text with ⟨n, hb⟩ | ⟨t, rfl⟩
  · rcases a.integer_or_text with ⟨m, ha⟩ | ⟨t, rfl⟩
    · rw [display_of_integer ha, display_of_integer hb, ha, hb, Datum.integer.injEq,
        Numeral.signed_inj]
    · rw [eq_comm, display_eq_text, hb]
      constructor
      · rintro rfl
        exact hb
      · intro h
        cases h
  · rw [display_eq_text]
    constructor
    · rintro rfl
      rfl
    · intro h
      rcases a.integer_or_text with ⟨m, ha⟩ | ⟨own, rfl⟩
      · cases ha.symm.trans h
      · rw [Datum.text.inj h]

/-- Two values are the same in the database exactly if they have one literal. So being the same is
an equivalence of signed integers, unsigned ones and texts; and the literal of a text is read back
as this text and is the literal of nothing else. -/
theorem same_iff_one_literal :
    (∀ a b : Value, a.same b = true ↔ a.display = b.display) ∧
    Equivalence (fun a b : Value => a.same b = true) ∧
    (∀ literal t : String, unquote? literal = some t ↔ literal = (text t).display) ∧
    ∀ (v : Value) (t : String), v.display = (text t).display ↔ v = .text t := by
  have hsame : ∀ a b : Value, a.same b = true ↔ a.display = b.display := by
    intro a b
    rw [same_iff, display_eq_iff]
  refine ⟨hsame, ⟨?_, ?_, ?_⟩, ?_, ?_⟩
  · intro a
    exact (hsame a a).mpr rfl
  · intro a b hab
    exact (hsame b a).mpr ((hsame a b).mp hab).symm
  · intro a b c hab hbc
    exact (hsame a c).mpr (((hsame a b).mp hab).trans ((hsame b c).mp hbc))
  · intro literal t
    exact unquote?_eq_some
  · intro v t
    exact display_eq_text

end Value
end SegmentRules.Sql

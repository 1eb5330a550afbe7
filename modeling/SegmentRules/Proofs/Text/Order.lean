import Mathlib.Tactic.SplitIfs
import SegmentRules.Proofs.Numeral

/-! # The order of texts

Texts are ordered by the code points of their characters, and so are their bytes in UTF-8. Numbers
of one width are ordered as their texts are. -/
namespace SegmentRules.Text

/-! ## Bytes -/

/-- The bytes of a text in UTF-8. -/
def utf8 (text : String) : List UInt8 := text.toByteArray.data.toList

theorem utf8_eq_flatMap (text : String) :
    utf8 text = text.toList.flatMap String.utf8EncodeChar := by
  rw [utf8, ← String.utf8Encode_toList, List.utf8Encode, List.toList_data_toByteArray]

/-- The places of numbers to the base 64 decide their order. -/
theorem places_lt {m n : Nat} (h : m < n) :
    m / 262144 < n / 262144 ∨ m / 262144 = n / 262144 ∧
      (m / 4096 % 64 < n / 4096 % 64 ∨ m / 4096 % 64 = n / 4096 % 64 ∧
        (m / 64 % 64 < n / 64 % 64 ∨ m / 64 % 64 = n / 64 % 64 ∧ m % 64 < n % 64)) := by
  omega

theorem toNat_continuation (place : Nat) :
    (UInt8.ofNat (place % 64 + 128)).toNat = place % 64 + 128 := by
  rw [UInt8.toNat_ofNat']
  omega

theorem toNat_lead {place : Nat} (h : place < 8) :
    (UInt8.ofNat (place % 8 + 240)).toNat = place + 240 := by
  rw [UInt8.toNat_ofNat']
  omega

/-- A smaller character has a smaller byte where the bytes of the two first differ. -/
theorem utf8EncodeChar_lt {c d : Char} (h : c < d) (x y : List UInt8) :
    String.utf8EncodeChar c ++ x < String.utf8EncodeChar d ++ y := by
  have hlt : c.val.toNat < d.val.toNat := UInt32.lt_iff_toNat_lt.mp h
  have hlast : d.val.toNat < 1114112 := by
    rcases d.valid with hlow | ⟨-, hhigh⟩
    · exact Nat.lt_trans hlow (by decide)
    · exact hhigh
  unfold String.utf8EncodeChar
  generalize c.val.toNat = m at *
  generalize d.val.toNat = n at *
  have hplaces := places_lt hlt
  have hm : m / 262144 < 8 := by omega
  have hn : n / 262144 < 8 := by omega
  -- One case for each number of bytes of either: the first byte tells different numbers apart.
  dsimp only
  split_ifs <;>
    simp only [List.cons_append, List.nil_append, List.cons_lt_cons_iff, UInt8.lt_iff_toNat_lt,
      ← UInt8.toNat_inj, toNat_continuation, toNat_lead hm, toNat_lead hn, UInt8.toNat_ofNat'] <;>
    omega

theorem utf8EncodeChar_ne_nil (c : Char) : String.utf8EncodeChar c ≠ [] := by
  rw [← List.length_pos_iff, String.length_utf8EncodeChar]
  exact c.utf8Size_pos

theorem utf8_lt {a b : String} (h : a < b) : utf8 a < utf8 b := by
  have hlists : ∀ x y : List Char, List.Lex (· < ·) x y →
      x.flatMap String.utf8EncodeChar < y.flatMap String.utf8EncodeChar := by
    intro x y hlex
    induction hlex with
    | @nil d rest =>
      obtain ⟨byte, bytes, hbytes⟩ := List.exists_cons_of_ne_nil (utf8EncodeChar_ne_nil d)
      rw [List.flatMap_nil, List.flatMap_cons, hbytes, List.cons_append]
      exact List.nil_lt_cons _ _
    | rel hcd =>
      rw [List.flatMap_cons, List.flatMap_cons]
      exact utf8EncodeChar_lt hcd _ _
    | cons _ ih =>
      rw [List.flatMap_cons, List.flatMap_cons]
      exact List.Lex.append_left _ ih _
  rw [utf8_eq_flatMap, utf8_eq_flatMap]
  exact hlists _ _ h

/-- Texts are ordered as their bytes are. -/
theorem utf8_le_iff {a b : String} : utf8 a ≤ utf8 b ↔ a ≤ b := by
  constructor
  · intro h
    exact String.not_lt.mp fun hlt => h (utf8_lt hlt)
  · intro h hlt
    by_cases hsame : a = b
    · subst hsame
      exact List.lt_irrefl _ hlt
    · have hbefore : a < b := by
        by_contra hnot
        exact hsame (String.le_antisymm h (String.not_lt.mp hnot))
      exact List.lt_asymm hlt (utf8_lt hbefore)

/-! ## Fronts -/

theorem append_lt_append_iff {α : Type} [LT α] {a b c d : List α} (same : a.length = b.length) :
    a ++ c < b ++ d ↔ a < b ∨ a = b ∧ c < d := by
  induction a generalizing b with
  | nil =>
    obtain rfl := List.eq_nil_of_length_eq_zero same.symm
    simp
  | cons x a ih =>
    cases b with
    | nil => cases same
    | cons y b =>
      rw [List.cons_append, List.cons_append, List.cons_lt_cons_iff, List.cons_lt_cons_iff,
        ih (Nat.succ.inj same), List.cons.injEq]
      tauto

theorem cons_lt_cons_self {mark : Char} {x y : List Char} : mark :: x < mark :: y ↔ x < y := by
  rw [List.cons_lt_cons_iff]
  simp

end Text

namespace Numeral

theorem digitChar_order {m n : Nat} (hm : m < 10) (hn : n < 10) :
    (digitChar m = digitChar n ↔ m = n) ∧ (digitChar m < digitChar n ↔ m < n) := by
  have hall : ∀ m < 10, ∀ n < 10,
      (digitChar m = digitChar n ↔ m = n) ∧ (digitChar m < digitChar n ↔ m < n) := by decide
  exact hall m hm n hn

/-- Digits of one number are written alike exactly if they are worth the same. -/
theorem order_of_digits {a b : List Char} (same : a.length = b.length)
    (ha : ∀ c ∈ a, isDigit c = true) (hb : ∀ c ∈ b, isDigit c = true) :
    (a = b ↔ value a = value b) ∧ (a < b ↔ value a < value b) := by
  induction a using List.reverseRecOn generalizing b with
  | nil =>
    obtain rfl := List.eq_nil_of_length_eq_zero same.symm
    simp
  | append_singleton a c ih =>
    obtain rfl | ⟨b, d, rfl⟩ := b.eq_nil_or_concat'
    · simp at same
    have hlength : a.length = b.length := by simpa using same
    obtain ⟨m, hreads⟩ := Option.isSome_iff_exists.mp (ha c (by simp))
    obtain ⟨n, hreads'⟩ := Option.isSome_iff_exists.mp (hb d (by simp))
    obtain ⟨hm, rfl⟩ := digitChar_of_digit? hreads
    obtain ⟨hn, rfl⟩ := digitChar_of_digit? hreads'
    obtain ⟨heq, hlt⟩ := ih hlength (fun c hc => ha c (List.mem_append_left _ hc))
      (fun c hc => hb c (List.mem_append_left _ hc))
    obtain ⟨hdigit, hdigit'⟩ := digitChar_order hm hn
    have hsame : a ++ [digitChar m] = b ++ [digitChar n] ↔ value a = value b ∧ m = n := by
      rw [List.append_singleton_inj, heq, hdigit]
    have hbefore : a ++ [digitChar m] < b ++ [digitChar n] ↔
        value a < value b ∨ value a = value b ∧ m < n := by
      rw [Text.append_lt_append_iff hlength, hlt, heq, List.cons_lt_cons_iff, hdigit']
      simp
    rw [hsame, hbefore, value_append_digit a hm, value_append_digit b hn]
    omega

/-- Numbers of one width are ordered as their texts are, and then by what follows. -/
theorem padded_append_lt_iff {width m n : Nat} {x y : List Char} (positive : 0 < width)
    (hm : m < 10 ^ width) (hn : n < 10 ^ width) :
    (padded width m).toList ++ x < (padded width n).toList ++ y ↔ m < n ∨ m = n ∧ x < y := by
  have hlength : (padded width m).toList.length = (padded width n).toList.length := by
    rw [padded_length positive hm, padded_length positive hn]
  obtain ⟨hsame, hbefore⟩ :=
    order_of_digits hlength (padded_all_isDigit width m) (padded_all_isDigit width n)
  rw [value_padded, value_padded] at hsame hbefore
  rw [Text.append_lt_append_iff hlength, hbefore, hsame]

end Numeral
end SegmentRules

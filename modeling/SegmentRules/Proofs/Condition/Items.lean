import SegmentRules.Condition.Filter
import SegmentRules.Proofs.Double.Positional
import SegmentRules.Proofs.Json.Number
import SegmentRules.Proofs.Repetitions
import SegmentRules.Proofs.Selector.Token

/-! # Selectors of the items of a filter

Each item of a filter's value stands for one selector at most. A number stands for one exactly if it
is written as the digits of a product. -/
namespace SegmentRules

open Numeral (digits isDigit value)

/-! ## Tokens of numbers -/

namespace Selector

variable {selector : Selector} {token part : List Char} {id : UInt64}

/-- The characters of a token: blanks, digits, signs and separators. -/
def marksSelector (c : Char) : Bool := Text.isBlank c || isDigit c || c == '+' || c == separator

theorem IsPart.marks (h : IsPart part id) : ∀ c ∈ part, marksSelector c = true := by
  obtain ⟨before, number, after, rfl, hbefore, hafter, hnumber⟩ := h
  intro c hc
  rcases List.mem_append.mp hc with hc | hc
  · rcases List.mem_append.mp hc with hc | hc
    · simp [marksSelector, hbefore c hc]
    · rcases hnumber.chars c hc with rfl | hdigit
      · rfl
      · simp [marksSelector, hdigit]
  · simp [marksSelector, hafter c hc]

theorem Written.marks (h : Written selector token) : ∀ c ∈ token, marksSelector c = true := by
  obtain ⟨id, variant⟩ := selector
  obtain ⟨-, hparts⟩ := h
  cases variant with
  | none => exact IsPart.marks hparts
  | some variant =>
    obtain ⟨product, price, rfl, hproduct, hprice⟩ := hparts
    intro c hc
    rcases List.mem_append.mp hc with hc | hc
    · exact hproduct.marks c hc
    · rcases List.mem_cons.mp hc with rfl | hc
      · rfl
      · exact hprice.marks c hc

theorem not_written_of_mem {c : Char} (h : c ∈ token) (hother : marksSelector c = false) :
    ¬ Written selector token := by
  intro hwritten
  rw [hwritten.marks c h] at hother
  cases hother

theorem isPart_digits {n : Nat} : IsPart (digits 10 n) id ↔ id.toNat = n := by
  have hwrites := Numeral.writes_digits n
  rw [← uint64?_trim, Text.trim_of_no_blank (writes_no_blank hwrites), Numeral.uint64?_eq_some]
  constructor
  · intro h
    exact h.unique hwrites
  · rintro rfl
    exact hwrites

theorem written_digits {n : Nat} :
    Written selector (digits 10 n) ↔ ∃ word : UInt64, word ≠ 0 ∧ word.toNat = n ∧
      selector = ⟨word, none⟩ := by
  have hfree : separator ∉ digits 10 n := by
    intro hmem
    have hdigit := Numeral.digits_all_isDigit n separator hmem
    revert hdigit
    decide
  obtain ⟨id, variant⟩ := selector
  rw [written_without_separator hfree, isPart_digits]
  constructor
  · rintro ⟨hpositive, rfl, hid⟩
    exact ⟨id, hpositive, hid, rfl⟩
  · rintro ⟨word, hpositive, hword, hsame⟩
    obtain ⟨rfl, rfl⟩ := mk.inj hsame
    exact ⟨hpositive, rfl, hword⟩

end Selector

/-! ## Doubles -/

namespace Double

theorem mem_positional (d : Decimal) : '.' ∈ (positional true d).toList := by
  unfold positional
  dsimp only
  split <;> simp

theorem mem_scientific (plusSign : Bool) (d : Decimal) : 'e' ∈ (scientific plusSign d).toList := by
  simp [scientific]

theorem exists_mark_unsignedText (x : Double) :
    ∃ c ∈ (unsignedText Json.numberStyle x).toList, Selector.marksSelector c = false := by
  unfold unsignedText
  split
  · exact ⟨'.', by decide, by decide⟩
  · dsimp only
    split
    · exact ⟨'.', mem_positional _, by decide⟩
    · exact ⟨'e', mem_scientific _ _, by decide⟩

/-- A double is written with a point or a power of ten, and what is no number as a word. -/
theorem exists_mark (x : Double) :
    ∃ c ∈ (Json.renderDouble x).toList, Selector.marksSelector c = false := by
  by_cases finite : x.isFinite = true
  · obtain ⟨c, hc, hother⟩ := exists_mark_unsignedText x
    refine ⟨c, ?_, hother⟩
    rw [Json.renderDouble, if_pos finite, text_of_isFinite finite]
    exact List.mem_append_right _ hc
  · refine ⟨'n', ?_, by decide⟩
    rw [Json.renderDouble, if_neg finite]
    decide

end Double

/-! ## Items -/

namespace Filter

def selector? (item : Json) : Option Selector :=
  (token? item).bind fun token => (Selector.parse token).toOption

/-- The items of a value: those of a list, else the value itself. -/
def items : Json → List Json
  | .array items => items
  | value => [value]

variable {item : Json} {selector : Selector}

theorem selector?_eq_some : selector? item = some selector ↔
    ∃ token, token? item = some token ∧ selector.Written token.toList := by
  rw [selector?, Option.bind_eq_some_iff]
  refine exists_congr fun token => and_congr_right fun _ => ?_
  rw [← Selector.parse_eq_ok]
  cases Selector.parse token with
  | error error => simp [Except.toOption]
  | ok read => simp [Except.toOption]

theorem selector?_integer {n : Int} : selector? (.integer n) = some selector ↔
    ∃ word : UInt64, word ≠ 0 ∧ (word.toNat : Int) = n ∧ selector = ⟨word, none⟩ := by
  have htoken : selector? (.integer n) = some selector ↔
      selector.Written (Numeral.signed n).toList := by
    simp [selector?_eq_some, token?]
  rw [htoken]
  by_cases hsign : n < 0
  · constructor
    · intro h
      have hminus : '-' ∈ (Numeral.signed n).toList := by
        simp [Numeral.signed_eq_signChars, Numeral.signChars, hsign]
      exact absurd h (Selector.not_written_of_mem hminus (by decide))
    · rintro ⟨word, -, hword, -⟩
      omega
  · obtain ⟨k, rfl⟩ := Int.eq_ofNat_of_zero_le (Int.not_lt.mp hsign)
    rw [Numeral.signed_toList, Selector.written_digits]
    simp only [Int.ofNat_inj]

theorem selector?_double (x : Double) : selector? (.double x) = none := by
  rw [Option.eq_none_iff_forall_ne_some]
  intro selector h
  obtain ⟨token, htoken, hwritten⟩ := selector?_eq_some.mp h
  obtain rfl := Option.some.inj htoken
  obtain ⟨c, hc, hother⟩ := x.exists_mark
  exact Selector.not_written_of_mem hc hother hwritten

theorem selector?_eq_none (h : token? item = none) : selector? item = none := by
  rw [selector?, h]
  rfl

/-- A number stands for a selector exactly if it is written as the digits of a positive number of
64 bits: for the product with this number. -/
theorem selector?_number {number : Json.NumberText} {text : List Char} (h : number.Written text) :
    selector? (number.value?.getD .unreadable) = some selector ↔
      ∃ word : UInt64, word ≠ 0 ∧ text = digits 10 word.toNat ∧ selector = ⟨word, none⟩ := by
  constructor
  · intro hselector
    cases hvalue : number.value? with
    | none =>
      rw [hvalue] at hselector
      cases hselector
    | some v =>
      rw [hvalue, Option.getD_some] at hselector
      rcases number.value?_cases hvalue with ⟨n, rfl⟩ | ⟨x, rfl⟩
      · obtain ⟨word, hpositive, hword, rfl⟩ := selector?_integer.mp hselector
        have hword' : word.toNat ≠ 0 := fun hzero => hpositive (UInt64.toNat_inj.mp hzero)
        refine ⟨word, hpositive, h.eq_digits hword' ?_, rfl⟩
        rw [hvalue, hword]
      · rw [selector?_double] at hselector
        cases hselector
  · rintro ⟨word, hpositive, rfl, rfl⟩
    have hwritten := Json.NumberText.written_integer word.toNat
    rw [Numeral.signed_toList] at hwritten
    have hword := word.toNat_lt
    have hvalue := Json.NumberText.value?_digits (Json.holdsInteger_iff.mpr
      (show -2 ^ 63 ≤ (word.toNat : Int) ∧ (word.toNat : Int) < 2 ^ 64 by omega))
    rw [h.unique hwritten, hvalue]
    exact selector?_integer.mpr ⟨word, hpositive, rfl, rfl⟩

theorem normal?_number {number : Json.NumberText} {normal : Json}
    (h : (number.value?.getD .unreadable).normal? = some normal) :
    normal = number.value?.getD .unreadable := by
  cases hvalue : number.value? with
  | none =>
    rw [hvalue] at h
    cases h
  | some v =>
    rw [hvalue, Option.getD_some] at h
    rw [Option.getD_some]
    rcases number.value?_cases hvalue with ⟨n, rfl⟩ | ⟨x, rfl⟩
    · exact (Option.some.inj h).symm
    · exact (Option.some.inj h).symm

end Filter

/-! ## Selectors of values -/

/-- The selector stands in a value: as a token, or as the number of its product. -/
inductive Selector.IsItem : Selector → Json → Prop
  | token {selector : Selector} {text : String} (written : selector.Written text.toList) :
      IsItem selector (.string text)
  | product {id : UInt64} (positive : id ≠ 0) : IsItem ⟨id, none⟩ (.integer id.toNat)

theorem Selector.isItem_iff {selector : Selector} {item : Json} :
    selector.IsItem item ↔ Filter.selector? item = some selector := by
  constructor
  · intro h
    cases h with
    | token written => exact Filter.selector?_eq_some.mpr ⟨_, rfl, written⟩
    | product positive => exact Filter.selector?_integer.mpr ⟨_, positive, rfl, rfl⟩
  · intro h
    cases item with
    | string text =>
      obtain ⟨token, htoken, hwritten⟩ := Filter.selector?_eq_some.mp h
      obtain rfl := Option.some.inj htoken
      exact .token hwritten
    | integer n =>
      obtain ⟨id, hpositive, rfl, rfl⟩ := Filter.selector?_integer.mp h
      exact .product hpositive
    | double x => cases (Filter.selector?_double x).symm.trans h
    | _ => cases h

namespace Filter

/-- One of the items of the value is the selector. -/
def Holds (filter : Filter) (selector : Selector) : Prop :=
  ∃ item ∈ items filter.value, selector.IsItem item

theorem tokens_eq (filter : Filter) : filter.tokens = (items filter.value).filterMap token? := by
  obtain ⟨property, operator, value⟩ := filter
  cases value with
  | array items => rfl
  | string text => rfl
  | integer n => rfl
  | double x => rfl
  | _ => rfl

theorem holds_iff {filter : Filter} {selector : Selector} :
    filter.Holds selector ↔ ∃ token ∈ filter.tokens, selector.Written token.toList := by
  simp only [Holds, Selector.isItem_iff, selector?_eq_some, tokens_eq, List.mem_filterMap]
  constructor
  · rintro ⟨item, hitem, token, htoken, hwritten⟩
    exact ⟨token, ⟨item, hitem, htoken⟩, hwritten⟩
  · rintro ⟨token, ⟨item, hitem, htoken⟩, hwritten⟩
    exact ⟨item, hitem, token, htoken, hwritten⟩

theorem holds_iff_parse {filter : Filter} {selector : Selector} :
    filter.Holds selector ↔ ∃ token ∈ filter.tokens, Selector.parse token = .ok selector := by
  simp only [holds_iff, Selector.parse_eq_ok]

end Filter
end SegmentRules

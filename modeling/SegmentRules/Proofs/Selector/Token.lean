import SegmentRules.Proofs.Numeral
import SegmentRules.Proofs.Selector
import SegmentRules.Proofs.Text.Parts
import SegmentRules.Proofs.Text.Trim

/-! # Tokens of selectors

The texts that are read as a selector are given by a grammar, and the text a selector is shown as is
one of them. -/
namespace SegmentRules.Selector

open Text (AllBlank not_isBlank_of_isDigit)

variable {part token before after product price : List Char} {id : UInt64} {selector : Selector}

/-- A number of 64 bits without sign, possibly between blanks. -/
def IsPart (part : List Char) (id : UInt64) : Prop :=
  ∃ before number after, part = before ++ number ++ after ∧ AllBlank before ∧ AllBlank after ∧
    Numeral.Writes number id.toNat

/-- The token of a positive product, or of one of its variants behind a separator. -/
def Written (selector : Selector) (token : List Char) : Prop :=
  selector.product ≠ 0 ∧
    match selector.variant with
    | none => IsPart token selector.product
    | some variant => ∃ product price, token = product ++ separator :: price ∧
        IsPart product selector.product ∧ IsPart price variant

theorem bind_eq_ok {ε α β : Type} {first : Except ε α} {next : α → Except ε β} {result : β} :
    first >>= next = .ok result ↔ ∃ value, first = .ok value ∧ next value = .ok result := by
  cases first <;> simp [bind, Except.bind]

/-! ## Parts -/

theorem separator_not_blank : Text.isBlank separator = false := by decide

theorem writes_no_blank {number : List Char} {n : Nat} (h : Numeral.Writes number n) :
    ∀ c ∈ number, Text.isBlank c = false := by
  intro c hc
  rcases h.chars c hc with rfl | hdigit
  · decide
  · exact not_isBlank_of_isDigit hdigit

theorem IsPart.no_separator (h : IsPart part id) : separator ∉ part := by
  obtain ⟨before, number, after, rfl, hbefore, hafter, hnumber⟩ := h
  have hwritten : separator ∉ number := fun hmem => by
    rcases hnumber.chars _ hmem with hplus | hdigit
    · revert hplus
      decide
    · revert hdigit
      decide
  simp [hbefore.not_mem separator_not_blank, hafter.not_mem separator_not_blank, hwritten]

theorem uint64?_trim : Numeral.uint64? (Text.trim part) = some id ↔ IsPart part id := by
  rw [Numeral.uint64?_eq_some]
  constructor
  · intro h
    obtain ⟨before, after, hbefore, hafter, hpart⟩ := Text.exists_blanks_trim part
    exact ⟨before, Text.trim part, after, hpart, hbefore, hafter, h⟩
  · rintro ⟨before, number, after, rfl, hbefore, hafter, hnumber⟩
    rwa [Text.trim_blanks hbefore hafter, Text.trim_of_no_blank (writes_no_blank hnumber)]

theorem isPart_blanks (hbefore : AllBlank before) (hafter : AllBlank after) :
    IsPart (before ++ part ++ after) id ↔ IsPart part id := by
  rw [← uint64?_trim, ← uint64?_trim, Text.trim_blanks hbefore hafter]

theorem parseProduct_eq_ok : parseProduct part = .ok id ↔ IsPart part id ∧ id ≠ 0 := by
  rw [parseProduct]
  cases hread : Numeral.uint64? (Text.trim part) with
  | none =>
    have hnone : ¬ IsPart part id := fun h => by
      rw [uint64?_trim.mpr h] at hread
      cases hread
    simp [hnone]
  | some word =>
    have hword := uint64?_trim.mp hread
    by_cases hzero : word = 0
    · simp only [hzero, if_true, reduceCtorEq, false_iff, not_and, not_not]
      intro h
      rw [uint64?_trim.mpr h] at hread
      exact (Option.some.inj hread).trans hzero
    · simp only [hzero, if_false, Except.ok.injEq]
      constructor
      · rintro rfl
        exact ⟨hword, hzero⟩
      · rintro ⟨h, -⟩
        rw [uint64?_trim.mpr h] at hread
        exact (Option.some.inj hread).symm

theorem parseVariant_eq_ok : parseVariant part = .ok id ↔ IsPart part id := by
  rw [parseVariant, ← uint64?_trim]
  cases Numeral.uint64? (Text.trim part) with
  | none => simp
  | some word => simp

/-! ## Tokens -/

theorem written_without_separator (h : separator ∉ token) :
    Written selector token ↔
      selector.product ≠ 0 ∧ selector.variant = none ∧ IsPart token selector.product := by
  rw [Written]
  cases selector.variant with
  | none => simp
  | some variant =>
    simp only [reduceCtorEq, false_and, and_false, iff_false, not_and]
    rintro - ⟨product, price, rfl, -⟩
    exact h (List.mem_append_right product List.mem_cons_self)

/-- A product holds no separator, so the first one in a token ends it. -/
theorem written_with_separator (h : separator ∉ product) :
    Written selector (product ++ separator :: price) ↔ selector.product ≠ 0 ∧
      ∃ variant, selector.variant = some variant ∧ IsPart product selector.product ∧
        IsPart price variant := by
  rw [Written]
  cases selector.variant with
  | none =>
    simp only [reduceCtorEq, false_and, exists_false, and_false, iff_false, not_and]
    intro _ hpart
    exact hpart.no_separator (List.mem_append_right product List.mem_cons_self)
  | some variant =>
    simp only [Option.some.injEq, exists_eq_left']
    refine and_congr_right fun _ => ?_
    constructor
    · rintro ⟨first, second, htoken, hfirst, hsecond⟩
      have hsplit := Text.splitFirst_eq_some.mpr ⟨htoken, hfirst.no_separator⟩
      rw [Text.splitFirst_append h] at hsplit
      obtain ⟨rfl, rfl⟩ := Prod.mk.inj (Option.some.inj hsplit)
      exact ⟨hfirst, hsecond⟩
    · rintro ⟨hproduct, hprice⟩
      exact ⟨product, price, rfl, hproduct, hprice⟩

theorem written_blanks (hbefore : AllBlank before) (hafter : AllBlank after) :
    Written selector (before ++ token ++ after) ↔ Written selector token := by
  have hfirst := hbefore.not_mem separator_not_blank
  have hlast := hafter.not_mem separator_not_blank
  cases hsplit : Text.splitFirst separator token with
  | none =>
    have htoken := Text.splitFirst_eq_none.mp hsplit
    rw [written_without_separator htoken,
      written_without_separator (by simp [hfirst, htoken, hlast]), isPart_blanks hbefore hafter]
  | some parts =>
    obtain ⟨rfl, hproduct⟩ := Text.splitFirst_eq_some.mp hsplit
    have hstart : separator ∉ before ++ parts.1 := by simp [hfirst, hproduct]
    have hshape : before ++ (parts.1 ++ separator :: parts.2) ++ after =
        (before ++ parts.1) ++ separator :: (parts.2 ++ after) := by simp
    have hid : ∀ id, IsPart (before ++ parts.1) id ↔ IsPart parts.1 id := by
      intro id
      have hpart : IsPart (before ++ parts.1 ++ []) id ↔ IsPart parts.1 id :=
        isPart_blanks hbefore Text.allBlank_nil
      rwa [List.append_nil] at hpart
    have hvariant : ∀ id, IsPart (parts.2 ++ after) id ↔ IsPart parts.2 id := by
      intro id
      have hpart : IsPart ([] ++ parts.2 ++ after) id ↔ IsPart parts.2 id :=
        isPart_blanks Text.allBlank_nil hafter
      rwa [List.nil_append] at hpart
    rw [hshape, written_with_separator hstart, written_with_separator hproduct]
    simp only [hid, hvariant]

theorem parseTrimmed_eq_ok : parseTrimmed token = .ok selector ↔ Written selector token := by
  obtain ⟨id, variant⟩ := selector
  rw [parseTrimmed]
  cases hsplit : Text.splitFirst separator token with
  | none =>
    rw [written_without_separator (Text.splitFirst_eq_none.mp hsplit)]
    simp only [bind_eq_ok, parseProduct_eq_ok, pure, Except.pure, Except.ok.injEq, mk.injEq]
    constructor
    · rintro ⟨word, ⟨hpart, hpositive⟩, rfl, rfl⟩
      exact ⟨hpositive, rfl, hpart⟩
    · rintro ⟨hpositive, rfl, hpart⟩
      exact ⟨id, ⟨hpart, hpositive⟩, rfl, rfl⟩
  | some parts =>
    obtain ⟨rfl, hfree⟩ := Text.splitFirst_eq_some.mp hsplit
    rw [written_with_separator hfree]
    simp only [bind_eq_ok, parseProduct_eq_ok, parseVariant_eq_ok, pure, Except.pure,
      Except.ok.injEq, mk.injEq]
    constructor
    · rintro ⟨word, ⟨hproduct, hpositive⟩, price, hprice, rfl, rfl⟩
      exact ⟨hpositive, price, rfl, hproduct, hprice⟩
    · rintro ⟨hpositive, price, rfl, hproduct, hprice⟩
      exact ⟨id, ⟨hproduct, hpositive⟩, price, hprice, rfl, rfl⟩

/-- A token is read after the blanks around it are taken away. -/
theorem parse_eq_ok {text : String} : parse text = .ok selector ↔ Written selector text.toList := by
  obtain ⟨before, after, hbefore, hafter, htext⟩ := Text.exists_blanks_trim text.toList
  have htrimmed : Written selector text.toList ↔ Written selector (Text.trim text.toList) := by
    conv_lhs => rw [htext]
    exact written_blanks hbefore hafter
  rw [htrimmed, ← parseTrimmed_eq_ok, parse]
  cases parseTrimmed (Text.trim text.toList) with
  | error fault => simp [Except.mapError]
  | ok read => simp [Except.mapError]

theorem parse_cases (text : String) :
    (∃ selector, parse text = .ok selector) ∨
      ∃ fault, parse text =
        .error (.malformedSelector (String.ofList (Text.trim text.toList)) fault) := by
  rw [parse]
  cases parseTrimmed (Text.trim text.toList) with
  | error fault => exact .inr ⟨fault, rfl⟩
  | ok selector => exact .inl ⟨selector, rfl⟩

/-! ## Selectors as they are shown -/

theorem isPart_decimal (id : UInt64) : IsPart (Numeral.decimal id.toNat).toList id := by
  have hwrites := Numeral.writes_digits id.toNat
  rw [Numeral.decimal, String.toList_ofList]
  exact ⟨[], _, [], by simp, Text.allBlank_nil, Text.allBlank_nil, hwrites⟩

theorem written_display (positive : selector.product ≠ 0) :
    Written selector selector.display.toList := by
  obtain ⟨id, variant⟩ := selector
  refine ⟨positive, ?_⟩
  cases variant with
  | none => exact isPart_decimal id
  | some variant =>
    exact ⟨_, _, by simp [display, separator], isPart_decimal id, isPart_decimal variant⟩

/-- A token is read as the selector that the grammar finds in it, and any other text is refused with
the token as it is without blanks. What a selector is shown as is read as the same selector. -/
theorem parse_exact (text : String) :
    (∀ selector, parse text = .ok selector ↔ Written selector text.toList) ∧
    ((¬ ∃ selector, Written selector text.toList) → ∃ fault, parse text =
      .error (.malformedSelector (String.ofList (Text.trim text.toList)) fault)) ∧
    (∀ selector, selector.product ≠ 0 → parse selector.display = .ok selector) ∧
    ∀ selector, parse text = .ok selector → parse selector.display = parse text := by
  refine ⟨fun selector => parse_eq_ok, ?_, ?_, ?_⟩
  · intro hnone
    rcases parse_cases text with ⟨selector, hparse⟩ | hfault
    · exact absurd ⟨selector, parse_eq_ok.mp hparse⟩ hnone
    · exact hfault
  · intro selector positive
    exact parse_eq_ok.mpr (written_display positive)
  · intro selector hparse
    rw [hparse]
    exact parse_eq_ok.mpr (written_display (parse_eq_ok.mp hparse).1)

end SegmentRules.Selector

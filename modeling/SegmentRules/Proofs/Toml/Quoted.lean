import Mathlib.Data.List.TakeWhile
import SegmentRules.Proofs.Text.Parts
import SegmentRules.Toml.Scalar
import SegmentRules.Toml.Writer

/-! # Texts are read back

Every text has a written form, and whichever form the writer chooses, the text is what is read. -/
namespace SegmentRules.Toml

/-! ## Escapes -/

/-- A text behind a backslash that stands for a character. -/
structure IsEscape (c : Char) (text : List Char) : Prop where
  read : ∀ rest, escape? (text ++ rest) = some (c, rest)
  single : ∀ rest, continued? (text ++ rest) = none

theorem lineBreak?_of_ne {c : Char} (hbreak : c ≠ '\n') (hreturn : c ≠ '\r') (rest : List Char) :
    lineBreak? (c :: rest) = none := by
  unfold lineBreak?
  split
  · rename_i heq
    exact absurd (List.cons.inj heq).1 hbreak
  · rename_i heq
    exact absurd (List.cons.inj heq).1 hreturn
  · rfl

theorem continued?_of_ne {c : Char} (hblank : isBlank c = false) (hbreak : c ≠ '\n')
    (hreturn : c ≠ '\r') (rest : List Char) : continued? (c :: rest) = none := by
  rw [continued?, List.dropWhile_cons_of_neg (by simp [hblank]), lineBreak?_of_ne hbreak hreturn,
    Option.map_none]

theorem isEscape_letter {letter c : Char} (h : escaped? letter = some c) :
    IsEscape c [letter] := by
  have hne : ∀ other, escaped? other = none → letter ≠ other := by
    rintro other hnone rfl
    cases hnone.symm.trans h
  have hblank : isBlank letter = false := by
    simp [isBlank, hne ' ' rfl, hne '\t' rfl]
  constructor
  · intro rest
    simp [escape?, hne 'u' rfl, hne 'U' rfl, h]
  · intro rest
    exact continued?_of_ne hblank (hne '\n' rfl) (hne '\r' rfl) rest

theorem isEscape_quote : IsEscape '"' ['"'] :=
  isEscape_letter rfl

theorem numberEscape_eq {c : Char} (h : isControl c = true) :
    ∃ digits, numberEscape c = '\\' :: 'u' :: digits ∧ digits.length = 4 ∧
      (hexNumber? digits).bind character? = some c := by
  have hall : ∀ n < 128, isControl (Char.ofNat n) = true →
      ((numberEscape (Char.ofNat n)).take 2 = ['\\', 'u'] ∧
        ((numberEscape (Char.ofNat n)).drop 2).length = 4 ∧
        (hexNumber? ((numberEscape (Char.ofNat n)).drop 2)).bind character? =
          some (Char.ofNat n)) := by
    decide +kernel
  have hsmall : c.toNat < 128 := by
    simp only [isControl, Bool.or_eq_true, Bool.and_eq_true, decide_eq_true_eq, beq_iff_eq] at h
    omega
  have hc := hall c.toNat hsmall
  rw [Char.ofNat_toNat] at hc
  obtain ⟨hstart, hlength, hvalue⟩ := hc h
  refine ⟨(numberEscape c).drop 2, ?_, hlength, hvalue⟩
  rw [← List.take_append_drop 2 (numberEscape c), hstart]
  rfl

theorem isEscape_number {c : Char} (h : isControl c = true) :
    ∃ text, numberEscape c = '\\' :: text ∧ IsEscape c text := by
  obtain ⟨digits, heq, hlength, hvalue⟩ := numberEscape_eq h
  obtain ⟨n, hn, hc⟩ := Option.bind_eq_some_iff.mp hvalue
  refine ⟨'u' :: digits, heq, fun rest => ?_, fun rest => ?_⟩
  · have htake : (digits ++ rest).take 4 = digits := List.take_left' hlength
    have hdrop : (digits ++ rest).drop 4 = rest := List.drop_left' hlength
    simp [escape?, htake, hdrop, hlength, hn, hc]
  · exact continued?_of_ne (by decide) (by decide) (by decide) (digits ++ rest)

theorem isPlain_of_not_isControl {c : Char} (h : ¬ isControl c = true) (hbreak : c ≠ '\n') :
    isPlain c = true := by
  by_cases htab : c = '\t'
  · simp [isPlain, htab]
  · simp only [isControl, htab, hbreak, ne_eq, not_false_eq_true, decide_true, Bool.and_true,
      Bool.or_eq_true, decide_eq_true_eq, beq_iff_eq, not_or] at h
    simp only [isPlain, htab, decide_false, Bool.false_or, Bool.and_eq_true, decide_eq_true_eq,
      bne_iff_ne]
    omega

/-- What stands between double quotes for a character: the character, a line break in a form over
several lines, or an escape. -/
inductive Stands (isMultiline : Bool) (c : Char) : List Char → Prop
  | plain (plain : isPlain c = true) (bare : c ≠ '\\') : Stands isMultiline c [c]
  | lineBreak (several : isMultiline = true) (isBreak : c = '\n') : Stands isMultiline c ['\n']
  | escaped {text : List Char} (isEscape : IsEscape c text) : Stands isMultiline c ('\\' :: text)

theorem stands_escape (isMultiline : Bool) (c : Char) :
    Stands isMultiline c (escape isMultiline c) := by
  unfold escape
  repeat' split
  · subst c; exact .escaped (isEscape_letter rfl)
  · subst c; exact .escaped (isEscape_letter rfl)
  · rename_i hbreak hmultiline
    exact .lineBreak hmultiline hbreak
  · subst c; exact .escaped (isEscape_letter rfl)
  · subst c; exact .escaped (isEscape_letter rfl)
  · subst c; exact .escaped (isEscape_letter rfl)
  · subst c; exact .escaped (isEscape_letter rfl)
  · rename_i hcontrol
    obtain ⟨text, heq, hescape⟩ := isEscape_number hcontrol
    rw [heq]
    exact .escaped hescape
  · rename_i hbreak _ _ hbackslash hcontrol
    exact .plain (isPlain_of_not_isControl hcontrol hbreak) hbackslash

theorem length_le_escapeAll (isMultiline : Bool) (most run : Nat) (text : List Char) :
    text.length ≤ (escapeAll isMultiline most run text).length := by
  induction text generalizing run with
  | nil => exact Nat.le_refl 0
  | cons c rest ih =>
    rw [escapeAll]
    split
    · split
      · have hrest := ih (run + 1)
        simpa using hrest
      · have hrest := ih 0
        simp only [List.length_cons]
        omega
    · have hrest := ih 0
      have hpiece : 0 < (escape isMultiline c).length := by
        cases hstands : escape isMultiline c with
        | nil =>
          have hnil := stands_escape isMultiline c
          rw [hstands] at hnil
          cases hnil
        | cons => exact Nat.succ_pos _
      simp only [List.length_cons, List.length_append]
      omega

/-! ## On one line -/

theorem basic?_escape {c : Char} {text : List Char} (h : IsEscape c text) (fuel : Nat)
    (rest : List Char) :
    basic? (fuel + 1) ('\\' :: (text ++ rest)) =
      (basic? fuel rest).map fun (text, rest) => (c :: text, rest) := by
  rw [basic?, if_neg (by decide), if_pos rfl, h.read, Option.bind_eq_bind, Option.bind_some]
  dsimp only
  cases basic? fuel rest <;> rfl

theorem basic?_piece {c : Char} {piece : List Char} (h : Stands false c piece) (quote : c ≠ '"')
    (fuel : Nat) (rest : List Char) :
    basic? (fuel + 1) (piece ++ rest) =
      (basic? fuel rest).map fun (text, rest) => (c :: text, rest) := by
  cases h with
  | plain plain bare => simp [basic?, quote, bare, plain]
  | lineBreak several => cases several
  | escaped isEscape => exact basic?_escape isEscape fuel rest

theorem basic?_escapeAll {text : List Char} {fuel : Nat} (h : text.length < fuel)
    (rest : List Char) :
    basic? fuel (escapeAll false 0 0 text ++ '"' :: rest) = some (text, rest) := by
  induction text generalizing fuel with
  | nil =>
    obtain ⟨fuel, rfl⟩ := Nat.exists_eq_add_one_of_ne_zero (Nat.ne_of_gt h)
    simp [escapeAll, basic?]
  | cons c text ih =>
    obtain ⟨fuel, rfl⟩ := Nat.exists_eq_add_one_of_ne_zero (Nat.ne_of_gt (Nat.zero_lt_of_lt h))
    have hrest := ih (Nat.lt_of_succ_lt_succ h)
    by_cases hquote : c = '"'
    · subst hquote
      have hescape := basic?_escape isEscape_quote fuel
        (escapeAll false 0 0 text ++ '"' :: rest)
      rw [hrest] at hescape
      rw [escapeAll, if_pos rfl, if_neg (Nat.lt_irrefl 0)]
      exact hescape
    · rw [escapeAll, if_neg hquote, List.append_assoc,
        basic?_piece (stands_escape false c) hquote, hrest, Option.map_some]

theorem escapeAll_head_ne (text : List Char) : (escapeAll false 0 0 text).head? ≠ some '"' := by
  cases text with
  | nil => simp [escapeAll]
  | cons c text =>
    by_cases hquote : c = '"'
    · simp [escapeAll, hquote]
    · have hstands := stands_escape false c
      rw [escapeAll, if_neg hquote]
      generalize escape false c = piece at hstands ⊢
      cases hstands <;> simp [hquote]

/-- Behind one quote a second one closes the empty text; only a third one would open several
lines. -/
theorem string?_quote {content : List Char} (h : content.head? ≠ some '"') (rest : List Char) :
    string? ('"' :: (content ++ '"' :: '\n' :: rest)) =
      basic? ((content ++ '"' :: '\n' :: rest).length + 1) (content ++ '"' :: '\n' :: rest) := by
  cases content with
  | nil => rfl
  | cons c content =>
    have hne : c ≠ '"' := by simpa using h
    unfold string?
    split
    · rename_i heq
      exact absurd (List.cons.inj (List.cons.inj heq).2).1 hne
    · rename_i heq
      rw [(List.cons.inj heq).2]
    · rename_i heq
      exact absurd (List.cons.inj heq).1 (by decide)
    · rename_i heq
      exact absurd (List.cons.inj heq).1 (by decide)
    · rename_i hother _ _
      exact absurd rfl (hother _)

theorem string?_basicText (text rest : List Char) :
    string? (basicText text ++ '\n' :: rest) = some (text, '\n' :: rest) := by
  have hlength := length_le_escapeAll false 0 0 text
  simp only [basicText, List.cons_append, List.append_assoc, List.nil_append]
  rw [string?_quote (escapeAll_head_ne text)]
  refine basic?_escapeAll ?_ ('\n' :: rest)
  rw [List.length_append]
  omega

theorem literal?_append {text : List Char} (h : ∀ c ∈ text, isPlain c = true ∧ c ≠ '\'')
    (rest : List Char) : literal? (text ++ '\'' :: rest) = some (text, rest) := by
  induction text with
  | nil => simp [literal?]
  | cons c text ih =>
    obtain ⟨⟨hplain, hquote⟩, htext⟩ := List.forall_mem_cons.mp h
    simp [literal?, hplain, hquote, ih htext]

theorem string?_literalText {text : List Char} (h : ∀ c ∈ text, isPlain c = true ∧ c ≠ '\'')
    (rest : List Char) :
    string? ('\'' :: text ++ ['\''] ++ '\n' :: rest) = some (text, '\n' :: rest) := by
  have hliteral := literal?_append h ('\n' :: rest)
  cases text with
  | nil => rfl
  | cons c text =>
    have hquote : c ≠ '\'' := (h c List.mem_cons_self).2
    simp only [List.cons_append, List.append_assoc, List.nil_append] at hliteral ⊢
    unfold string?
    split
    · rename_i heq
      exact absurd (List.cons.inj heq).1 (by decide)
    · rename_i heq
      exact absurd (List.cons.inj heq).1 (by decide)
    · rename_i heq
      exact absurd (List.cons.inj (List.cons.inj heq).2).1 hquote
    · rename_i heq
      rwa [← (List.cons.inj heq).2]
    · rename_i hother
      exact absurd rfl (hother _)

/-! ## Over several lines -/

/-- Quotes within a form over several lines. At its start they are all that is left of the text, or
too few to close it; `run` more stand before them. -/
def Spare (quote : Char) (run : Nat) (content text : List Char) : Prop :=
  (∃ count, count + run ≤ 2 ∧ content = List.replicate count quote ∧
      text = List.replicate count quote) ∨
    ∀ tail, ((content ++ tail).takeWhile (· = quote)).length + run ≤ 2

namespace Spare

variable {quote : Char} {run : Nat} {content text : List Char}

theorem nil (h : run ≤ 2) : Spare quote run [] [] :=
  .inl ⟨0, by omega, rfl, rfl⟩

theorem quote_cons (h : Spare quote (run + 1) content text) :
    Spare quote run (quote :: content) (quote :: text) := by
  rcases h with ⟨count, hcount, rfl, rfl⟩ | hfew
  · exact .inl ⟨count + 1, by omega, rfl, rfl⟩
  · refine .inr fun tail => ?_
    have htail := hfew tail
    rw [List.cons_append, List.takeWhile_cons_of_pos (by simp), List.length_cons]
    omega

theorem other_cons {c : Char} (h : run ≤ 2) (hne : c ≠ quote) :
    Spare quote run (c :: content) text := by
  refine .inr fun tail => ?_
  rw [List.cons_append, List.takeWhile_cons_of_neg (by simpa using hne), List.length_nil]
  omega

/-- At its start a text is closed if nothing but quotes is left of it, and otherwise not. -/
theorem closing (h : Spare quote run content text) (hquote : quote ≠ '\n') (rest : List Char) :
    closing? quote (content ++ quote :: quote :: quote :: '\n' :: rest) = none ∨
      closing? quote (content ++ quote :: quote :: quote :: '\n' :: rest) =
        some (text, '\n' :: rest) := by
  rcases h with ⟨count, hcount, rfl, rfl⟩ | hfew
  · right
    have hquotes : List.replicate count quote ++ quote :: quote :: quote :: '\n' :: rest =
        List.replicate (count + 3) quote ++ '\n' :: rest := by
      rw [← List.replicate_append_replicate, List.append_assoc]
      rfl
    have htake : ((List.replicate (count + 3) quote ++ '\n' :: rest).takeWhile (· = quote)) =
        List.replicate (count + 3) quote := by
      simp [hquote.symm]
    have hdrop : (List.replicate (count + 3) quote ++ '\n' :: rest).drop (count + 3) =
        '\n' :: rest := List.drop_left' List.length_replicate
    have hown : min count 2 = count := by omega
    simp [hquotes, closing?, htake, hown, hdrop]
  · left
    have hrun := hfew (quote :: quote :: quote :: '\n' :: rest)
    rw [closing?, if_pos (by omega)]

end Spare

theorem spare_escapeAll {run : Nat} (h : run ≤ 2) (text : List Char) :
    Spare '"' run (escapeAll true 2 run text) text := by
  induction text generalizing run with
  | nil => exact .nil h
  | cons c text ih =>
    by_cases hquote : c = '"'
    · subst hquote
      rw [escapeAll, if_pos rfl]
      by_cases hrun : run < 2
      · rw [if_pos hrun]
        exact (ih (by omega)).quote_cons
      · rw [if_neg hrun]
        exact .other_cons h (by decide)
    · have hstands := stands_escape true c
      rw [escapeAll, if_neg hquote]
      generalize escape true c = piece at hstands ⊢
      cases hstands with
      | plain => exact .other_cons h hquote
      | lineBreak => exact .other_cons h (by decide)
      | escaped => exact .other_cons h (by decide)

theorem closing?_of_ne {c quote : Char} (h : c ≠ quote) (rest : List Char) :
    closing? quote (c :: rest) = none := by
  simp [closing?, h]

theorem multilineBasic?_plain {c : Char} {rest : List Char}
    (closing : closing? '"' (c :: rest) = none) (plain : isPlain c = true) (bare : c ≠ '\\')
    (fuel : Nat) :
    multilineBasic? (fuel + 1) (c :: rest) =
      (multilineBasic? fuel rest).map fun (text, rest) => (c :: text, rest) := by
  have hbreak := lineBreak?_of_ne (ne_of_class plain rfl) (ne_of_class plain rfl) rest
  simp [multilineBasic?, closing, bare, plain, hbreak]

theorem multilineBasic?_escape {c : Char} {text : List Char} (h : IsEscape c text) (fuel : Nat)
    (rest : List Char) :
    multilineBasic? (fuel + 1) ('\\' :: (text ++ rest)) =
      (multilineBasic? fuel rest).map fun (text, rest) => (c :: text, rest) := by
  rw [multilineBasic?, closing?_of_ne (by decide)]
  dsimp only
  rw [if_pos rfl, h.single]
  dsimp only
  rw [h.read, Option.bind_eq_bind, Option.bind_some]
  dsimp only
  cases multilineBasic? fuel rest <;> rfl

theorem multilineBasic?_piece {c : Char} {piece : List Char} (h : Stands true c piece)
    (quote : c ≠ '"') (fuel : Nat) (rest : List Char) :
    multilineBasic? (fuel + 1) (piece ++ rest) =
      (multilineBasic? fuel rest).map fun (text, rest) => (c :: text, rest) := by
  cases h with
  | plain plain bare => exact multilineBasic?_plain (closing?_of_ne quote rest) plain bare fuel
  | lineBreak _ isBreak =>
    subst isBreak
    simp [multilineBasic?, closing?_of_ne, lineBreak?]
  | escaped isEscape => exact multilineBasic?_escape isEscape fuel rest

theorem multilineBasic?_escapeAll {text : List Char} {fuel run : Nat} (h : text.length < fuel)
    (hrun : run ≤ 2) (rest : List Char) :
    multilineBasic? fuel (escapeAll true 2 run text ++ '"' :: '"' :: '"' :: '\n' :: rest) =
      some (text, '\n' :: rest) := by
  induction text generalizing fuel run with
  | nil =>
    obtain ⟨fuel, rfl⟩ := Nat.exists_eq_add_one_of_ne_zero (Nat.ne_of_gt h)
    simp [escapeAll, multilineBasic?, closing?]
  | cons c text ih =>
    obtain ⟨fuel, rfl⟩ := Nat.exists_eq_add_one_of_ne_zero (Nat.ne_of_gt (Nat.zero_lt_of_lt h))
    have hlength : text.length < fuel := Nat.lt_of_succ_lt_succ h
    by_cases hquote : c = '"'
    · subst hquote
      have hspare := (spare_escapeAll hrun ('"' :: text)).closing (by decide) rest
      rw [escapeAll, if_pos rfl] at hspare ⊢
      by_cases hfew : run < 2
      · rw [if_pos hfew] at hspare ⊢
        rcases hspare with hnone | hclosed
        · rw [List.cons_append] at hnone ⊢
          rw [multilineBasic?_plain hnone rfl (by decide), ih hlength (by omega), Option.map_some]
        · rw [List.cons_append] at hclosed ⊢
          rw [multilineBasic?, hclosed]
      · rw [if_neg hfew]
        have hescape := multilineBasic?_escape isEscape_quote fuel
          (escapeAll true 2 0 text ++ '"' :: '"' :: '"' :: '\n' :: rest)
        rw [ih hlength (Nat.zero_le 2)] at hescape
        exact hescape
    · rw [escapeAll, if_neg hquote, List.append_assoc,
        multilineBasic?_piece (stands_escape true c) hquote, ih hlength (Nat.zero_le 2),
        Option.map_some]

/-! ### Without escapes -/

theorem le_longestRun (mark : Char) (run longest : Nat) (text : List Char) :
    longest ≤ longestRun mark run longest text := by
  induction text generalizing run longest with
  | nil => exact Nat.le_refl longest
  | cons c text ih => exact Nat.le_trans (Nat.le_max_right _ longest) (ih _ _)

theorem not_mem_of_longestRun_eq_zero {mark : Char} {run longest : Nat} {text : List Char}
    (h : longestRun mark run longest text = 0) : mark ∉ text := by
  induction text generalizing run longest with
  | nil => exact List.not_mem_nil
  | cons c text ih =>
    rw [longestRun] at h
    have hrun := le_longestRun mark (if c = mark then run + 1 else 0)
      (max (if c = mark then run + 1 else 0) longest) text
    rw [List.mem_cons, not_or]
    refine ⟨?_, ih h⟩
    rintro rfl
    rw [if_pos rfl] at h hrun
    omega

theorem spare_of_longestRun {mark : Char} {run longest : Nat} {text : List Char} (hrun : run ≤ 2)
    (h : longestRun mark run longest text ≤ 2) : Spare mark run text text := by
  induction text generalizing run longest with
  | nil => exact .nil hrun
  | cons c text ih =>
    rw [longestRun] at h
    by_cases hmark : c = mark
    · subst hmark
      have hnext := le_longestRun c (run + 1) (max (run + 1) longest) text
      rw [if_pos rfl] at h
      exact (ih (by omega) h).quote_cons
    · exact .other_cons hrun hmark

theorem multilineLiteral?_append {text : List Char} {fuel run longest : Nat}
    (h : text.length < fuel) (plain : ∀ c ∈ text, isPlain c = true ∨ c = '\n') (hrun : run ≤ 2)
    (few : longestRun '\'' run longest text ≤ 2) (rest : List Char) :
    multilineLiteral? fuel (text ++ '\'' :: '\'' :: '\'' :: '\n' :: rest) =
      some (text, '\n' :: rest) := by
  induction text generalizing fuel run longest with
  | nil =>
    obtain ⟨fuel, rfl⟩ := Nat.exists_eq_add_one_of_ne_zero (Nat.ne_of_gt h)
    simp [multilineLiteral?, closing?]
  | cons c text ih =>
    obtain ⟨fuel, rfl⟩ := Nat.exists_eq_add_one_of_ne_zero (Nat.ne_of_gt (Nat.zero_lt_of_lt h))
    obtain ⟨hplain, htext⟩ := List.forall_mem_cons.mp plain
    have hspare := (spare_of_longestRun hrun few).closing (by decide) rest
    rw [longestRun] at few
    have hnext := le_longestRun '\'' (if c = '\'' then run + 1 else 0)
      (max (if c = '\'' then run + 1 else 0) longest) text
    have hread := ih (Nat.lt_of_succ_lt_succ h) htext (by omega) few
    rw [List.cons_append] at hspare ⊢
    rcases hspare with hnone | hclosed
    · rw [multilineLiteral?, hnone]
      dsimp only
      rcases hplain with hplain | rfl
      · have hbreak := lineBreak?_of_ne (ne_of_class hplain rfl) (ne_of_class hplain rfl)
          (text ++ '\'' :: '\'' :: '\'' :: '\n' :: rest)
        rw [hbreak]
        dsimp only
        rw [if_pos hplain, hread, Option.map_some]
      · simp only [lineBreak?, hread, Option.map_some]
    · rw [multilineLiteral?, hclosed]

/-! ### The opening quotes -/

/-- A form over several lines starts with a line break of its own if the text has one anywhere, for
the text itself may start with one. -/
theorem afterOpening_multiline {text content : List Char} (quote : Char)
    (hbreak : quote ≠ '\n') (hreturn : quote ≠ '\r')
    (h : '\n' ∉ text → ∀ c, content.head? = some c → c ≠ '\n' ∧ c ≠ '\r') (rest : List Char) :
    afterOpening ((if text.contains '\n' then ['\n'] else []) ++ (content ++ quote :: rest)) =
      content ++ quote :: rest := by
  by_cases hmem : '\n' ∈ text
  · rw [if_pos (List.contains_iff_mem.mpr hmem)]
    rfl
  · rw [if_neg (by simpa using hmem), List.nil_append, afterOpening]
    cases content with
    | nil => rw [List.nil_append, lineBreak?_of_ne hbreak hreturn, Option.getD_none]
    | cons c content =>
      obtain ⟨hc, hc'⟩ := h hmem c rfl
      rw [List.cons_append, lineBreak?_of_ne hc hc', Option.getD_none]

theorem string?_multilineBasicText (text rest : List Char) :
    string? (multilineBasicText text ++ '\n' :: rest) = some (text, '\n' :: rest) := by
  have hhead : '\n' ∉ text →
      ∀ c, (escapeAll true 2 0 text).head? = some c → c ≠ '\n' ∧ c ≠ '\r' := by
    intro hmem c hc
    cases text with
    | nil => simp [escapeAll] at hc
    | cons first text =>
      by_cases hquote : first = '"'
      · obtain rfl : '"' = c := by simpa [escapeAll, hquote] using hc
        decide
      · have hstands := stands_escape true first
        rw [escapeAll, if_neg hquote] at hc
        generalize escape true first = piece at hstands hc
        cases hstands with
        | plain plain =>
          obtain rfl : first = c := by simpa using hc
          exact ⟨ne_of_class plain rfl, ne_of_class plain rfl⟩
        | lineBreak _ isBreak => simp [isBreak] at hmem
        | escaped =>
          obtain rfl : '\\' = c := by simpa using hc
          decide
  have hlength := length_le_escapeAll true 2 0 text
  have hopening := afterOpening_multiline '"' (by decide) (by decide) hhead
    ('"' :: '"' :: '\n' :: rest)
  simp only [multilineBasicText, multiline, List.cons_append, List.append_assoc, List.nil_append]
  rw [string?, hopening]
  refine multilineBasic?_escapeAll ?_ (Nat.zero_le 2) rest
  simp only [List.length_append, List.length_cons]
  omega

theorem string?_multilineLiteral {text : List Char}
    (plain : ∀ c ∈ text, isPlain c = true ∨ c = '\n') (few : longestRun '\'' 0 0 text ≤ 2)
    (rest : List Char) :
    string? (multiline ['\'', '\'', '\''] text text ++ '\n' :: rest) =
      some (text, '\n' :: rest) := by
  have hhead : '\n' ∉ text → ∀ c, text.head? = some c → c ≠ '\n' ∧ c ≠ '\r' := by
    intro hmem c hc
    have hc' := List.mem_of_head? hc
    rcases plain c hc' with hplain | rfl
    · exact ⟨ne_of_class hplain rfl, ne_of_class hplain rfl⟩
    · exact absurd hc' hmem
  have hopening := afterOpening_multiline '\'' (by decide) (by decide) hhead
    ('\'' :: '\'' :: '\n' :: rest)
  simp only [multiline, List.cons_append, List.append_assoc, List.nil_append]
  rw [string?, hopening]
  refine multilineLiteral?_append ?_ plain (Nat.zero_le 2) few rest
  simp only [List.length_append, List.length_cons]
  omega

/-! ## Every text -/

/-- A written text is read back up to the end of its line. -/
theorem string?_stringText (text : String) (rest : List Char) :
    string? ((stringText text).toList ++ '\n' :: rest) = some (text.toList, '\n' :: rest) := by
  have hplain : text.toList.any isControl = false →
      ∀ c ∈ text.toList, isPlain c = true ∨ c = '\n' := by
    intro hcontrol c hc
    by_cases hbreak : c = '\n'
    · exact .inr hbreak
    · exact .inl (isPlain_of_not_isControl (List.any_eq_false.mp hcontrol c hc) hbreak)
  simp only [stringText, String.toList_ofList]
  split
  · exact string?_basicText _ rest
  split
  · rename_i hform
    simp only [Bool.and_eq_true, Bool.not_eq_true', beq_iff_eq] at hform
    obtain ⟨⟨hcontrol, hbreak⟩, happostrophes⟩ := hform
    have hbreak' : '\n' ∉ text.toList := by simpa using hbreak
    refine string?_literalText (fun c hc => ⟨?_, ?_⟩) rest
    · refine (hplain hcontrol c hc).resolve_right ?_
      rintro rfl
      exact hbreak' hc
    · rintro rfl
      exact not_mem_of_longestRun_eq_zero happostrophes hc
  split
  · exact string?_multilineBasicText _ rest
  split
  · rename_i hform
    simp only [Bool.and_eq_true, Bool.not_eq_true', decide_eq_true_eq] at hform
    exact string?_multilineLiteral (hplain hform.1) (Nat.le_of_lt_succ hform.2) rest
  split
  · exact string?_multilineBasicText _ rest
  · exact string?_basicText _ rest

theorem stringText_head (text : String) :
    (stringText text).toList.head? = some '"' ∨ (stringText text).toList.head? = some '\'' := by
  simp only [stringText, String.toList_ofList]
  repeat' split
  all_goals first | exact .inl rfl | exact .inr rfl

end SegmentRules.Toml

import Mathlib.Data.List.Infix
import SegmentRules.Text.Lowercase

/-! # Small letters between other letters

The small form of a text depends on its neighbours by its capital sigmas alone: whether one of them
is final is decided by the nearest characters on either side that are not case-ignorable. -/
namespace SegmentRules.Text

variable {before after text : List Char}

/-! ## The nearest cased letter -/

/-- Some character of the text is not case-ignorable. -/
def Decides (text : List Char) : Prop := ∃ c ∈ text, caseIgnorableRanges.contains c.toNat = false

theorem decides_reverse : Decides text.reverse ↔ Decides text := by
  simp [Decides]

theorem startsCased_append_of_decides (h : Decides text) (rest : List Char) :
    startsCased (text ++ rest) = startsCased text := by
  induction text with
  | nil =>
    obtain ⟨c, hc, -⟩ := h
    cases hc
  | cons c text ih =>
    cases hignorable : caseIgnorableRanges.contains c.toNat with
    | false => simp [startsCased, hignorable]
    | true =>
      have hrest : Decides text := by
        obtain ⟨d, hd, hd'⟩ := h
        rcases List.mem_cons.mp hd with rfl | hmem
        · cases hignorable.symm.trans hd'
        · exact ⟨d, hmem, hd'⟩
      simp [startsCased, hignorable, ih hrest]

theorem startsCased_append_of_not_decides (h : ¬ Decides text) (rest : List Char) :
    startsCased (text ++ rest) = startsCased rest := by
  induction text with
  | nil => rfl
  | cons c text ih =>
    have hignorable : caseIgnorableRanges.contains c.toNat = true := by
      by_contra hc
      exact h ⟨c, List.mem_cons_self, by simpa using hc⟩
    have hrest : ¬ Decides text := by
      rintro ⟨d, hd, hd'⟩
      exact h ⟨d, List.mem_cons_of_mem c hd, hd'⟩
    simp [startsCased, hignorable, ih hrest]

theorem startsCased_of_not_decides (h : ¬ Decides text) : startsCased text = false := by
  have hempty := startsCased_append_of_not_decides h []
  rwa [List.append_nil] at hempty

theorem startsCased_append (h : startsCased text = true) (rest : List Char) :
    startsCased (text ++ rest) = true := by
  have hdecides : Decides text := by
    by_contra hnot
    cases h.symm.trans (startsCased_of_not_decides hnot)
  rw [startsCased_append_of_decides hdecides, h]

/-! ## Capital sigmas -/

/-- A capital sigma between two texts is final. -/
def isFinal (before after : List Char) : Bool := startsCased before.reverse && !startsCased after

theorem isFinal_iff : isFinal before after = true ↔
    startsCased before.reverse = true ∧ startsCased after = false := by
  simp [isFinal]

/-- A longer text before a final sigma leaves it final. -/
theorem isFinal_append_left (h : isFinal text after = true) (before : List Char) :
    isFinal (before ++ text) after = true := by
  obtain ⟨hbefore, hafter⟩ := isFinal_iff.mp h
  refine isFinal_iff.mpr ⟨?_, hafter⟩
  rw [List.reverse_append]
  exact startsCased_append hbefore before.reverse

/-- A shorter text behind a final sigma leaves it final. -/
theorem isFinal_of_append_right (h : isFinal before (text ++ after) = true) :
    isFinal before text = true := by
  obtain ⟨hbefore, hafter⟩ := isFinal_iff.mp h
  refine isFinal_iff.mpr ⟨hbefore, ?_⟩
  by_contra hcased
  rw [Bool.not_eq_false] at hcased
  cases hafter.symm.trans (startsCased_append hcased after)

/-- The small form of a character between two texts. -/
def smallForm (before : List Char) (c : Char) (after : List Char) : List Char :=
  if c = 'Σ' then (if isFinal before after then ['ς'] else ['σ']) else lowerChar c

/-- The small form of a text between two others. -/
def lowerBetween (before : List Char) : (text after : List Char) → List Char
  | [], _ => []
  | c :: rest, after =>
    smallForm before c (rest ++ after) ++ lowerBetween (before ++ [c]) rest after

theorem lowerFrom_reverse (before text : List Char) :
    lowerFrom before.reverse text = lowerBetween before text [] := by
  induction text generalizing before with
  | nil => rfl
  | cons c rest ih =>
    have hrest := ih (before ++ [c])
    rw [List.reverse_append, List.reverse_singleton, List.singleton_append] at hrest
    rw [lowerFrom, lowerBetween, hrest, smallForm, isFinal, List.append_nil]

theorem lower_eq (text : List Char) : lower text = lowerBetween [] text [] :=
  lowerFrom_reverse [] text

theorem lowerBetween_append (before a b after : List Char) :
    lowerBetween before (a ++ b) after =
      lowerBetween before a (b ++ after) ++ lowerBetween (before ++ a) b after := by
  induction a generalizing before with
  | nil => simp [lowerBetween]
  | cons c a ih =>
    rw [List.cons_append, lowerBetween, lowerBetween, ih, List.append_assoc, List.append_assoc,
      List.append_assoc, List.singleton_append]

/-- Part of a text has its small form there between the small forms of the rest. -/
theorem lower_append (before text after : List Char) :
    lower (before ++ text ++ after) = lowerBetween [] before (text ++ after) ++
      lowerBetween before text after ++ lowerBetween (before ++ text) after [] := by
  rw [lower_eq, lowerBetween_append, lowerBetween_append, List.append_nil, List.nil_append,
    List.nil_append]

theorem lowerBetween_congr {x y x' y' : List Char}
    (h : ∀ a b, text = a ++ 'Σ' :: b → isFinal (x ++ a) (b ++ y) = isFinal (x' ++ a) (b ++ y')) :
    lowerBetween x text y = lowerBetween x' text y' := by
  induction text generalizing x x' with
  | nil => rfl
  | cons c rest ih =>
    have hrest : lowerBetween (x ++ [c]) rest y = lowerBetween (x' ++ [c]) rest y' := by
      apply ih
      intro a b hsplit
      simpa using h (c :: a) b (by rw [hsplit, List.cons_append])
    have hform : smallForm x c (rest ++ y) = smallForm x' c (rest ++ y') := by
      unfold smallForm
      split
      · rename_i hc
        have hfinal := h [] rest (by rw [hc, List.nil_append])
        rw [List.append_nil, List.append_nil] at hfinal
        rw [hfinal]
      · rfl
    rw [lowerBetween, lowerBetween, hform, hrest]

theorem lowerChar_ne_nil (c : Char) : lowerChar c ≠ [] := by
  unfold lowerChar
  split
  · simp
  · split <;> simp

theorem lower_eq_nil : lower text = [] ↔ text = [] := by
  constructor
  · intro h
    cases text with
    | nil => rfl
    | cons c rest =>
      rw [lower_eq, lowerBetween, List.append_eq_nil_iff] at h
      have hform : smallForm [] c (rest ++ []) ≠ [] := by
        unfold smallForm
        split
        · split <;> simp
        · exact lowerChar_ne_nil c
      exact absurd h.1 hform
  · rintro rfl
    rfl

/-! ## Texts that are found whatever stands around them -/

/-- The capital sigmas of a text are final between two texts exactly if they are on their own. -/
def KeepsForms (before text after : List Char) : Prop :=
  ∀ a b, text = a ++ 'Σ' :: b → isFinal (before ++ a) (b ++ after) = isFinal a b

theorem KeepsForms.infix_lower (h : KeepsForms before text after) :
    lower text <:+: lower (before ++ text ++ after) := by
  have hsame : lower text = lowerBetween before text after := by
    rw [lower_eq]
    apply lowerBetween_congr
    intro a b hsplit
    rw [List.nil_append, List.append_nil, h a b hsplit]
  rw [hsame, lower_append]
  exact List.infix_append _ _ _

/-- What stands around two texts does not count for a capital sigma between them. Of the characters
next to the sigma that are not case-ignorable, the texts hold a cased one behind it, or one before
it that is not cased, or both. -/
def IsSettled (before after : List Char) : Prop :=
  startsCased after = true ∨ (Decides before ∧ startsCased before.reverse = false) ∨
    (Decides before ∧ Decides after)

/-- All capital sigmas of the text are settled by the text. -/
def Settles (text : List Char) : Prop := ∀ a b, text = a ++ 'Σ' :: b → IsSettled a b

instance (text : List Char) : Decidable (Decides text) :=
  inferInstanceAs (Decidable (∃ c ∈ text, _ = _))

instance (before after : List Char) : Decidable (IsSettled before after) :=
  inferInstanceAs (Decidable (_ ∨ _ ∧ _ ∨ _ ∧ _))

instance (text : List Char) : Decidable (Settles text) :=
  decidable_of_iff (∀ i < text.length, text[i]? = some 'Σ' →
      IsSettled (text.take i) (text.drop (i + 1))) <| by
    constructor
    · rintro h a b rfl
      simpa using h a.length (by simp) (by simp)
    · intro h i hi hsigma
      apply h
      rw [List.getElem?_eq_getElem hi, Option.some.injEq] at hsigma
      rw [← hsigma, List.getElem_cons_drop, List.take_append_drop]

theorem settles_of_not_mem (h : 'Σ' ∉ text) : Settles text := by
  rintro a b rfl
  exact absurd (by simp) h

theorem isFinal_of_isSettled {a b : List Char} (h : IsSettled a b) (before after : List Char) :
    isFinal (before ++ a) (b ++ after) = isFinal a b := by
  have hbefore : Decides a → startsCased (before ++ a).reverse = startsCased a.reverse := by
    intro ha
    rw [List.reverse_append]
    exact startsCased_append_of_decides (decides_reverse.mpr ha) before.reverse
  rcases h with hcased | ⟨ha, huncased⟩ | ⟨ha, hb⟩
  · simp [isFinal, startsCased_append hcased, hcased]
  · rw [isFinal, isFinal, hbefore ha, huncased, Bool.false_and, Bool.false_and]
  · rw [isFinal, isFinal, hbefore ha, startsCased_append_of_decides hb]

theorem Settles.keepsForms (h : Settles text) (before after : List Char) :
    KeepsForms before text after :=
  fun a b hsplit => isFinal_of_isSettled (h a b hsplit) before after

/-! ## Texts that are lost

A sigma that is not settled has another form in some text. The forms are counted: there are fewer of
one of them in this text than in the small form that is looked for. -/

section Counts

variable {x y x' y' : List Char}

theorem count_smallForm {c : Char}
    (h : c = 'Σ' → isFinal x y = true → isFinal x' y' = true) :
    (smallForm x c y).count 'ς' ≤ (smallForm x' c y').count 'ς' ∧
      (smallForm x' c y').count 'σ' ≤ (smallForm x c y).count 'σ' := by
  by_cases hc : c = 'Σ'
  · have hfinal := h hc
    cases hx : isFinal x y with
    | false => cases hx' : isFinal x' y' <;> simp [smallForm, hc, hx, hx']
    | true => simp [smallForm, hc, hx, hfinal hx]
  · simp [smallForm, hc]

/-- The capital sigmas of the text that are final between `x` and `y` are final between `x'` and
`y'`. -/
def FinalAlso (text x y x' y' : List Char) : Prop :=
  ∀ a b, text = a ++ 'Σ' :: b →
    isFinal (x ++ a) (b ++ y) = true → isFinal (x' ++ a) (b ++ y') = true

theorem FinalAlso.left {a b : List Char} (h : FinalAlso (a ++ b) x y x' y') :
    FinalAlso a x (b ++ y) x' (b ++ y') := by
  rintro front back rfl
  simpa using h front (back ++ b) (by simp)

theorem FinalAlso.right {a b : List Char} (h : FinalAlso (a ++ b) x y x' y') :
    FinalAlso b (x ++ a) y (x' ++ a) y' := by
  rintro front back rfl
  simpa using h (a ++ front) back (by simp)

theorem count_lowerBetween (h : FinalAlso text x y x' y') :
    (lowerBetween x text y).count 'ς' ≤ (lowerBetween x' text y').count 'ς' ∧
      (lowerBetween x' text y').count 'σ' ≤ (lowerBetween x text y).count 'σ' := by
  induction text generalizing x x' with
  | nil => simp [lowerBetween]
  | cons c rest ih =>
    have hform : c = 'Σ' → isFinal x (rest ++ y) = true → isFinal x' (rest ++ y') = true := by
      intro hc
      simpa using h [] rest (by rw [hc, List.nil_append])
    have hfirst := count_smallForm hform
    have hrest := ih (FinalAlso.right (a := [c]) h)
    simp only [lowerBetween, List.count_append]
    omega

/-- One more sigma is final, and none fewer. -/
theorem count_lowerBetween_lt {a b : List Char} (h : FinalAlso (a ++ 'Σ' :: b) x y x' y')
    (hnot : isFinal (x ++ a) (b ++ y) = false) (hfinal : isFinal (x' ++ a) (b ++ y') = true) :
    (lowerBetween x (a ++ 'Σ' :: b) y).count 'ς' <
        (lowerBetween x' (a ++ 'Σ' :: b) y').count 'ς' ∧
      (lowerBetween x' (a ++ 'Σ' :: b) y').count 'σ' <
        (lowerBetween x (a ++ 'Σ' :: b) y).count 'σ' := by
  have hbefore := count_lowerBetween h.left
  have hafter := count_lowerBetween (FinalAlso.right (a := ['Σ']) h.right)
  have hform : (smallForm (x ++ a) 'Σ' (b ++ y)).count 'ς' <
        (smallForm (x' ++ a) 'Σ' (b ++ y')).count 'ς' ∧
      (smallForm (x' ++ a) 'Σ' (b ++ y')).count 'σ' <
        (smallForm (x ++ a) 'Σ' (b ++ y)).count 'σ' := by
    simp [smallForm, hnot, hfinal]
  rw [lowerBetween_append, lowerBetween_append]
  simp only [lowerBetween, List.count_append]
  omega

end Counts

/-- A cased letter next to the text changes the form of a sigma that is not settled. -/
theorem exists_lost {a b : List Char} (h : ¬ IsSettled a b) : ∃ before after,
    ¬ lower (a ++ 'Σ' :: b) <:+: lower (before ++ (a ++ 'Σ' :: b) ++ after) := by
  have hcased : startsCased ['a'] = true := by decide +kernel
  have hletter : ∀ x y, lowerBetween x ['a'] y = ['a'] := fun x y => rfl
  simp only [IsSettled, not_or, not_and, Bool.not_eq_true, Bool.not_eq_false] at h
  obtain ⟨hafter, hbefore, hboth⟩ := h
  by_cases ha : Decides a
  · -- On its own the sigma is final, and in front of a letter it is not.
    have hown : isFinal a b = true := by
      rw [isFinal_iff]
      exact ⟨hbefore ha, hafter⟩
    have hthere : isFinal a (b ++ ['a']) = false := by
      simp [isFinal, startsCased_append_of_not_decides (hboth ha), hcased]
    have hfewer : FinalAlso (a ++ 'Σ' :: b) [] ['a'] [] [] := by
      intro front back _ hfinal
      simpa using isFinal_of_append_right hfinal
    have hless := (count_lowerBetween_lt hfewer (by simpa using hthere) (by simpa using hown)).1
    refine ⟨[], ['a'], ?_⟩
    intro hinfix
    have hcount := hinfix.sublist.count_le 'ς'
    have hnone : ['a'].count 'ς' = 0 := by decide
    rw [lower_append, hletter, lower_eq, lowerBetween, List.nil_append, List.count_append] at hcount
    omega
  · -- On its own the sigma is not final, and behind a letter it is.
    have hsilent : ¬ Decides a.reverse := fun hdecides => ha (decides_reverse.mp hdecides)
    have hown : isFinal a b = false := by
      rw [isFinal, startsCased_of_not_decides hsilent, Bool.false_and]
    have hthere : isFinal ('a' :: a) b = true := by
      rw [isFinal_iff, List.reverse_cons, startsCased_append_of_not_decides hsilent]
      exact ⟨hcased, hafter⟩
    have hmore : FinalAlso (a ++ 'Σ' :: b) [] [] ['a'] [] := by
      intro front back _ hfinal
      simpa using isFinal_append_left hfinal ['a']
    have hless := (count_lowerBetween_lt hmore (by simpa using hown) (by simpa using hthere)).2
    refine ⟨['a'], [], ?_⟩
    intro hinfix
    have hcount := hinfix.sublist.count_le 'σ'
    have hnone : ['a'].count 'σ' = 0 := by decide
    rw [lower_append, hletter, lower_eq, lowerBetween, List.append_nil, List.count_append] at hcount
    omega

/-- The texts whose small form is found in that of every text around them. -/
theorem settles_iff :
    Settles text ↔ ∀ before after, lower text <:+: lower (before ++ text ++ after) := by
  constructor
  · intro h before after
    exact (h.keepsForms before after).infix_lower
  · rintro h a b rfl
    by_contra hnot
    obtain ⟨before, after, hlost⟩ := exists_lost hnot
    exact hlost (h before after)

end SegmentRules.Text

import SegmentRules.Selector

/-! # Lists of selectors -/
namespace SegmentRules.Selector

theorem selects_iff {selector : Selector} {product : UInt64} {price : Option UInt64} :
    selector.selects product price = true ↔ selector.product = product ∧
      ∀ variant, selector.variant = some variant → price = some variant := by
  obtain ⟨id, variant⟩ := selector
  cases variant with
  | none => simp [selects]
  | some variant => simp [selects]

theorem mem_ofTokens {tokens : List String} {selector : Selector} :
    selector ∈ ofTokens tokens ↔ ∃ token ∈ tokens, parse token = .ok selector := by
  simp only [ofTokens, List.mem_eraseDups, List.mem_filterMap]
  refine exists_congr fun token => and_congr_right fun _ => ?_
  cases parse token <;> simp [Except.toOption]

theorem parseAll_cases (tokens : List String) :
    (parseAll tokens = .error .noSelectors ∧ ¬ ∃ token ∈ tokens, ∃ s, parse token = .ok s) ∨
    (∃ token ∈ tokens, ∃ s, parse token = .ok s) ∧
      ∃ selectors, parseAll tokens = .ok selectors ∧ selectors ≠ [] ∧
        ∀ s, s ∈ selectors ↔ ∃ token ∈ tokens, parse token = .ok s := by
  cases h : ofTokens tokens with
  | nil =>
    refine .inl ⟨by simp [parseAll, h], ?_⟩
    rintro ⟨token, htoken, s, hs⟩
    have hmem : s ∈ ofTokens tokens := mem_ofTokens.mpr ⟨token, htoken, hs⟩
    simp [h] at hmem
  | cons first rest =>
    have hall : ∀ s, s ∈ first :: rest ↔ ∃ token ∈ tokens, parse token = .ok s :=
      fun s => h ▸ mem_ofTokens
    obtain ⟨token, htoken, hfirst⟩ := (hall first).mp (by simp)
    exact .inr ⟨⟨token, htoken, first, hfirst⟩, first :: rest, by simp [parseAll, h], by simp, hall⟩

end SegmentRules.Selector

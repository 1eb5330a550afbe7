import Mathlib.Data.List.Forall2

/-! # Lists decoded item by item -/
namespace SegmentRules

variable {α β : Type} {decode : α → Option β}

theorem mapM_eq_some {list : List α} {results : List β} :
    list.mapM decode = some results ↔ List.Forall₂ (fun x y => decode x = some y) list results := by
  induction list generalizing results with
  | nil =>
    rw [List.mapM_nil, List.forall₂_nil_left_iff]
    constructor
    · intro h
      exact (Option.some.inj h).symm
    · rintro rfl
      rfl
  | cons x rest ih =>
    simp only [List.mapM_cons, bind, Option.bind_eq_some_iff, List.forall₂_cons_left_iff, ih]
    constructor
    · rintro ⟨y, hy, ys, hys, hresults⟩
      exact ⟨y, ys, hy, hys, (Option.some.inj hresults).symm⟩
    · rintro ⟨y, ys, hy, hys, rfl⟩
      exact ⟨y, hy, ys, hys, rfl⟩

/-- What every item of a list was encoded from is decoded again. -/
theorem mapM_map {encode : β → α} {list : List β} (h : ∀ x ∈ list, decode (encode x) = some x) :
    (list.map encode).mapM decode = some list := by
  rw [mapM_eq_some, List.forall₂_map_left_iff, List.forall₂_same]
  exact h

/-- To put items together as they are decoded is to decode them all first. -/
theorem foldlM_map {γ : Type} (put : γ → β → γ) (list : List α) (start : γ) :
    list.foldlM (fun done x => (decode x).map (put done)) start =
      (list.mapM decode).map (List.foldl put start) := by
  induction list generalizing start with
  | nil => rfl
  | cons x rest ih =>
    rw [List.foldlM_cons, List.mapM_cons]
    cases decode x with
    | none => rfl
    | some y =>
      have hrest := ih (put start y)
      simp only [bind, Option.map_some, Option.bind_some] at hrest ⊢
      rw [hrest]
      cases rest.mapM decode with
      | none => rfl
      | some ys => rfl

theorem exists_of_mapM {list : List α} {results : List β} (h : list.mapM decode = some results) :
    ∀ y ∈ results, ∃ x ∈ list, decode x = some y := by
  have hpairs := mapM_eq_some.mp h
  clear h
  induction hpairs with
  | nil => exact List.forall_mem_nil _
  | cons hy _ ih =>
    intro y hmem
    rcases List.mem_cons.mp hmem with rfl | hmem
    · exact ⟨_, List.mem_cons_self, hy⟩
    · obtain ⟨x, hx, hxy⟩ := ih y hmem
      exact ⟨x, List.mem_cons_of_mem _ hx, hxy⟩

end SegmentRules

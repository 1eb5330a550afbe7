import Mathlib.Data.List.Induction
import Mathlib.Data.List.Infix

/-! # Lists without their repetitions

What is left of a list when repetitions are dropped is given by its elements and by the order in
which they first occur. -/
namespace SegmentRules

variable {α : Type}

/-- Some start of the list holds the one element and not yet the other. -/
def OccursBefore (list : List α) (a b : α) : Prop :=
  ∃ front, front <+: list ∧ a ∈ front ∧ b ∉ front

/-- The elements of a list, each once, in the order in which they first occur. -/
structure FirstOccurrences (list kept : List α) : Prop where
  members : ∀ x, x ∈ kept ↔ x ∈ list
  once : kept.Nodup
  ordered : kept.Pairwise (OccursBefore list)

/-- What stands before an element in the list without repetitions, stands before it in the list. -/
theorem FirstOccurrences.split {before after kept : List α} {x : α}
    (h : FirstOccurrences (before ++ x :: after) kept) :
    ∃ front back, kept = front ++ x :: back ∧ ∀ y ∈ front, y ∈ before := by
  have hx : x ∈ kept := (h.members x).mpr (by simp)
  obtain ⟨front, back, rfl⟩ := List.append_of_mem hx
  refine ⟨front, back, rfl, ?_⟩
  intro y hy
  have hordered := (List.pairwise_append.mp h.ordered).2.2
  obtain ⟨start, hstart, hmem, hnot⟩ := hordered y hy x List.mem_cons_self
  have hboth : before ++ [x] <+: before ++ x :: after := ⟨after, by simp⟩
  rcases List.prefix_or_prefix_of_prefix hstart hboth with hstart | hstart
  · rcases List.prefix_concat_iff.mp hstart with rfl | hbefore
    · exact absurd (by simp) hnot
    · exact hbefore.subset hmem
  · exact absurd (hstart.subset (by simp)) hnot

variable [BEq α] [LawfulBEq α]

theorem eraseDups_concat (list : List α) (x : α) :
    (list ++ [x]).eraseDups =
      if x ∈ list then list.eraseDups else list.eraseDups ++ [x] := by
  rw [List.eraseDups_append, List.removeAll]
  by_cases hmem : x ∈ list
  · simp [hmem]
  · simp [hmem, List.eraseDups_cons]

theorem firstOccurrences_eraseDups (list : List α) : FirstOccurrences list list.eraseDups := by
  induction list using List.reverseRecOn with
  | nil => exact ⟨by simp, List.nodup_nil, List.Pairwise.nil⟩
  | append_singleton list x ih =>
    have hstart : list <+: list ++ [x] := List.prefix_append list [x]
    have hkept : list.eraseDups.Pairwise (OccursBefore (list ++ [x])) := by
      apply ih.ordered.imp
      rintro a b ⟨front, hfront, ha, hb⟩
      exact ⟨front, hfront.trans hstart, ha, hb⟩
    have hmembers : ∀ y, y ∈ (list ++ [x]).eraseDups ↔ y ∈ list ++ [x] := by
      intro y
      rw [List.mem_eraseDups]
    rw [eraseDups_concat] at hmembers ⊢
    by_cases hmem : x ∈ list
    · rw [if_pos hmem] at hmembers ⊢
      exact ⟨hmembers, ih.once, hkept⟩
    · rw [if_neg hmem] at hmembers ⊢
      refine ⟨hmembers, ?_, ?_⟩
      · apply List.nodup_append.mpr
        refine ⟨ih.once, List.pairwise_singleton _ x, ?_⟩
        rintro a ha b hb rfl
        obtain rfl := List.mem_singleton.mp hb
        exact hmem ((ih.members a).mp ha)
      · apply List.pairwise_append.mpr
        refine ⟨hkept, List.pairwise_singleton _ _, ?_⟩
        intro a ha b hb
        obtain rfl := List.mem_singleton.mp hb
        exact ⟨list, hstart, (ih.members a).mp ha, hmem⟩

end SegmentRules

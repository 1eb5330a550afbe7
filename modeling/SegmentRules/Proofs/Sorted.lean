import Mathlib.Data.List.Nodup
import Mathlib.Order.Defs.Unbundled
import SegmentRules.Sorted

/-! # Elements of sorted lists

Sorting drops repetitions and nothing else, whatever the order is. A total order leaves no choice
of the sorted list, so the list depends on its elements alone. -/
namespace SegmentRules.Sorted

variable {α : Type} [DecidableEq α] {before : α → α → Bool}

theorem mem_insert {x y : α} {list : List α} :
    x ∈ insert before y list ↔ x = y ∨ x ∈ list := by
  induction list with
  | nil => simp [insert]
  | cons z rest ih =>
    unfold insert
    split
    · simp
    · split
      · rename_i h
        subst h
        simp
      · simp only [List.mem_cons, ih]
        exact or_left_comm

private theorem mem_insert_all {x : α} {list sorted : List α} :
    x ∈ list.foldl (fun sorted y => insert before y sorted) sorted ↔ x ∈ sorted ∨ x ∈ list := by
  induction list generalizing sorted with
  | nil => simp
  | cons y rest ih =>
    rw [List.foldl_cons, ih, mem_insert, List.mem_cons, or_comm (a := x = y), or_assoc]

theorem mem_ofList {x : α} {list : List α} : x ∈ ofList before list ↔ x ∈ list := by
  simp [ofList, mem_insert_all]

theorem ofList_eq_nil {list : List α} : ofList before list = [] ↔ list = [] := by
  simp [List.eq_nil_iff_forall_not_mem, mem_ofList]

/-! ## Total orders -/

def Ascending (before : α → α → Bool) (list : List α) : Prop :=
  list.Pairwise fun a b => before a b = true

section Total

variable [IsStrictTotalOrder α fun a b => before a b = true]

theorem insert_ascending {x : α} {list : List α} (h : Ascending before list) :
    Ascending before (insert before x list) := by
  induction list with
  | nil => simp [insert, Ascending]
  | cons y rest ih =>
    obtain ⟨hfirst, hrest⟩ := List.pairwise_cons.mp h
    unfold insert
    split
    · rename_i hxy
      refine List.pairwise_cons.mpr ⟨fun z hz => ?_, h⟩
      rcases List.mem_cons.mp hz with rfl | hz
      · exact hxy
      · exact IsTrans.trans (r := fun a b => before a b = true) x y z hxy (hfirst z hz)
    · rename_i hxy
      split
      · exact h
      · rename_i hne
        refine List.pairwise_cons.mpr ⟨fun z hz => ?_, ih hrest⟩
        rcases mem_insert.mp hz with rfl | hz
        · by_contra hyz
          exact hne (Std.Trichotomous.trichotomous (r := fun a b => before a b = true) z y hxy hyz)
        · exact hfirst z hz

theorem ofList_ascending (list : List α) : Ascending before (ofList before list) := by
  have hall : ∀ sorted, Ascending before sorted →
      Ascending before (list.foldl (fun sorted x => insert before x sorted) sorted) := by
    induction list with
    | nil => exact fun sorted h => h
    | cons x rest ih => exact fun sorted h => ih _ (insert_ascending h)
  exact hall [] List.Pairwise.nil

omit [DecidableEq α] in
theorem Ascending.eq_of_same_elements {a b : List α} (ha : Ascending before a)
    (hb : Ascending before b) (same : ∀ x, x ∈ a ↔ x ∈ b) : a = b := by
  have apart : ∀ {x y : α}, before x y = true → x ≠ y := by
    rintro x y hxy rfl
    exact Std.Irrefl.irrefl (r := fun a b => before a b = true) x hxy
  have hperm : a.Perm b :=
    (List.perm_ext_iff_of_nodup (ha.imp apart) (hb.imp apart)).mpr same
  refine hperm.eq_of_pairwise (fun x y _ _ hxy hyx => ?_) ha hb
  exact absurd rfl (apart (IsTrans.trans (r := fun a b => before a b = true) x y x hxy hyx))

theorem ofList_congr {a b : List α} (same : ∀ x, x ∈ a ↔ x ∈ b) :
    ofList before a = ofList before b := by
  refine (ofList_ascending a).eq_of_same_elements (ofList_ascending b) fun x => ?_
  rw [mem_ofList, mem_ofList, same]

theorem ofList_of_ascending {list : List α} (h : Ascending before list) :
    ofList before list = list :=
  (ofList_ascending list).eq_of_same_elements h fun _ => mem_ofList

end Total

/-! ## Pairs sorted by key -/

section Pairs

variable {κ ν : Type} [DecidableEq κ] {earlier : κ → κ → Bool} {pairs start : List (κ × ν)}

/-- A pair put among others. -/
def putPair (earlier : κ → κ → Bool) (sorted : List (κ × ν)) (pair : κ × ν) : List (κ × ν) :=
  insertPair earlier pair.1 pair.2 sorted

theorem map_fst_putPair (pair : κ × ν) :
    (putPair earlier pairs pair).map Prod.fst = insert earlier pair.1 (pairs.map Prod.fst) := by
  induction pairs with
  | nil => rfl
  | cons first rest ih =>
    rw [putPair, insertPair, List.map_cons, insert]
    split
    · rfl
    · split
      · rename_i h
        rw [List.map_cons, h]
      · rw [List.map_cons, ← ih]
        rfl

theorem mem_putPair {pair other : κ × ν} (h : other ∈ putPair earlier pairs pair) :
    other = pair ∨ other ∈ pairs := by
  induction pairs with
  | nil => exact .inl (List.mem_singleton.mp h)
  | cons first rest ih =>
    rw [putPair, insertPair] at h
    split at h
    · exact List.mem_cons.mp h
    · split at h
      · exact (List.mem_cons.mp h).imp_right (List.mem_cons_of_mem first)
      · rcases List.mem_cons.mp h with rfl | hrest
        · exact .inr List.mem_cons_self
        · exact (ih hrest).imp_right (List.mem_cons_of_mem first)

theorem mem_foldl_putPair {pair : κ × ν} (h : pair ∈ pairs.foldl (putPair earlier) start) :
    pair ∈ start ∨ pair ∈ pairs := by
  induction pairs generalizing start with
  | nil => exact .inl h
  | cons first rest ih =>
    rcases ih h with hput | hrest
    · rcases mem_putPair hput with rfl | hstart
      · exact .inr List.mem_cons_self
      · exact .inl hstart
    · exact .inr (List.mem_cons_of_mem first hrest)

variable [IsStrictTotalOrder κ fun a b => earlier a b = true]

theorem foldl_putPair_ascending (h : Ascending earlier (start.map Prod.fst)) :
    Ascending earlier ((pairs.foldl (putPair earlier) start).map Prod.fst) := by
  induction pairs generalizing start with
  | nil => exact h
  | cons first rest ih =>
    apply ih
    rw [map_fst_putPair]
    exact insert_ascending h

/-- A pair goes behind those with earlier keys. -/
theorem putPair_last {pair : κ × ν} (h : ∀ other ∈ pairs, earlier other.1 pair.1 = true) :
    putPair earlier pairs pair = pairs ++ [pair] := by
  induction pairs with
  | nil => rfl
  | cons first rest ih =>
    obtain ⟨hfirst, hrest⟩ := List.forall_mem_cons.mp h
    have hafter : ¬ earlier pair.1 first.1 = true := by
      intro hbefore
      have hself := IsTrans.trans (r := fun a b => earlier a b = true) _ _ _ hfirst hbefore
      exact Std.Irrefl.irrefl (r := fun a b => earlier a b = true) _ hself
    have hne : pair.1 ≠ first.1 := by
      intro hsame
      rw [hsame] at hfirst
      exact Std.Irrefl.irrefl (r := fun a b => earlier a b = true) _ hfirst
    rw [putPair, insertPair, if_neg hafter, if_neg hne, ← putPair, ih hrest, List.cons_append]

theorem foldl_putPair_of_ascending (h : Ascending earlier ((start ++ pairs).map Prod.fst)) :
    pairs.foldl (putPair earlier) start = start ++ pairs := by
  induction pairs generalizing start with
  | nil => simp
  | cons pair rest ih =>
    have hlast : ∀ other ∈ start, earlier other.1 pair.1 = true := by
      intro other hother
      rw [List.map_append] at h
      exact (List.pairwise_append.mp h).2.2 other.1 (List.mem_map_of_mem hother) pair.1 (by simp)
    rw [List.foldl_cons, putPair_last hlast, ih (by simpa using h), List.append_assoc,
      List.singleton_append]

end Pairs

instance : IsStrictTotalOrder String fun a b => textBefore a b = true where
  irrefl a h := String.lt_irrefl a (of_decide_eq_true h)
  trans _ _ _ h h' := decide_eq_true (String.lt_trans (of_decide_eq_true h) (of_decide_eq_true h'))
  trichotomous _ _ h h' := String.le_antisymm (fun hlt => h' (decide_eq_true hlt))
    (fun hlt => h (decide_eq_true hlt))

end SegmentRules.Sorted

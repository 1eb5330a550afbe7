import SegmentRules.Proofs.Json.Depth
import SegmentRules.Proofs.Json.Text
import SegmentRules.Proofs.Sorted

/-! # Normal values

A free value is kept with the fields of its objects sorted. Such a value is its own normal form, and
no deeper than the one it comes from. -/
namespace SegmentRules.Json

open Sorted (Ascending putPair textBefore)

/-- Nothing in the value is unreadable, and the fields of each object are sorted by key, each key
standing once. -/
inductive IsNormal : Json → Prop
  | null : IsNormal .null
  | bool (value : Bool) : IsNormal (.bool value)
  | integer (n : Int) : IsNormal (.integer n)
  | double (x : Double) : IsNormal (.double x)
  | string (text : String) : IsNormal (.string text)
  | array {items : List Json} (all : ∀ item ∈ items, IsNormal item) : IsNormal (.array items)
  | object {fields : List (String × Json)} (sorted : Ascending textBefore (fields.map Prod.fst))
      (all : ∀ field ∈ fields, IsNormal field.2) : IsNormal (.object fields)

variable {items : List Json} {fields : List (String × Json)} {value normal : Json}

/-- The normal form under the same key. -/
def normalField? (field : String × Json) : Option (String × Json) :=
  (normal? field.2).map fun value => (field.1, value)

theorem normalItems?_eq (items : List Json) : normalItems? items = items.mapM normal? := by
  induction items with
  | nil => rfl
  | cons item rest ih => rw [normalItems?, ih, List.mapM_cons]

theorem normalFields?_eq (fields sorted : List (String × Json)) :
    normalFields? fields sorted =
      (fields.mapM normalField?).map (List.foldl (putPair textBefore) sorted) := by
  induction fields generalizing sorted with
  | nil => rfl
  | cons field rest ih =>
    rw [normalFields?, List.mapM_cons, normalField?]
    cases normal? field.2 with
    | none => rfl
    | some value =>
      have hrest := ih (putPair textBefore sorted (field.1, value))
      simp only [putPair] at hrest
      simp only [bind, Option.bind_some, Option.map_some, hrest]
      cases rest.mapM normalField? with
      | none => rfl
      | some fields => rfl

theorem normal?_array_eq_some :
    normal? (.array items) = some normal ↔
      ∃ normals, items.mapM normal? = some normals ∧ normal = .array normals := by
  rw [normal?, normalItems?_eq, Option.map_eq_some_iff]
  simp only [eq_comm]

theorem normal?_object_eq_some :
    normal? (.object fields) = some normal ↔ ∃ normals, fields.mapM normalField? = some normals ∧
      normal = .object (normals.foldl (putPair textBefore) []) := by
  rw [normal?, normalFields?_eq, Option.map_map, Option.map_eq_some_iff]
  simp only [eq_comm, Function.comp_apply]

/-- Each field of a normal form comes from one under the same key. -/
theorem exists_field {normals : List (String × Json)}
    (h : fields.mapM normalField? = some normals) :
    ∀ field ∈ normals.foldl (putPair textBefore) [],
      ∃ given ∈ fields, normal? given.2 = some field.2 := by
  intro field hfield
  rcases Sorted.mem_foldl_putPair hfield with hnone | hnormal
  · cases hnone
  · obtain ⟨given, hgiven, hsame⟩ := exists_of_mapM h field hnormal
    obtain ⟨value, hvalue, rfl⟩ := Option.map_eq_some_iff.mp hsame
    exact ⟨given, hgiven, hvalue⟩

/-! ## Normal forms -/

theorem isNormal_of_normal? (h : normal? value = some normal) : normal.IsNormal := by
  induction value generalizing normal with
  | null =>
    cases h
    exact .null
  | bool value =>
    cases h
    exact .bool value
  | integer n =>
    cases h
    exact .integer n
  | double x =>
    cases h
    exact .double x
  | string text =>
    cases h
    exact .string text
  | array items ih =>
    obtain ⟨normals, hnormals, rfl⟩ := normal?_array_eq_some.mp h
    apply IsNormal.array
    intro normal hnormal
    obtain ⟨item, hitem, hsome⟩ := exists_of_mapM hnormals normal hnormal
    exact ih item hitem hsome
  | object fields ih =>
    obtain ⟨normals, hnormals, rfl⟩ := normal?_object_eq_some.mp h
    apply IsNormal.object
    · exact Sorted.foldl_putPair_ascending List.Pairwise.nil
    · intro field hfield
      obtain ⟨given, hgiven, hsome⟩ := exists_field hnormals field hfield
      exact ih given hgiven hsome
  | unreadable => cases h

theorem nesting_of_normal? {depth bound : Nat} (h : normal? value = some normal)
    (room : value.nesting + depth ≤ bound) : normal.nesting + depth ≤ bound := by
  induction value generalizing normal depth with
  | array items ih =>
    obtain ⟨normals, hnormals, rfl⟩ := normal?_array_eq_some.mp h
    obtain ⟨hdepth, hitems⟩ := nesting_array_le.mp room
    refine nesting_array_le.mpr ⟨hdepth, ?_⟩
    intro normal hnormal
    obtain ⟨item, hitem, hsome⟩ := exists_of_mapM hnormals normal hnormal
    exact ih item hitem hsome (hitems item hitem)
  | object fields ih =>
    obtain ⟨normals, hnormals, rfl⟩ := normal?_object_eq_some.mp h
    obtain ⟨hdepth, hfields⟩ := nesting_object_le.mp room
    refine nesting_object_le.mpr ⟨hdepth, ?_⟩
    intro field hfield
    obtain ⟨given, hgiven, hsome⟩ := exists_field hnormals field hfield
    exact ih given hgiven hsome (hfields given hgiven)
  | null =>
    cases h
    exact room
  | bool value =>
    cases h
    exact room
  | integer n =>
    cases h
    exact room
  | double x =>
    cases h
    exact room
  | string text =>
    cases h
    exact room
  | unreadable => cases h

theorem IsNormal.normal?_eq (h : normal.IsNormal) : normal? normal = some normal := by
  induction h with
  | @array items _ ih =>
    have hitems : items.mapM normal? = some items :=
      mapM_eq_some.mpr (List.forall₂_same.mpr ih)
    exact normal?_array_eq_some.mpr ⟨items, hitems, rfl⟩
  | @object fields sorted _ ih =>
    have hfields : fields.mapM normalField? = some fields := by
      apply mapM_eq_some.mpr
      apply List.forall₂_same.mpr
      intro field hfield
      rw [normalField?, ih field hfield, Option.map_some]
    have hput : fields.foldl (putPair textBefore) [] = [] ++ fields :=
      Sorted.foldl_putPair_of_ascending sorted
    exact normal?_object_eq_some.mpr ⟨fields, hfields, by rw [hput, List.nil_append]⟩
  | null => rfl
  | bool value => rfl
  | integer n => rfl
  | double x => rfl
  | string text => rfl

end SegmentRules.Json

import Mathlib.Data.List.Nodup
import SegmentRules.Proofs.Toml.Tree

/-! # Listed values

The listing of a tree goes through its nodes and leaves the tables out. Where no key stands twice
in a table, a node stands in the tree exactly where its path leads. -/
namespace SegmentRules.Toml.Value

variable {value tree : Value} {fields : List (String × Value)} {key path : String}
  {keys : List String}

/-- A key that can stand between dots. -/
def IsPart (key : String) : Prop := key ≠ "" ∧ '.' ∉ key.toList

instance (key : String) : Decidable (IsPart key) := inferInstanceAs (Decidable (_ ∧ _))

/-- A tree in whose tables, which are maps, each key stands once, and can stand between dots. -/
inductive IsKeyed : Value → Prop
  | leaf {value : Value} (h : value.isTable = false) : IsKeyed value
  | table {fields : List (String × Value)} (once : (fields.map Prod.fst).Nodup)
      (parts : ∀ field ∈ fields, IsPart field.1) (inner : ∀ field ∈ fields, IsKeyed field.2) :
      IsKeyed (.table fields)

/-! ## Nodes -/

theorem nodes_of_leaf (h : value.isTable = false) : value.nodes = [([], value)] := by
  cases value <;> first | rfl | cases h

theorem fieldNodes_eq (fields : List (String × Value)) :
    fieldNodes fields = fields.flatMap fun field =>
      field.2.nodes.map (Prod.map (field.1 :: ·) id) := by
  induction fields with
  | nil => rfl
  | cons field rest ih => rw [fieldNodes, ih, List.flatMap_cons]

theorem mem_fieldNodes_iff : (keys, value) ∈ fieldNodes fields ↔
    ∃ field ∈ fields, ∃ rest, keys = field.1 :: rest ∧ (rest, value) ∈ field.2.nodes := by
  rw [fieldNodes_eq, List.mem_flatMap]
  refine exists_congr fun field => and_congr_right fun _ => ?_
  simp only [List.mem_map, Prod.exists, Prod.map_apply, id_eq, Prod.mk.injEq]
  constructor
  · rintro ⟨rest, _, hmem, rfl, rfl⟩
    exact ⟨rest, rfl, hmem⟩
  · rintro ⟨rest, rfl, hmem⟩
    exact ⟨rest, value, hmem, rfl, rfl⟩

theorem lookup_of_mem (once : (fields.map Prod.fst).Nodup) {field : String × Value}
    (h : field ∈ fields) : fields.lookup field.1 = some field.2 := by
  induction fields with
  | nil => cases h
  | cons first rest ih =>
    obtain ⟨hfirst, hrest⟩ := List.nodup_cons.mp once
    rcases List.mem_cons.mp h with rfl | hmem
    · rw [List.lookup_cons, beq_self_eq_true]
    · have hne : (field.1 == first.1) = false := by
        refine beq_eq_false_iff_ne.mpr fun hsame => hfirst ?_
        rw [← hsame]
        exact List.mem_map_of_mem hmem
      rw [List.lookup_cons, hne]
      exact ih hrest hmem

theorem IsKeyed.at?_of_mem (h : tree.IsKeyed) (mem : (keys, value) ∈ tree.nodes) :
    tree.at? keys = some value := by
  induction h generalizing keys with
  | leaf hleaf =>
    rw [nodes_of_leaf hleaf, List.mem_singleton, Prod.mk.injEq] at mem
    obtain ⟨rfl, rfl⟩ := mem
    rfl
  | table once parts inner ih =>
    rcases List.mem_cons.mp mem with hroot | hmem
    · obtain ⟨rfl, rfl⟩ := Prod.mk.inj hroot
      rfl
    · obtain ⟨field, hfield, rest, rfl, hrest⟩ := mem_fieldNodes_iff.mp hmem
      exact at?_cons_eq_some.mpr ⟨_, _, rfl, lookup_of_mem once hfield, ih field hfield hrest⟩

theorem IsKeyed.mem_nodes_iff (h : tree.IsKeyed) :
    (keys, value) ∈ tree.nodes ↔ tree.at? keys = some value :=
  ⟨h.at?_of_mem, mem_nodes_of_at?⟩

theorem IsKeyed.parts_of_mem (h : tree.IsKeyed) (mem : (keys, value) ∈ tree.nodes) :
    ∀ key ∈ keys, IsPart key := by
  induction h generalizing keys with
  | leaf hleaf =>
    rw [nodes_of_leaf hleaf, List.mem_singleton, Prod.mk.injEq] at mem
    obtain ⟨rfl, -⟩ := mem
    exact fun key hkey => absurd hkey List.not_mem_nil
  | table once parts inner ih =>
    rcases List.mem_cons.mp mem with hroot | hmem
    · obtain ⟨rfl, -⟩ := Prod.mk.inj hroot
      exact fun key hkey => absurd hkey List.not_mem_nil
    · obtain ⟨field, hfield, rest, rfl, hrest⟩ := mem_fieldNodes_iff.mp hmem
      exact List.forall_mem_cons.mpr ⟨parts field hfield, ih field hfield hrest⟩

/-- Below different keys the paths differ at once. -/
theorem fieldNodes_paths_nodup (once : (fields.map Prod.fst).Nodup)
    (inner : ∀ field ∈ fields, (field.2.nodes.map Prod.fst).Nodup) :
    ((fieldNodes fields).map Prod.fst).Nodup := by
  induction fields with
  | nil => exact List.nodup_nil
  | cons field rest ih =>
    obtain ⟨hfirst, hrest⟩ := List.nodup_cons.mp once
    obtain ⟨hfield, hfields⟩ := List.forall_mem_cons.mp inner
    have hbelow : field.2.nodes.map (Prod.fst ∘ Prod.map (field.1 :: ·) id) =
        (field.2.nodes.map Prod.fst).map (field.1 :: ·) := by
      rw [List.map_map]
      rfl
    rw [fieldNodes, List.map_append, List.map_map, hbelow, List.nodup_append]
    refine ⟨hfield.map List.cons_injective, ih hrest hfields, ?_⟩
    intro keys hkeys other hother hsame
    obtain ⟨_, -, rfl⟩ := List.mem_map.mp hkeys
    obtain ⟨node, hnode, rfl⟩ := List.mem_map.mp hother
    obtain ⟨sibling, hsibling, _, hpath, -⟩ := mem_fieldNodes_iff.mp hnode
    have hkey : field.1 = sibling.1 := (List.cons.inj (hsame.trans hpath)).1
    exact hfirst (List.mem_map.mpr ⟨sibling, hsibling, hkey.symm⟩)

theorem IsKeyed.paths_nodup (h : tree.IsKeyed) : (tree.nodes.map Prod.fst).Nodup := by
  induction h with
  | leaf hleaf =>
    rw [nodes_of_leaf hleaf]
    exact List.nodup_singleton _
  | table once parts inner ih =>
    rw [nodes, List.map_cons, List.nodup_cons]
    refine ⟨fun hmem => ?_, fieldNodes_paths_nodup once ih⟩
    obtain ⟨node, hnode, hpath⟩ := List.mem_map.mp hmem
    obtain ⟨field, _, rest, hkeys, _⟩ := mem_fieldNodes_iff.mp hnode
    cases hpath.symm.trans hkeys

/-! ## Leaves -/

/-- The nodes that are no tables. -/
def leafNodes (tree : Value) : List (List String × Value) :=
  tree.nodes.filter fun node => !node.2.isTable

theorem IsKeyed.mem_leafNodes_iff (h : tree.IsKeyed) :
    (keys, value) ∈ tree.leafNodes ↔ tree.at? keys = some value ∧ value.isTable = false := by
  rw [leafNodes, List.mem_filter, h.mem_nodes_iff, Bool.not_eq_true']

/-- Keys one below the other, behind a path. -/
def dotted (path : String) (keys : List String) : String := keys.foldl dottedKey path

theorem leaves_of_leaf (path : String) (h : value.isTable = false) :
    value.leaves path = [(path, value)] := by
  cases value <;> first | rfl | cases h

theorem fieldLeaves_eq (path : String) (fields : List (String × Value)) :
    fieldLeaves path fields = fields.flatMap fun field =>
      field.2.leaves (dottedKey path field.1) := by
  induction fields with
  | nil => rfl
  | cons field rest ih => rw [fieldLeaves, ih, List.flatMap_cons]

theorem IsKeyed.leaves_eq (h : tree.IsKeyed) (path : String) :
    tree.leaves path = tree.leafNodes.map (Prod.map (dotted path) id) := by
  induction h generalizing path with
  | leaf hleaf =>
    rw [leaves_of_leaf path hleaf, leafNodes, nodes_of_leaf hleaf, List.filter_cons, hleaf]
    rfl
  | table once parts inner ih =>
    rw [leaves, leafNodes, nodes, List.filter_cons]
    show _ = ((fieldNodes _).filter _).map _
    rw [fieldLeaves_eq, fieldNodes_eq, List.filter_flatMap, List.map_flatMap]
    refine List.flatMap_congr fun field hfield => ?_
    rw [ih field hfield, List.filter_map, List.map_map]
    rfl

end SegmentRules.Toml.Value

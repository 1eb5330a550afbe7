import SegmentRules.Proofs.Decoding
import SegmentRules.Proofs.Json.Number

/-! # Depth of values

No value of a text has more arrays and objects around its parts than a text may have. -/
namespace SegmentRules.Json

/-- Induction over the parts of a value. -/
@[induction_eliminator]
theorem induct {motive : Json → Prop} (null : motive .null)
    (bool : ∀ value, motive (.bool value)) (integer : ∀ n, motive (.integer n))
    (double : ∀ x, motive (.double x)) (string : ∀ text, motive (.string text))
    (array : ∀ items, (∀ item ∈ items, motive item) → motive (.array items))
    (object : ∀ fields, (∀ field ∈ fields, motive field.2) → motive (.object fields))
    (unreadable : motive .unreadable) (value : Json) : motive value :=
  @Json.rec motive (fun items => ∀ item ∈ items, motive item)
    (fun fields => ∀ field ∈ fields, motive field.2) (fun field => motive field.2)
    null bool integer double string array object unreadable
    (List.forall_mem_nil _) (fun _ _ hitem hrest => List.forall_mem_cons.mpr ⟨hitem, hrest⟩)
    (List.forall_mem_nil _) (fun _ _ hfield hrest => List.forall_mem_cons.mpr ⟨hfield, hrest⟩)
    (fun _ _ hvalue => hvalue) value

mutual

/-- How many arrays and objects stand around each other. -/
def nesting : Json → Nat
  | .array items => nestingItems items + 1
  | .object fields => nestingFields fields + 1
  | .null | .bool _ | .integer _ | .double _ | .string _ | .unreadable => 0

def nestingItems : List Json → Nat
  | [] => 0
  | item :: rest => max (nesting item) (nestingItems rest)

def nestingFields : List (String × Json) → Nat
  | [] => 0
  | (_, value) :: rest => max (nesting value) (nestingFields rest)

end

variable {items : List Json} {fields : List (String × Json)} {value : Json} {depth bound : Nat}

theorem nestingItems_le : nestingItems items + depth ≤ bound ↔
    depth ≤ bound ∧ ∀ item ∈ items, item.nesting + depth ≤ bound := by
  induction items with
  | nil => simp [nestingItems]
  | cons item rest ih =>
    rw [nestingItems, List.forall_mem_cons, and_left_comm, ← ih]
    omega

theorem nestingFields_le : nestingFields fields + depth ≤ bound ↔
    depth ≤ bound ∧ ∀ field ∈ fields, field.2.nesting + depth ≤ bound := by
  induction fields with
  | nil => simp [nestingFields]
  | cons field rest ih =>
    rw [nestingFields, List.forall_mem_cons, and_left_comm, ← ih]
    omega

theorem nesting_array_le : (Json.array items).nesting + depth ≤ bound ↔
    depth + 1 ≤ bound ∧ ∀ item ∈ items, item.nesting + (depth + 1) ≤ bound := by
  rw [nesting, Nat.add_right_comm, Nat.add_assoc, nestingItems_le]

theorem nesting_object_le : (Json.object fields).nesting + depth ≤ bound ↔
    depth + 1 ≤ bound ∧ ∀ field ∈ fields, field.2.nesting + (depth + 1) ≤ bound := by
  rw [nesting, Nat.add_right_comm, Nat.add_assoc, nestingFields_le]

theorem nesting_array_le_succ :
    (Json.array items).nesting ≤ bound + 1 ↔ ∀ item ∈ items, item.nesting ≤ bound := by
  rw [← Nat.add_zero (nesting _), nesting_array_le]
  simp

theorem nesting_object_le_succ :
    (Json.object fields).nesting ≤ bound + 1 ↔ ∀ field ∈ fields, field.2.nesting ≤ bound := by
  rw [← Nat.add_zero (nesting _), nesting_object_le]
  simp

/-! ## Reading -/

theorem nesting_atDepth (hdepth : depth ≤ depthLimit)
    (h : depth + 1 ≤ depthLimit → value.nesting + depth ≤ depthLimit) :
    (atDepth depth value).nesting + depth ≤ depthLimit := by
  by_cases hroom : depth < depthLimit
  · rw [atDepth, if_pos hroom]
    exact h hroom
  · rw [atDepth, if_neg hroom, nesting]
    omega

theorem nesting_number (number : NumberText) : (number.value?.getD .unreadable).nesting = 0 := by
  cases hvalue : number.value? with
  | none => rfl
  | some v =>
    rcases number.value?_cases hvalue with ⟨n, rfl⟩ | ⟨x, rfl⟩
    · rfl
    · rfl

theorem nesting_word {word text rest : List Char} {constant : Json} (leaf : constant.nesting = 0)
    (h : readWord? word constant text = some (value, rest)) : value.nesting = 0 := by
  obtain ⟨_, -, hsame⟩ := Option.map_eq_some_iff.mp h
  obtain ⟨rfl, -⟩ := Prod.mk.inj hsame
  exact leaf

/-- What is read with some fuel is not too deep. -/
structure DepthKept (fuel : Nat) : Prop where
  value : ∀ {depth text value rest}, depth ≤ depthLimit →
    readValue? fuel depth text = some (value, rest) → value.nesting + depth ≤ depthLimit
  items : ∀ {depth text items rest}, depth ≤ depthLimit →
    readItems? fuel depth text = some (items, rest) →
      ∀ item ∈ items, item.nesting + depth ≤ depthLimit
  fields : ∀ {depth text fields rest}, depth ≤ depthLimit →
    readFields? fuel depth text = some (fields, rest) →
      ∀ field ∈ fields, field.2.nesting + depth ≤ depthLimit

theorem nesting_ofFields {given : List (Option String × Json)} (hdepth : depth + 1 ≤ depthLimit)
    (h : ∀ field ∈ given, field.2.nesting + (depth + 1) ≤ depthLimit) :
    (ofFields given).nesting + depth ≤ depthLimit := by
  unfold ofFields
  split
  · rename_i fields hkeys
    refine nesting_object_le.mpr ⟨hdepth, ?_⟩
    intro field hfield
    obtain ⟨pair, hmem, hsame⟩ := exists_of_mapM hkeys field hfield
    obtain ⟨key, -, rfl⟩ := Option.map_eq_some_iff.mp hsame
    exact h pair hmem
  · rw [nesting]
    omega

theorem DepthKept.value_succ {fuel : Nat} (ih : DepthKept fuel) {text rest : List Char}
    (hdepth : depth ≤ depthLimit)
    (h : readValue? (fuel + 1) depth text = some (value, rest)) :
    value.nesting + depth ≤ depthLimit := by
  have hleaf : ∀ {leaf : Json}, leaf.nesting = 0 → leaf.nesting + depth ≤ depthLimit := by
    intro leaf hleaf
    omega
  rw [readValue?] at h
  split at h
  · cases h
  split at h
  · obtain ⟨⟨string, _⟩, -, hsame⟩ := Option.map_eq_some_iff.mp h
    obtain ⟨rfl, -⟩ := Prod.mk.inj hsame
    cases string with
    | none => exact hleaf rfl
    | some string => exact hleaf rfl
  split at h
  · split at h
    · obtain ⟨rfl, -⟩ := Prod.mk.inj (Option.some.inj h)
      refine nesting_atDepth hdepth fun hroom => ?_
      exact nesting_array_le.mpr ⟨hroom, List.forall_mem_nil _⟩
    · obtain ⟨⟨items, _⟩, hitems, hsame⟩ := Option.map_eq_some_iff.mp h
      obtain ⟨rfl, -⟩ := Prod.mk.inj hsame
      refine nesting_atDepth hdepth fun hroom => ?_
      exact nesting_array_le.mpr ⟨hroom, ih.items hroom hitems⟩
  split at h
  · split at h
    · obtain ⟨rfl, -⟩ := Prod.mk.inj (Option.some.inj h)
      refine nesting_atDepth hdepth fun hroom => ?_
      exact nesting_object_le.mpr ⟨hroom, List.forall_mem_nil _⟩
    · obtain ⟨⟨fields, _⟩, hfields, hsame⟩ := Option.map_eq_some_iff.mp h
      obtain ⟨rfl, -⟩ := Prod.mk.inj hsame
      refine nesting_atDepth hdepth fun hroom => ?_
      exact nesting_ofFields hroom (ih.fields hroom hfields)
  split at h
  · exact hleaf (nesting_word rfl h)
  split at h
  · exact hleaf (nesting_word rfl h)
  split at h
  · exact hleaf (nesting_word rfl h)
  · obtain ⟨⟨number, _⟩, -, hsame⟩ := Option.map_eq_some_iff.mp h
    obtain ⟨rfl, -⟩ := Prod.mk.inj hsame
    exact hleaf (nesting_number number)

theorem DepthKept.items_succ {fuel : Nat} (ih : DepthKept fuel) {text rest : List Char}
    (hdepth : depth ≤ depthLimit)
    (h : readItems? (fuel + 1) depth text = some (items, rest)) :
    ∀ item ∈ items, item.nesting + depth ≤ depthLimit := by
  simp only [readItems?, bind, Option.bind_eq_some_iff, Prod.exists] at h
  obtain ⟨item, text, hitem, h⟩ := h
  have hfirst := ih.value hdepth hitem
  split at h
  · simp only [Option.bind_eq_some_iff, Prod.exists] at h
    obtain ⟨items, text, hitems, h⟩ := h
    obtain ⟨rfl, -⟩ := Prod.mk.inj (Option.some.inj h)
    exact List.forall_mem_cons.mpr ⟨hfirst, ih.items hdepth hitems⟩
  · obtain ⟨rfl, -⟩ := Prod.mk.inj (Option.some.inj h)
    exact List.forall_mem_singleton.mpr hfirst
  · cases h

theorem DepthKept.fields_succ {fuel : Nat} (ih : DepthKept fuel) {text rest : List Char}
    {given : List (Option String × Json)} (hdepth : depth ≤ depthLimit)
    (h : readFields? (fuel + 1) depth text = some (given, rest)) :
    ∀ field ∈ given, field.2.nesting + depth ≤ depthLimit := by
  rw [readFields?] at h
  split at h
  · simp only [bind, Option.bind_eq_some_iff, Prod.exists] at h
    obtain ⟨key, text, -, h⟩ := h
    split at h
    · simp only [Option.bind_eq_some_iff, Prod.exists] at h
      obtain ⟨value, text, hvalue, h⟩ := h
      have hfirst := ih.value hdepth hvalue
      split at h
      · simp only [Option.bind_eq_some_iff, Prod.exists] at h
        obtain ⟨fields, text, hfields, h⟩ := h
        obtain ⟨rfl, -⟩ := Prod.mk.inj (Option.some.inj h)
        exact List.forall_mem_cons.mpr ⟨hfirst, ih.fields hdepth hfields⟩
      · obtain ⟨rfl, -⟩ := Prod.mk.inj (Option.some.inj h)
        exact List.forall_mem_singleton.mpr hfirst
      · cases h
    · cases h
  · cases h

theorem depthKept_zero : DepthKept 0 where
  value _ h := nomatch h
  items _ h := nomatch h
  fields _ h := nomatch h

theorem depthKept (fuel : Nat) : DepthKept fuel := by
  induction fuel with
  | zero => exact depthKept_zero
  | succ fuel ih => exact ⟨ih.value_succ, ih.items_succ, ih.fields_succ⟩

theorem nesting_ofText? {text : String} (h : Json.ofText? text = some value) :
    value.nesting ≤ depthLimit := by
  unfold Json.ofText? at h
  dsimp only at h
  split at h
  · rename_i read rest hread
    split at h
    · obtain rfl := Option.some.inj h
      exact (depthKept _).value (Nat.zero_le _) hread
    · cases h
  · cases h

end SegmentRules.Json

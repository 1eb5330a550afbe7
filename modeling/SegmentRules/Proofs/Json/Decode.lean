import SegmentRules.Json.Decode
import SegmentRules.Proofs.Document.Record
import SegmentRules.Proofs.Json.Text

/-! # Values are decoded from what they are encoded as -/
namespace SegmentRules.Json

open Document (FieldName Record declares)

variable {α : Type} {encode : α → Json} {decode : Json → Option α}

/-! ## Parts -/

@[simp]
theorem string?_string (text : String) : string? (.string text) = some text := rfl

@[simp]
theorem bool?_bool (value : Bool) : bool? (.bool value) = some value := rfl

@[simp]
theorem uint64?_ofUInt64 (n : UInt64) : uint64? (ofUInt64 n) = some n := by
  have hlow : 0 ≤ (n.toNat : Int) := Int.natCast_nonneg _
  have hhigh : (n.toNat : Int) < (UInt64.size : Nat) := Int.ofNat_lt.mpr n.toNat_lt
  rw [ofUInt64, uint64?, if_pos ⟨hlow, hhigh⟩, Int.toNat_natCast, UInt64.ofNat_toNat]

@[simp]
theorem int64?_ofInt64 (n : Int64) : int64? (ofInt64 n) = some n := by
  rw [ofInt64, int64?, if_pos ⟨n.minValue_le_toInt, n.toInt_le⟩, Int64.ofInt_toInt]

theorem eq_of_uint64? {value : Json} {n : UInt64} (h : uint64? value = some n) :
    value = ofUInt64 n := by
  unfold uint64? at h
  split at h
  · rename_i m
    split at h
    · rename_i hrange
      obtain rfl := Option.some.inj h
      have hm : m.toNat < UInt64.size := by omega
      rw [ofUInt64, UInt64.toNat_ofNat_of_lt' hm, Int.toNat_of_nonneg hrange.1]
    · cases h
  · cases h

/-- A number without sign has room for one if it is below 2^63. -/
theorem int64?_ofUInt64 (n : UInt64) :
    int64? (ofUInt64 n) = if n.toNat < 2 ^ 63 then some (Int64.ofInt n.toNat) else none := by
  have hlow : Int64.minValue.toInt = -2 ^ 63 := by decide
  have hhigh : Int64.maxValue.toInt = 2 ^ 63 - 1 := by decide
  rw [ofUInt64, int64?, hlow, hhigh]
  by_cases h : n.toNat < 2 ^ 63
  · rw [if_pos h, if_pos (by omega)]
  · rw [if_neg h, if_neg (by omega)]

theorem nullable?_ofOption (h : ∀ x, decode (encode x) = some x) (hnull : ∀ x, encode x ≠ .null)
    (option : Option α) : nullable? decode (ofOption encode option) = some option := by
  cases option with
  | none => rfl
  | some x =>
    unfold nullable? ofOption
    split
    · rename_i heq
      exact absurd heq (hnull x)
    · rw [h, Option.map_some]

@[simp]
theorem nullable?_uint64 (option : Option UInt64) :
    nullable? uint64? (ofOption ofUInt64 option) = some option :=
  nullable?_ofOption uint64?_ofUInt64 (fun _ => nofun) option

@[simp]
theorem nullable?_int64 (option : Option Int64) :
    nullable? int64? (ofOption ofInt64 option) = some option :=
  nullable?_ofOption int64?_ofInt64 (fun _ => nofun) option

@[simp]
theorem nullable?_string (option : Option String) :
    nullable? string? (ofOption .string option) = some option :=
  nullable?_ofOption string?_string (fun _ => nofun) option

theorem list?_map {list : List α} (h : ∀ x ∈ list, decode (encode x) = some x) :
    list? decode (.array (list.map encode)) = some list :=
  mapM_map h

@[simp]
theorem list?_strings (texts : List String) : list? string? (.strings texts) = some texts :=
  list?_map fun _ _ => rfl

/-- A record that is written with its fields in declared order is decoded from its values. -/
theorem record?_bind {fields : List FieldName} {given : List (String × Json)}
    {decode : Record Json → Option α} {x : α} (h : declares fields (given.map Prod.fst) = true)
    (hdecode : ∀ record : Record Json,
      record.slots = (Record.written fields given).slots → decode record = some x) :
    (record? fields (.object given) >>= decode) = some x := by
  have hrecord : record? fields (.object given) = some (Record.written fields given) :=
    Record.ofNamed?_of_declares h
  rw [hrecord]
  exact hdecode _ rfl

/-- The values of a record stand inside the value it is decoded from. -/
theorem nesting_of_slot {fields : List FieldName} {record : Record Json} {json value : Json}
    {name : String} {bound : Nat} (h : record? fields json = some record)
    (hslot : record.slot name = .given value) (room : json.nesting ≤ bound + 1) :
    value.nesting ≤ bound := by
  unfold record? at h
  split at h
  · obtain ⟨key, hmem⟩ := Record.mem_of_ofNamed? h hslot
    exact nesting_object_le_succ.mp room _ hmem
  · split at h
    · cases h
    · obtain rfl := Option.some.inj h
      exact nesting_array_le_succ.mp room _ (Record.mem_of_ofValues hslot)
  · cases h

/-! ## Values that are read back -/

/-- The value is written without loss, and with room for it around as many arrays and objects. -/
def IsStorable (room : Nat) (value : Json) : Prop := Exact value ∧ value.nesting ≤ room

variable {room : Nat}

/-- The value that a text is read as. -/
def decode? (ofJson? : Json → Option α) (text : String) : Option α :=
  (Json.ofText? text).bind ofJson?

theorem decode?_render {value : Json} {x : α} (storable : IsStorable depthLimit value)
    (decoded : decode value = some x) : decode? decode value.render = some x := by
  rw [decode?, ofText?_render storable.1 storable.2, Option.bind_some, decoded]

theorem exact_array {items : List Json} : Exact (.array items) ↔ ∀ item ∈ items, Exact item := by
  constructor
  · intro h
    cases h with
    | array all => exact all
  · exact .array

theorem exact_object {fields : List (String × Json)} :
    Exact (.object fields) ↔ ∀ field ∈ fields, Exact field.2 := by
  constructor
  · intro h
    cases h with
    | object all => exact all
  · exact .object

@[simp]
theorem isStorable_array {items : List Json} :
    IsStorable (room + 1) (.array items) ↔ ∀ item ∈ items, IsStorable room item := by
  rw [IsStorable, exact_array, nesting_array_le_succ, ← forall₂_and]
  rfl

@[simp]
theorem isStorable_object {fields : List (String × Json)} :
    IsStorable (room + 1) (.object fields) ↔ ∀ field ∈ fields, IsStorable room field.2 := by
  rw [IsStorable, exact_object, nesting_object_le_succ, ← forall₂_and]
  rfl

@[simp]
theorem isStorable_bool (value : Bool) : IsStorable room (.bool value) :=
  ⟨.bool value, Nat.zero_le room⟩

@[simp]
theorem isStorable_string (text : String) : IsStorable room (.string text) :=
  ⟨.string text, Nat.zero_le room⟩

@[simp]
theorem isStorable_ofUInt64 (n : UInt64) : IsStorable room (.ofUInt64 n) := by
  have hn := n.toNat_lt
  refine ⟨.integer ?_, Nat.zero_le room⟩
  rw [holdsInteger_iff]
  omega

@[simp]
theorem isStorable_ofInt64 (n : Int64) : IsStorable room (.ofInt64 n) := by
  have hlow := n.le_toInt
  have hhigh := n.toInt_lt
  refine ⟨.integer ?_, Nat.zero_le room⟩
  rw [holdsInteger_iff]
  omega

@[simp]
theorem isStorable_ofOption (h : ∀ x, IsStorable room (encode x)) (option : Option α) :
    IsStorable room (ofOption encode option) := by
  cases option with
  | none => exact ⟨.null, Nat.zero_le room⟩
  | some x => exact h x

end SegmentRules.Json

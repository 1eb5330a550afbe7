import SegmentRules.Document.Record
import SegmentRules.Proofs.Decoding

/-! # Records as they are written

A record written with each of its fields once, in declared order, has its values in its slots. -/
namespace SegmentRules.Document

variable {α β : Type} {field : FieldName} {fields : List FieldName} {key name : String} {value : α}
  {front given : List (String × α)} {record : Record α} {decode : α → Option β}

/-- The keys name the fields one by one, and each names no other field. -/
def declares : List FieldName → List String → Bool
  | [], [] => true
  | field :: fields, key :: keys =>
    field.admits key && keys.all (fun other => !field.admits other) &&
      fields.all (fun other => !other.admits key) && declares fields keys
  | _, _ => false

theorem declares_cons {keys : List String} :
    declares (field :: fields) (key :: keys) = true ↔ field.admits key = true ∧
      (∀ other ∈ keys, field.admits other = false) ∧
      (∀ other ∈ fields, other.admits key = false) ∧ declares fields keys = true := by
  simp [declares, and_assoc]

namespace Record

/-- The record with the values in the slots of the fields. -/
def written (fields : List FieldName) (given : List (String × α)) : Record α :=
  ⟨List.zipWith (fun field pair => (field.name, .given pair.2)) fields given⟩

theorem slotOf?_eq_given (hfront : ∀ pair ∈ front, field.admits pair.1 = false)
    (hkey : field.admits key = true) (hgiven : ∀ pair ∈ given, field.admits pair.1 = false) :
    slotOf? field (front ++ (key, value) :: given) = some (.given value) := by
  have hbefore : front.filter (fun pair => field.admits pair.1) = [] :=
    List.filter_eq_nil_iff.mpr fun pair hpair => by simp [hfront pair hpair]
  have hbehind : given.filter (fun pair => field.admits pair.1) = [] :=
    List.filter_eq_nil_iff.mpr fun pair hpair => by simp [hgiven pair hpair]
  simp [slotOf?, hbefore, hkey, hbehind]

theorem mapM_slotOf? (h : declares fields (given.map Prod.fst) = true)
    (hfront : ∀ field ∈ fields, ∀ pair ∈ front, field.admits pair.1 = false) :
    (fields.mapM fun field => do return (field.name, ← slotOf? field (front ++ given))) =
      some (written fields given).slots := by
  induction fields generalizing front given with
  | nil => rfl
  | cons field fields ih =>
    cases given with
    | nil => cases h
    | cons pair given =>
      obtain ⟨hkey, hkeys, hothers, hrest⟩ := declares_cons.mp h
      obtain ⟨hfield, hfields⟩ := List.forall_mem_cons.mp hfront
      have hslot : slotOf? field (front ++ pair :: given) = some (.given pair.2) :=
        slotOf?_eq_given hfield hkey fun other hother => hkeys _ (List.mem_map_of_mem hother)
      have hdone : ∀ other ∈ fields, ∀ earlier ∈ front ++ [pair],
          other.admits earlier.1 = false := by
        intro other hother earlier hearlier
        rcases List.mem_append.mp hearlier with hmem | hmem
        · exact hfields other hother earlier hmem
        · rw [List.mem_singleton.mp hmem]
          exact hothers other hother
      have htail := ih hrest hdone
      rw [List.append_assoc, List.singleton_append] at htail
      rw [List.mapM_cons, htail, hslot]
      rfl

theorem ofNamed?_of_declares (h : declares fields (given.map Prod.fst) = true) :
    ofNamed? fields given = some (written fields given) := by
  have hslots : (fields.mapM fun field => do return (field.name, ← slotOf? field ([] ++ given))) =
      some (written fields given).slots := mapM_slotOf? h fun _ _ => List.forall_mem_nil _
  rw [List.nil_append] at hslots
  rw [ofNamed?, hslots]
  rfl

/-! ## Slots that were read -/

theorem required?_eq_some {x : β} (h : record.required? name decode = some x) :
    ∃ value, record.slot name = .given value ∧ decode value = some x := by
  unfold required? at h
  split at h
  · rename_i value hslot
    exact ⟨value, hslot, h⟩
  · cases h

theorem withDefault?_eq_some {fallback x : β}
    (h : record.withDefault? name fallback decode = some x) :
    x = fallback ∨ ∃ value, record.slot name = .given value ∧ decode value = some x := by
  unfold withDefault? at h
  split at h
  · rename_i value hslot
    exact .inr ⟨value, hslot, h⟩
  · exact .inl (Option.some.inj h).symm

theorem optional?_eq_some {decode : α → Option (Option β)} {x : Option β}
    (h : record.optional? name decode = some x) :
    x = none ∨ ∃ value, record.slot name = .given value ∧ decode value = some x := by
  unfold optional? at h
  split at h
  · rename_i value hslot
    exact .inr ⟨value, hslot, h⟩
  · exact .inl (Option.some.inj h).symm
  · cases h

/-! ## Where the values come from -/

theorem mem_slots_of_slot (h : record.slot name = .given value) :
    ∃ name, (name, .given value) ∈ record.slots := by
  unfold slot at h
  cases hfind : record.slots.find? (·.1 == name) with
  | none =>
    rw [hfind] at h
    cases h
  | some pair =>
    rw [hfind] at h
    obtain ⟨name, slot⟩ := pair
    obtain rfl : slot = .given value := h
    exact ⟨name, List.mem_of_find?_eq_some hfind⟩

theorem mem_of_slotOf? (h : slotOf? field given = some (.given value)) :
    ∃ key, (key, value) ∈ given := by
  unfold slotOf? at h
  split at h
  · cases h
  · rename_i key only hfilter
    obtain rfl : only = value := by simpa using h
    exact ⟨key, (List.mem_filter.mp (hfilter ▸ List.mem_singleton_self _)).1⟩
  · cases h

theorem mem_of_ofNamed? (h : ofNamed? fields given = some record)
    (hslot : record.slot name = .given value) : ∃ key, (key, value) ∈ given := by
  obtain ⟨slots, hslots, hrecord⟩ := Option.bind_eq_some_iff.mp h
  obtain rfl := Option.some.inj hrecord
  obtain ⟨name, hname⟩ := mem_slots_of_slot hslot
  obtain ⟨field, -, hfield⟩ := exists_of_mapM hslots _ hname
  obtain ⟨slot, hgiven, hsame⟩ := Option.bind_eq_some_iff.mp hfield
  obtain ⟨rfl, rfl⟩ := Prod.mk.inj (Option.some.inj hsame)
  exact mem_of_slotOf? hgiven

theorem mem_of_go {values : List α} (h : (name, .given value) ∈ ofValues.go fields values) :
    value ∈ values := by
  induction fields generalizing values with
  | nil => cases h
  | cons field fields ih =>
    cases values with
    | nil =>
      rcases List.mem_cons.mp h with hfirst | hrest
      · cases hfirst
      · exact ih hrest
    | cons first values =>
      rcases List.mem_cons.mp h with hfirst | hrest
      · cases hfirst
        exact List.mem_cons_self
      · exact List.mem_cons_of_mem first (ih hrest)

theorem mem_of_ofValues {values : List α} (h : (ofValues fields values).slot name = .given value) :
    value ∈ values := by
  obtain ⟨name, hname⟩ := mem_slots_of_slot h
  exact mem_of_go hname

end Record
end SegmentRules.Document

import SegmentRules.Commerce.Record
import SegmentRules.Condition.Filter
import SegmentRules.Product.Catalog
import SegmentRules.Proofs.Calendar.Text
import SegmentRules.Proofs.Commerce.RowOrder
import SegmentRules.Proofs.Json.Decode
import SegmentRules.Proofs.Json.Normal
import SegmentRules.Proofs.Rules.Meaning
import SegmentRules.Sql.Value

/-! # Records are decoded from what they are encoded as

Each record is written with its fields in declared order, so its slots hold what it was encoded
from. A decoded record has what this takes: writable times, sorted lists, normal values. -/
namespace SegmentRules

open Document (FieldName Record declares)
open Json (IsStorable depthLimit record?_bind)
open Sorted (Ascending)

attribute [local simp] declares FieldName.admits Record.written Record.slot Record.required?
  Record.optional? Record.withDefault?

/-! ## Identities -/

namespace Contact

theorem ofJson?_toJson (contact : Contact) : ofJson? contact.toJson = some contact := by
  rw [ofJson?, toJson]
  apply record?_bind
  · simp
  · intro record hslots
    simp [hslots]

theorem isStorable (contact : Contact) : IsStorable depthLimit contact.toJson := by
  simp [depthLimit, toJson]

end Contact

namespace IdentitySet

/-- Both lists ascend. -/
def IsSorted (set : IdentitySet) : Prop :=
  Ascending accountBefore set.accounts ∧ Ascending Sorted.textBefore set.emails

theorem ofJson?_toJson {set : IdentitySet} (h : set.IsSorted) : ofJson? set.toJson = some set := by
  have haccounts : Json.list? Json.uint64? (.array (set.accounts.map .ofUInt64)) =
      some set.accounts := Json.list?_map fun n _ => Json.uint64?_ofUInt64 n
  rw [ofJson?, toJson]
  apply record?_bind
  · simp
  · intro record hslots
    simp [hslots, haccounts, Sorted.ofList_of_ascending h.1, Sorted.ofList_of_ascending h.2]

theorem isStorable (set : IdentitySet) : IsStorable depthLimit set.toJson := by
  simp [depthLimit, toJson, Json.strings]

theorem isSorted_of_ofJson? {value : Json} {set : IdentitySet} (h : ofJson? value = some set) :
    set.IsSorted := by
  simp only [ofJson?, bind, Option.bind_eq_some_iff] at h
  obtain ⟨_, -, accounts, -, emails, -, hset⟩ := h
  obtain rfl := Option.some.inj hset
  exact ⟨Sorted.ofList_ascending accounts, Sorted.ofList_ascending emails⟩

end IdentitySet

/-! ## Rows of a store -/

namespace Commerce.Customer

theorem ofJson?_toJson (customer : Customer) : ofJson? customer.toJson = some customer := by
  rw [ofJson?, toJson]
  apply record?_bind
  · simp
  · intro record hslots
    simp [hslots]

theorem isStorable (customer : Customer) : IsStorable depthLimit customer.toJson := by
  simp [depthLimit, toJson]

end Commerce.Customer

theorem Window.timestampOfJson?_text {t : Timestamp} (h : t.IsWritable) :
    timestampOfJson? (.string t.text) = some t := by
  rw [timestampOfJson?, Json.string?_string, Option.bind_some, Timestamp.ofText?_text h]

theorem Window.isWritable_of_timestampOfJson? {value : Json} {t : Timestamp}
    (h : timestampOfJson? value = some t) : t.IsWritable := by
  obtain ⟨text, -, htext⟩ := Option.bind_eq_some_iff.mp h
  exact Timestamp.isWritable_of_ofText? htext

namespace Commerce.Subscription

/-- The expiration, if there is one, can be written. -/
def IsWritable (subscription : Subscription) : Prop :=
  ∀ t, subscription.expiration = some t → t.IsWritable

theorem nullable?_expiration {expiration : Option Timestamp}
    (h : ∀ t, expiration = some t → t.IsWritable) :
    Json.nullable? Window.timestampOfJson?
      (.ofOption (fun t => .string t.text) expiration) = some expiration := by
  cases expiration with
  | none => rfl
  | some t =>
    have hread := Window.timestampOfJson?_text (h t rfl)
    simp [Json.ofOption, Json.nullable?, hread]

theorem ofJson?_toJson {subscription : Subscription} (h : subscription.IsWritable) :
    ofJson? subscription.toJson = some subscription := by
  rw [ofJson?, toJson]
  apply record?_bind
  · simp
  · intro record hslots
    simp [hslots, nullable?_expiration h]

theorem isStorable (subscription : Subscription) : IsStorable depthLimit subscription.toJson := by
  simp [depthLimit, toJson]

theorem isWritable_of_ofJson? {value : Json} {subscription : Subscription}
    (h : ofJson? value = some subscription) : subscription.IsWritable := by
  simp only [ofJson?, bind, Option.bind_eq_some_iff] at h
  obtain ⟨_, -, _, -, _, -, _, -, _, -, _, -, expiration, hexpiration, hsame⟩ := h
  obtain rfl := Option.some.inj hsame
  rintro t rfl
  rcases Record.optional?_eq_some hexpiration with hnone | ⟨stored, -, hread⟩
  · cases hnone
  · unfold Json.nullable? at hread
    split at hread
    · cases hread
    · obtain ⟨read, hwritten, hsame⟩ := Option.map_eq_some_iff.mp hread
      obtain rfl := Option.some.inj hsame
      exact Window.isWritable_of_timestampOfJson? hwritten

end Commerce.Subscription

namespace Window

/-- Both ends can be written. -/
def IsWritable (window : Window) : Prop := window.start.IsWritable ∧ window.finish.IsWritable

theorem ofJson?_toJson {window : Window} (h : window.IsWritable) :
    ofJson? window.toJson = some window := by
  rw [ofJson?, toJson]
  apply record?_bind
  · simp
  · intro record hslots
    simp [hslots, timestampOfJson?_text h.1, timestampOfJson?_text h.2]

theorem isStorable (window : Window) : IsStorable depthLimit window.toJson := by
  simp [depthLimit, toJson]

theorem isWritable_of_ofJson? {value : Json} {window : Window} (h : ofJson? value = some window) :
    window.IsWritable := by
  simp only [ofJson?, bind, Option.bind_eq_some_iff] at h
  obtain ⟨_, -, start, hstart, finish, hfinish, hsame⟩ := h
  obtain rfl := Option.some.inj hsame
  obtain ⟨_, -, hstart⟩ := Record.required?_eq_some hstart
  obtain ⟨_, -, hfinish⟩ := Record.required?_eq_some hfinish
  exact ⟨isWritable_of_timestampOfJson? hstart, isWritable_of_timestampOfJson? hfinish⟩

end Window

/-! ## Selectors and products -/

namespace Selector

theorem ofJson?_toJson (selector : Selector) : ofJson? selector.toJson = some selector := by
  rw [ofJson?, toJson]
  apply record?_bind
  · simp
  · intro record hslots
    simp [hslots]

theorem isStorable (selector : Selector) : IsStorable depthLimit selector.toJson := by
  simp [depthLimit, toJson]

end Selector

theorem PriceOption.ofJson?_toJson (price : PriceOption) : ofJson? price.toJson = some price := by
  rw [ofJson?, toJson]
  apply record?_bind
  · simp
  · intro record hslots
    simp [hslots]

namespace Product

theorem ofJson?_toJson (product : Product) : ofJson? product.toJson = some product := by
  have hprices : Json.list? PriceOption.ofJson? (.array (product.prices.map PriceOption.toJson)) =
      some product.prices := Json.list?_map fun price _ => price.ofJson?_toJson
  rw [ofJson?, toJson]
  apply record?_bind
  · simp
  · intro record hslots
    simp [hslots, hprices]

theorem isStorable (product : Product) : IsStorable depthLimit product.toJson := by
  simp [depthLimit, toJson, PriceOption.toJson]

end Product

/-! ## Conditions on offer -/

instance : IsStrictTotalOrder Operator fun a b => ConditionItem.operatorBefore a b = true where
  irrefl a := by cases a <;> decide
  trans a b c := by cases a <;> cases b <;> cases c <;> decide
  trichotomous a b := by cases a <;> cases b <;> decide

namespace ConditionItem

/-- The label of an operator under the operator's name. -/
def operatorLabel? (field : String × Json) : Option (Operator × String) := do
  return (← Operator.ofName? field.1, ← field.2.string?)

theorem operatorsOfJson?_object (fields : List (String × Json)) :
    operatorsOfJson? (.object fields) =
      (fields.mapM operatorLabel?).map (List.foldl (Sorted.putPair operatorBefore) []) := by
  have hstep : (fun labels (field : String × Json) => do
      return Sorted.insertPair operatorBefore (← Operator.ofName? field.1) (← field.2.string?)
        labels) = fun labels field =>
          (operatorLabel? field).map (Sorted.putPair operatorBefore labels) := by
    funext labels field
    rw [operatorLabel?]
    cases Operator.ofName? field.1 with
    | none => rfl
    | some operator =>
      cases field.2.string? with
      | none => rfl
      | some label => rfl
  rw [← foldlM_map, ← hstep]
  rfl

/-- The operators stand in their order. -/
def IsSorted (item : ConditionItem) : Prop :=
  Ascending operatorBefore (item.customOperators.map Prod.fst)

theorem operatorsOfJson?_operatorsToJson {item : ConditionItem} (h : item.IsSorted) :
    operatorsOfJson? (operatorsToJson item.customOperators) = some item.customOperators := by
  have hlabels : (item.customOperators.map fun label => (label.1.name, Json.string label.2)).mapM
      operatorLabel? = some item.customOperators := by
    apply mapM_map
    rintro ⟨operator, label⟩ -
    simp [operatorLabel?, Operator.ofName?_name]
  have hput : item.customOperators.foldl (Sorted.putPair operatorBefore) [] =
      [] ++ item.customOperators := Sorted.foldl_putPair_of_ascending h
  rw [operatorsToJson, operatorsOfJson?_object, hlabels, Option.map_some, hput, List.nil_append]

theorem ofJson?_toJson {item : ConditionItem} (h : item.IsSorted) :
    ofJson? item.toJson = some item := by
  rw [ofJson?, toJson]
  apply record?_bind
  · simp
  · intro record hslots
    simp [hslots, operatorsOfJson?_operatorsToJson h]

theorem isStorable {room : Nat} (item : ConditionItem) : IsStorable (room + 2) item.toJson := by
  have hlabels : IsStorable (room + 1) (operatorsToJson item.customOperators) := by
    rw [operatorsToJson, Json.isStorable_object]
    intro field hfield
    obtain ⟨label, -, rfl⟩ := List.mem_map.mp hfield
    exact Json.isStorable_string label.2
  simp [toJson, hlabels]

theorem isSorted_of_ofJson? {value : Json} {item : ConditionItem} (h : ofJson? value = some item) :
    item.IsSorted := by
  simp only [ofJson?, bind, Option.bind_eq_some_iff] at h
  obtain ⟨_, -, _, -, _, -, _, -, _, -, _, -, _, -, _, -, _, -, operators, hoperators, hsame⟩ := h
  obtain rfl := Option.some.inj hsame
  obtain ⟨stored, -, hread⟩ := Record.required?_eq_some hoperators
  cases stored with
  | object fields =>
    rw [operatorsOfJson?_object] at hread
    obtain ⟨labels, -, rfl⟩ := Option.map_eq_some_iff.mp hread
    exact Sorted.foldl_putPair_ascending List.Pairwise.nil
  | _ => cases hread

end ConditionItem

namespace FilterGroup

def IsSorted (group : FilterGroup) : Prop := ∀ item ∈ group.children, item.IsSorted

theorem ofJson?_toJson {group : FilterGroup} (h : group.IsSorted) :
    ofJson? group.toJson = some group := by
  have hchildren : Json.list? ConditionItem.ofJson?
      (.array (group.children.map ConditionItem.toJson)) = some group.children :=
    Json.list?_map fun item hitem => ConditionItem.ofJson?_toJson (h item hitem)
  rw [ofJson?, toJson]
  apply record?_bind
  · simp
  · intro record hslots
    simp [hslots, hchildren]

theorem isStorable (group : FilterGroup) : IsStorable depthLimit group.toJson := by
  simp [depthLimit, toJson, ConditionItem.isStorable]

theorem isSorted_of_ofJson? {value : Json} {group : FilterGroup} (h : ofJson? value = some group) :
    group.IsSorted := by
  simp only [ofJson?, bind, Option.bind_eq_some_iff] at h
  obtain ⟨_, -, _, -, _, -, children, hchildren, hsame⟩ := h
  obtain rfl := Option.some.inj hsame
  obtain ⟨stored, -, hread⟩ := Record.required?_eq_some hchildren
  intro item hitem
  unfold Json.list? at hread
  split at hread
  · obtain ⟨given, -, hgiven⟩ := exists_of_mapM hread item hitem
    exact ConditionItem.isSorted_of_ofJson? hgiven
  · cases hread

end FilterGroup

/-! ## Filters -/

namespace Filter

/-- The names of the fields, with those that automations use. -/
def fieldNames : List FieldName :=
  [⟨"property", ["data_key"]⟩, ⟨"operator", []⟩, ⟨"value", ["data_value"]⟩]

theorem ofJson?_named {filter : Filter} {propertyName valueName : String}
    (declared : declares fieldNames [propertyName, "operator", valueName] = true)
    (h : filter.value.IsNormal) :
    ofJson? (.object [(propertyName, .string filter.property),
      ("operator", .ofOption .string filter.operator), (valueName, filter.value)]) =
        some filter := by
  rw [ofJson?]
  apply record?_bind
  · exact declared
  · intro record hslots
    simp [hslots, h.normal?_eq]

theorem ofJson?_toJson {filter : Filter} (h : filter.value.IsNormal) :
    ofJson? filter.toJson = some filter :=
  ofJson?_named (by decide) h

theorem isNormal_of_ofJson? {value : Json} {filter : Filter} (h : ofJson? value = some filter) :
    filter.value.IsNormal := by
  simp only [ofJson?, bind, Option.bind_eq_some_iff] at h
  obtain ⟨_, -, _, -, _, -, normal, hnormal, hsame⟩ := h
  obtain rfl := Option.some.inj hsame
  rcases Record.withDefault?_eq_some hnormal with rfl | ⟨stored, -, hread⟩
  · exact .null
  · exact Json.isNormal_of_normal? hread

theorem nesting_of_ofJson? {value : Json} {filter : Filter} {bound : Nat}
    (h : ofJson? value = some filter) (room : value.nesting ≤ bound + 1) :
    filter.value.nesting ≤ bound := by
  simp only [ofJson?, bind, Option.bind_eq_some_iff] at h
  obtain ⟨record, hrecord, _, -, _, -, normal, hnormal, hsame⟩ := h
  obtain rfl := Option.some.inj hsame
  rcases Record.withDefault?_eq_some hnormal with rfl | ⟨stored, hslot, hread⟩
  · exact Nat.zero_le bound
  · have hstored : stored.nesting + 0 ≤ bound := Json.nesting_of_slot hrecord hslot room
    exact Json.nesting_of_normal? hread hstored

theorem isStorable {filter : Filter} (h : IsStorable 126 filter.value) :
    IsStorable depthLimit filter.toJson := by
  simp [depthLimit, toJson, h]

end Filter

/-! ## Bound values -/

namespace Sql.Value

/-- The value its JSON is read as: a number without sign gets one if it has room for it. -/
def settled : Value → Value
  | .uint n => if n.toNat < 2 ^ 63 then .int (Int64.ofInt n.toNat) else .uint n
  | value => value

theorem ofJson?_toJson (value : Value) : ofJson? value.toJson = some value.settled := by
  cases value with
  | int n =>
    rw [toJson, ofJson?, Json.int64?_ofInt64]
    rfl
  | text text => rfl
  | uint n =>
    rw [toJson, ofJson?, Json.uint64?_ofUInt64, Json.int64?_ofUInt64, settled]
    by_cases h : n.toNat < 2 ^ 63
    · rw [if_pos h, if_pos h]
    · rw [if_neg h, if_neg h]

theorem settled_of_ofJson? {json : Json} {value : Value} (h : ofJson? json = some value) :
    value.settled = value := by
  unfold ofJson? at h
  split at h
  · cases h
    rfl
  · rename_i n hint huint
    cases h
    rw [Json.eq_of_uint64? huint, Json.int64?_ofUInt64] at hint
    rw [settled, if_neg]
    intro hroom
    rw [if_pos hroom] at hint
    cases hint
  · cases h
    rfl
  · cases h

/-- To the database it is the same value. -/
theorem same_settled (value : Value) : value.same value.settled = true := by
  cases value with
  | int n => simp [settled, same]
  | text text => simp [settled, same]
  | uint n =>
    by_cases h : n.toNat < 2 ^ 63
    · have hvalue : (Int64.ofInt n.toNat).toInt = n.toNat :=
        Int64.toInt_ofInt_of_le (by omega) (by omega)
      simp only [settled, if_pos h, same, hvalue, beq_self_eq_true]
    · rw [settled, if_neg h]
      simp [same]

theorem isStorable (value : Value) : IsStorable depthLimit value.toJson := by
  cases value with
  | int n => exact Json.isStorable_ofInt64 n
  | uint n => exact Json.isStorable_ofUInt64 n
  | text text => exact Json.isStorable_string text

end Sql.Value
end SegmentRules

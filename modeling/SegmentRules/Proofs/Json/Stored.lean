import SegmentRules.Proofs.Json.Records

/-! # What is read stays what it is

To write a value that was read, and to read it again, changes nothing. Other values are read back as
well, unless the text has no place for them: a leap second inside a minute, or arrays within each
other to more than the depth that is read. -/
namespace SegmentRules

open Json (Exact IsNormal IsStorable depthLimit)

/-- Values survive their text. Of those that were read, the ones in scope do; of all others, those
that are kept. -/
structure Settles {α : Type} (toJson : α → Json) (ofJson? : Json → Option α)
    (scope kept : α → Prop) : Prop where
  again : ∀ text value, Json.decode? ofJson? text = some value → scope value →
    Json.decode? ofJson? (toJson value).render = some value
  recovered : ∀ value, kept value → Json.decode? ofJson? (toJson value).render = some value

section Codec

variable {α : Type} {toJson : α → Json} {ofJson? : Json → Option α} {scope kept : α → Prop}

theorem settles_of_codec
    (stored : ∀ value, kept value →
      IsStorable depthLimit (toJson value) ∧ ofJson? (toJson value) = some value)
    (read : ∀ json value, json.nesting ≤ depthLimit → ofJson? json = some value → scope value →
      kept value) : Settles toJson ofJson? scope kept := by
  have hrecovered : ∀ value, kept value →
      Json.decode? ofJson? (toJson value).render = some value := by
    intro value hkept
    obtain ⟨hstorable, hdecoded⟩ := stored value hkept
    exact Json.decode?_render hstorable hdecoded
  refine ⟨?_, hrecovered⟩
  intro text value htext hscope
  obtain ⟨json, hjson, hvalue⟩ := Option.bind_eq_some_iff.mp htext
  exact hrecovered value (read json value (Json.nesting_ofText? hjson) hvalue hscope)

end Codec

theorem Filter.settles : Settles toJson ofJson? (fun filter => Exact filter.value)
    fun filter => filter.value.IsNormal ∧ Exact filter.value ∧ filter.value.nesting ≤ 126 := by
  apply settles_of_codec
  · rintro filter ⟨hnormal, hexact, hnesting⟩
    exact ⟨isStorable ⟨hexact, hnesting⟩, ofJson?_toJson hnormal⟩
  · intro json filter hjson hfilter hexact
    exact ⟨isNormal_of_ofJson? hfilter, hexact, nesting_of_ofJson? hfilter hjson⟩

/-- Whatever text a value was read from, its own text is read as the same value; a free value of a
filter has to be free of doubles for this. The values that no text was read for are read back
too, if their times can be written, their sets and labels are sorted, and a free value is sorted
and not too deep. A bound value without a sign gets one where it has room for it, and is the same
to the database. -/
theorem values_settle :
    Settles Sql.Value.toJson Sql.Value.ofJson? (fun _ => True)
      (fun value => value.settled = value) ∧
    (∀ value : Sql.Value,
      Json.decode? Sql.Value.ofJson? value.toJson.render = some value.settled ∧
      value.same value.settled = true) ∧
    Settles Selector.toJson Selector.ofJson? (fun _ => True) (fun _ => True) ∧
    Settles Window.toJson Window.ofJson? (fun _ => True) Window.IsWritable ∧
    Settles Contact.toJson Contact.ofJson? (fun _ => True) (fun _ => True) ∧
    Settles IdentitySet.toJson IdentitySet.ofJson? (fun _ => True) IdentitySet.IsSorted ∧
    Settles Commerce.Customer.toJson Commerce.Customer.ofJson? (fun _ => True) (fun _ => True) ∧
    Settles Commerce.Subscription.toJson Commerce.Subscription.ofJson? (fun _ => True)
      Commerce.Subscription.IsWritable ∧
    Settles Filter.toJson Filter.ofJson? (fun filter => Exact filter.value)
      (fun filter => filter.value.IsNormal ∧ Exact filter.value ∧ filter.value.nesting ≤ 126) ∧
    Settles FilterGroup.toJson FilterGroup.ofJson? (fun _ => True) FilterGroup.IsSorted ∧
    Settles Product.toJson Product.ofJson? (fun _ => True) (fun _ => True) := by
  refine ⟨?_, ?_, ?_, ?_, ?_, ?_, ?_, ?_, Filter.settles, ?_, ?_⟩
  · apply settles_of_codec
    · intro value hsettled
      have hdecoded := value.ofJson?_toJson
      rw [hsettled] at hdecoded
      exact ⟨value.isStorable, hdecoded⟩
    · intro json value _ hvalue _
      exact Sql.Value.settled_of_ofJson? hvalue
  · intro value
    exact ⟨Json.decode?_render value.isStorable value.ofJson?_toJson, value.same_settled⟩
  · exact settles_of_codec (fun selector _ => ⟨selector.isStorable, selector.ofJson?_toJson⟩)
      fun _ _ _ _ _ => trivial
  · exact settles_of_codec (fun window h => ⟨window.isStorable, Window.ofJson?_toJson h⟩)
      fun _ _ _ h _ => Window.isWritable_of_ofJson? h
  · exact settles_of_codec (fun contact _ => ⟨contact.isStorable, contact.ofJson?_toJson⟩)
      fun _ _ _ _ _ => trivial
  · exact settles_of_codec (fun set h => ⟨set.isStorable, IdentitySet.ofJson?_toJson h⟩)
      fun _ _ _ h _ => IdentitySet.isSorted_of_ofJson? h
  · exact settles_of_codec (fun customer _ => ⟨customer.isStorable, customer.ofJson?_toJson⟩)
      fun _ _ _ _ _ => trivial
  · exact settles_of_codec (fun row h => ⟨row.isStorable, Commerce.Subscription.ofJson?_toJson h⟩)
      fun _ _ _ h _ => Commerce.Subscription.isWritable_of_ofJson? h
  · exact settles_of_codec (fun group h => ⟨group.isStorable, FilterGroup.ofJson?_toJson h⟩)
      fun _ _ _ h _ => FilterGroup.isSorted_of_ofJson? h
  · exact settles_of_codec (fun product _ => ⟨product.isStorable, product.ofJson?_toJson⟩)
      fun _ _ _ _ _ => trivial

/-- The leap second at the end of 2016, and half a second later. -/
def turnOfYear : Window := ⟨⟨63650447999, 1000000000⟩, ⟨63650448000, 500000000⟩⟩

def mixedFilter : Filter := ⟨"has_subscription_any", some "in", .array [.string "7:1", .integer 7]⟩

theorem values_settle_of_loose :
    Json.decode? Window.ofJson? "[\" 2016-12-31T23:59:60\", \"2017-1-1T0:0:0.5000\"]" =
      some turnOfYear ∧
    Json.decode? Window.ofJson? turnOfYear.toJson.render = some turnOfYear ∧
    Json.decode? Contact.ofJson? "\x7b\"note\": [1.5], \"id\": 7\x7d" = some ⟨7, none, none⟩ ∧
    Json.decode? Contact.ofJson? (Contact.toJson ⟨7, none, none⟩).render = some ⟨7, none, none⟩ ∧
    IdentitySet.IsSorted ⟨[1, 3], ["a", "b"]⟩ ∧
    Json.decode? IdentitySet.ofJson? (IdentitySet.toJson ⟨[1, 3], ["a", "b"]⟩).render =
      some ⟨[1, 3], ["a", "b"]⟩ ∧
    (mixedFilter.value.IsNormal ∧ Exact mixedFilter.value ∧ mixedFilter.value.nesting ≤ 126) ∧
    Json.decode? Filter.ofJson? mixedFilter.toJson.render = some mixedFilter ∧
    Json.decode? Sql.Value.ofJson? (Sql.Value.toJson (.uint 7)).render = some (.int 7) := by
  obtain ⟨-, hbound, -, hwindow, hcontact, hset, -, -, hfilter, -⟩ := values_settle
  have hloose : Json.decode? Window.ofJson?
      "[\" 2016-12-31T23:59:60\", \"2017-1-1T0:0:0.5000\"]" = some turnOfYear := by
    decide +kernel
  have hnote : Json.decode? Contact.ofJson? "\x7b\"note\": [1.5], \"id\": 7\x7d" =
      some ⟨7, none, none⟩ := by
    decide +kernel
  have hsorted : IdentitySet.IsSorted ⟨[1, 3], ["a", "b"]⟩ := by
    constructor
    · exact List.pairwise_pair.mpr (by decide)
    · exact List.pairwise_pair.mpr (by decide)
  have hmixed : mixedFilter.value.IsNormal ∧ Exact mixedFilter.value ∧
      mixedFilter.value.nesting ≤ 126 := by
    refine ⟨.array ?_, .array ?_, by decide⟩
    · exact List.forall_mem_cons.mpr ⟨.string "7:1", List.forall_mem_singleton.mpr (.integer 7)⟩
    · exact List.forall_mem_cons.mpr
        ⟨.string "7:1", List.forall_mem_singleton.mpr (.integer (by decide))⟩
  exact ⟨hloose, hwindow.again _ _ hloose trivial, hnote, hcontact.again _ _ hnote trivial, hsorted,
    hset.recovered _ hsorted, hmixed, hfilter.recovered _ hmixed, (hbound (.uint 7)).1⟩

/-! ## Arrays within each other -/

/-- Empty but for arrays within each other. -/
def nestedArrays : Nat → Json
  | 0 => .null
  | n + 1 => .array [nestedArrays n]

theorem nesting_nestedArrays (n : Nat) : (nestedArrays n).nesting = n := by
  induction n with
  | zero => rfl
  | succ n ih => simp [nestedArrays, Json.nesting, Json.nestingItems, ih]

theorem isNormal_nestedArrays (n : Nat) : (nestedArrays n).IsNormal := by
  induction n with
  | zero => exact .null
  | succ n ih => exact .array (List.forall_mem_singleton.mpr ih)

theorem exact_nestedArrays (n : Nat) : Exact (nestedArrays n) := by
  induction n with
  | zero => exact .null
  | succ n ih => exact .array (List.forall_mem_singleton.mpr ih)

def deepFilter : Filter := ⟨"", none, nestedArrays 127⟩

/-- The text of a filter has no place for 127 arrays within each other. -/
theorem deepFilter_lost : deepFilter.value.IsNormal ∧ Exact deepFilter.value ∧
    Json.decode? Filter.ofJson? deepFilter.toJson.render ≠ some deepFilter := by
  refine ⟨isNormal_nestedArrays 127, exact_nestedArrays 127, ?_⟩
  intro h
  obtain ⟨json, hjson, hfilter⟩ := Option.bind_eq_some_iff.mp h
  have hnesting : (nestedArrays 127).nesting ≤ 126 :=
    Filter.nesting_of_ofJson? hfilter (Json.nesting_ofText? hjson)
  rw [nesting_nestedArrays] at hnesting
  omega

end SegmentRules

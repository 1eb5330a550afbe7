import SegmentRules.Proofs.Condition.Items
import SegmentRules.Proofs.Json.Records

/-! # Filters reach the catalog as they were stored

A filter that was made of selectors, written, and read under either name of its fields, gives these
selectors. Of a value in general, each item gives the selector it stands for. -/
namespace SegmentRules

open Json (EndsNumber IsNormal IsStorable NumberText depthLimit)
open Numeral (digits)

def Json.renameField (old new : String) : Json → Json
  | .object fields =>
    .object (fields.map fun (key, value) => (if key = old then new else key, value))
  | value => value

/-- The condition with the selectors, each once, in the order in which they first stand; without
selectors there is none. -/
def Condition.IsChoice (kind : Kind) (operator : Operator) (selectors : List Selector)
    (result : Except RuleError Condition) : Prop :=
  (selectors = [] → result = .error .noSelectors) ∧
    (selectors ≠ [] → ∃ kept, result = .ok ⟨kind, operator, kept⟩ ∧
      FirstOccurrences selectors kept)

variable {kind : Kind} {operator : Operator} {value : Json} {selectors : List Selector}

/-! ## The selectors of a value -/

namespace Filter

theorem ofTokens_tokens (filter : Filter) :
    Selector.ofTokens filter.tokens = ((items filter.value).filterMap selector?).eraseDups := by
  rw [Selector.ofTokens, tokens_eq, List.filterMap_filterMap]
  rfl

theorem items_of_not_array (single : ∀ list, value ≠ .array list) : items value = [value] := by
  cases value with
  | array list => exact absurd rfl (single list)
  | _ => rfl

theorem ofFilter_single (property : String) (operator : Option String)
    (single : ∀ list, value ≠ .array list) (catalog : Catalog) :
    Condition.ofFilter ⟨property, operator, value⟩ catalog =
      Condition.ofFilter ⟨property, operator, .array [value]⟩ catalog := by
  have htokens : tokens ⟨property, operator, value⟩ =
      tokens ⟨property, operator, .array [value]⟩ := by
    rw [tokens_eq, tokens_eq, items_of_not_array single]
    rfl
  rw [Condition.ofFilter, htokens]
  rfl

theorem selector?_display {selector : Selector} (positive : selector.product ≠ 0) :
    selector? (.string selector.display) = some selector :=
  selector?_eq_some.mpr ⟨selector.display, rfl, Selector.written_display positive⟩

theorem selectors_of_displays (positive : ∀ selector ∈ selectors, selector.product ≠ 0) :
    (items (.strings (selectors.map Selector.display))).filterMap selector? = selectors := by
  induction selectors with
  | nil => rfl
  | cons selector rest ih =>
    obtain ⟨hselector, hrest⟩ := List.forall_mem_cons.mp positive
    have hitems : items (.strings ((selector :: rest).map Selector.display)) =
        .string selector.display :: items (.strings (rest.map Selector.display)) := rfl
    rw [hitems, List.filterMap_cons_some (selector?_display hselector), ih hrest]

end Filter

/-! ## The condition of a filter -/

namespace Condition

theorem operatorOf_name (key : String) (operator : Operator) :
    operatorOf key (some operator.name) = .ok operator := by
  have hname : operator.name ≠ "" := by
    cases operator <;> decide
  rw [operatorOf, if_neg hname, Operator.ofName?_name]

theorem ofFilter_listed (listed : kind ∈ Catalog.kinds) (operator : Operator) (value : Json) :
    ofFilter ⟨kind.key, some operator.name, value⟩ (.withGate true) =
      (Selector.parseAll (Filter.tokens ⟨kind.key, some operator.name, value⟩)).map
        fun selectors => ⟨kind, operator, selectors⟩ := by
  rcases Catalog.get?_withGate true kind.key with ⟨-, hunlisted⟩ | ⟨other, hother, hkey, hget⟩
  · exact absurd ⟨kind, listed, rfl⟩ hunlisted
  obtain rfl := key_injective_on_kinds other hother kind listed hkey
  have hallows : Catalog.Entry.allows ⟨other, Operator.all, true⟩ operator = true := by
    simp [Catalog.Entry.allows, Operator.mem_all]
  cases hparse : Selector.parseAll (Filter.tokens ⟨other.key, some operator.name, value⟩) with
  | error error =>
    simp [ofFilter, hget, operatorOf_name, hallows, hparse, bind, Except.bind, Except.map]
  | ok selectors =>
    simp [ofFilter, hget, operatorOf_name, hallows, hparse, bind, Except.bind, Except.map, pure,
      Except.pure]

theorem parseAll_isChoice {filter : Filter}
    (h : (Filter.items filter.value).filterMap Filter.selector? = selectors) :
    IsChoice kind operator selectors
      ((Selector.parseAll filter.tokens).map fun selectors => ⟨kind, operator, selectors⟩) := by
  have hkept := firstOccurrences_eraseDups selectors
  rw [Selector.parseAll, Filter.ofTokens_tokens, h]
  constructor
  · rintro rfl
    rfl
  · intro hsome
    refine ⟨selectors.eraseDups, ?_, hkept⟩
    cases hlist : selectors.eraseDups with
    | nil =>
      obtain ⟨selector, hmem⟩ := List.exists_mem_of_ne_nil selectors hsome
      have hnone := (hkept.members selector).mpr hmem
      rw [hlist] at hnone
      cases hnone
    | cons first rest => rfl

theorem ofFilter_isChoice (listed : kind ∈ Catalog.kinds) (operator : Operator) (value : Json) :
    IsChoice kind operator ((Filter.items value).filterMap Filter.selector?)
      (ofFilter ⟨kind.key, some operator.name, value⟩ (.withGate true)) := by
  rw [ofFilter_listed listed]
  exact parseAll_isChoice rfl

end Condition

/-! ## Stored filters -/

namespace Filter

def storedAs (filter : Filter) (propertyName valueName : String) : Json :=
  (filter.toJson.renameField "property" propertyName).renameField "value" valueName

theorem decode?_storedAs {filter : Filter} {propertyName valueName : String}
    (property : propertyName ∈ ["property", "data_key"])
    (value : valueName ∈ ["value", "data_value"])
    (normal : filter.value.IsNormal) (storable : IsStorable 126 filter.value) :
    Json.decode? ofJson? (filter.storedAs propertyName valueName).render = some filter := by
  have hstored : filter.storedAs propertyName valueName =
      .object [(propertyName, .string filter.property),
        ("operator", .ofOption .string filter.operator), (valueName, filter.value)] := by
    rcases List.mem_pair.mp property with rfl | rfl
    · simp [storedAs, toJson, Json.renameField]
    · simp [storedAs, toJson, Json.renameField]
  have hdeclared : Document.declares fieldNames [propertyName, "operator", valueName] = true := by
    rcases List.mem_pair.mp property with rfl | rfl
    · rcases List.mem_pair.mp value with rfl | rfl <;> decide
    · rcases List.mem_pair.mp value with rfl | rfl <;> decide
  rw [hstored]
  apply Json.decode?_render
  · simp [depthLimit, storable]
  · exact ofJson?_named hdeclared normal

theorem isNormal_strings (texts : List String) : (Json.strings texts).IsNormal := by
  apply IsNormal.array
  intro item hitem
  obtain ⟨text, -, rfl⟩ := List.mem_map.mp hitem
  exact .string text

theorem isStorable_strings (texts : List String) : IsStorable 126 (Json.strings texts) := by
  simp [Json.strings]

/-- A filter made of selectors, stored and read, is the condition with these selectors. Whatever its
value, a filter is the condition with the selectors of the items of the value, and a value that is
no list is the one item. A number stands for a product if it is written as the digits of this
product and nothing else; null, truth values, lists and objects stand for nothing. -/
theorem selectors_survive :
    (∀ kind ∈ Catalog.kinds, ∀ (operator : Operator) (selectors : List Selector),
      (∀ selector ∈ selectors, selector.product ≠ 0) →
      ∀ propertyName ∈ ["property", "data_key"], ∀ valueName ∈ ["value", "data_value"],
      ∃ filter,
        Json.decode? ofJson? ((new kind.key operator (selectors.map Selector.display)).storedAs
          propertyName valueName).render = some filter ∧
        Condition.IsChoice kind operator selectors (Condition.ofFilter filter (.withGate true))) ∧
    (∀ kind ∈ Catalog.kinds, ∀ (operator : Operator) (value : Json),
      Condition.IsChoice kind operator ((items value).filterMap selector?)
        (Condition.ofFilter ⟨kind.key, some operator.name, value⟩ (.withGate true))) ∧
    (∀ property operator value, (∀ list, value ≠ .array list) → ∀ catalog,
      Condition.ofFilter ⟨property, operator, value⟩ catalog =
        Condition.ofFilter ⟨property, operator, .array [value]⟩ catalog) ∧
    (∀ (number : NumberText) text, number.Written text → ∀ rest, EndsNumber rest →
      ∀ fuel depth, ∃ value,
        Json.readValue? (fuel + 1) depth (text ++ rest) = some (value, rest) ∧
        (∀ normal, value.normal? = some normal → normal = value) ∧
        ∀ selector, selector? value = some selector ↔
          ∃ word : UInt64, word ≠ 0 ∧ text = digits 10 word.toNat ∧ selector = ⟨word, none⟩) ∧
    selector? .null = none ∧ (∀ value, selector? (.bool value) = none) ∧
    (∀ list, selector? (.array list) = none) ∧ ∀ fields, selector? (.object fields) = none := by
  refine ⟨?_, ?_, ?_, ?_, selector?_eq_none rfl, fun _ => selector?_eq_none rfl,
    fun _ => selector?_eq_none rfl, fun _ => selector?_eq_none rfl⟩
  · intro kind listed operator selectors positive propertyName hproperty valueName hvalue
    refine ⟨new kind.key operator (selectors.map Selector.display), ?_, ?_⟩
    · exact decode?_storedAs hproperty hvalue (isNormal_strings _) (isStorable_strings _)
    · have hchoice := Condition.ofFilter_isChoice listed operator
        (.strings (selectors.map Selector.display))
      rw [selectors_of_displays positive] at hchoice
      exact hchoice
  · intro kind listed operator value
    exact Condition.ofFilter_isChoice listed operator value
  · intro property operator value single catalog
    exact ofFilter_single property operator single catalog
  · intro number text hwritten rest hend fuel depth
    refine ⟨_, Json.readValue?_number hwritten hend fuel depth, ?_, ?_⟩
    · intro normal hnormal
      exact normal?_number hnormal
    · intro selector
      exact selector?_number hwritten

def repeatedSelectors : List Selector := [⟨7, none⟩, ⟨7, some 1⟩, ⟨7, none⟩]

theorem selectors_survive_of_repeated :
    Kind.hasSubscription none ∈ Catalog.kinds ∧
    (∀ selector ∈ repeatedSelectors, selector.product ≠ 0) ∧
    (∃ filter, Json.decode? ofJson? ((new (Kind.hasSubscription none).key .nonMember
        (repeatedSelectors.map Selector.display)).storedAs "data_key" "data_value").render =
          some filter ∧
      ∃ kept, Condition.ofFilter filter (.withGate true) =
          .ok ⟨.hasSubscription none, .nonMember, kept⟩ ∧
        FirstOccurrences repeatedSelectors kept) ∧
    Condition.ofFilter ⟨"", none, .integer 7⟩ (.withGate true) =
      Condition.ofFilter ⟨"", none, .array [.integer 7]⟩ (.withGate true) ∧
    NumberText.Written ⟨false, ['1'], none, some (false, ['0'])⟩ ['1', 'e', '0'] ∧
    ∃ value, Json.readValue? 1 0 ['1', 'e', '0', ']'] = some (value, [']']) ∧
      selector? value = none := by
  obtain ⟨hstored, -, hsingle, hnumber, -⟩ := selectors_survive
  have hlisted : Kind.hasSubscription none ∈ Catalog.kinds := by decide
  have hpositive : ∀ selector ∈ repeatedSelectors, selector.product ≠ 0 := by decide
  have hwritten : NumberText.Written ⟨false, ['1'], none, some (false, ['0'])⟩ ['1', 'e', '0'] := by
    have hwhole : Numeral.IsWhole ['1'] := Numeral.isWhole_digits 1
    have hzero : ∀ c ∈ ['0'], Numeral.isDigit c = true := List.forall_mem_singleton.mpr (by decide)
    exact .parts hwhole .none (.power (.inl rfl) .none (by decide) hzero)
  obtain ⟨filter, hdecode, -, hchoice⟩ := hstored _ hlisted .nonMember _ hpositive "data_key"
    (by decide) "data_value" (by decide)
  obtain ⟨value, hread, -, hselector⟩ := hnumber _ _ hwritten [']']
    (Json.endsNumber_cons.mpr (by decide)) 0 0
  refine ⟨hlisted, hpositive, ⟨filter, hdecode, hchoice (by decide)⟩,
    hsingle "" none (.integer 7) (fun _ => nofun) _, hwritten, value, hread, ?_⟩
  rw [Option.eq_none_iff_forall_ne_some]
  intro selector h
  obtain ⟨word, -, htext, -⟩ := (hselector selector).mp h
  have hdigit := Numeral.digits_all_isDigit word.toNat 'e' (htext ▸ by decide)
  exact absurd hdigit (by decide)

end Filter
end SegmentRules

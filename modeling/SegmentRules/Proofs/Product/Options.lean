import SegmentRules.Commerce.Record
import SegmentRules.Condition.Filter
import SegmentRules.Product.Options
import SegmentRules.Proofs.Repetitions
import SegmentRules.Proofs.Selector.Token

/-! # Choices of products

Either every wanted product is listed once, in the order in which the products are first wanted, or
the first failure is all there is. What a choice of a product is read as selects the subscriptions
to this product, or to the price. -/
namespace SegmentRules

open Commerce (Subscription)

/-- As the value of a filter, the choice stands for a selector. -/
def SelectorOption.Chooses (option : SelectorOption) (selector : Selector) : Prop :=
  ∀ property operator,
    Selector.parseAll (Filter.tokens ⟨property, operator, .string option.id⟩) = .ok [selector]

/-- The selector takes the subscriptions to a product, whatever the price. -/
def Selector.TakesProduct (selector : Selector) (product : UInt64) : Prop :=
  ∀ row : Subscription, selector.selects row.product row.price = true ↔ row.product = product

/-- The selector takes the subscriptions to one price of a product. -/
def Selector.TakesPrice (selector : Selector) (product price : UInt64) : Prop :=
  ∀ row : Subscription, selector.selects row.product row.price = true ↔
    row.product = product ∧ row.price = some price

theorem Selector.takesProduct (product : UInt64) : TakesProduct ⟨product, none⟩ product := by
  intro row
  rw [selects_iff]
  constructor
  · rintro ⟨h, -⟩
    exact h.symm
  · rintro rfl
    refine ⟨rfl, ?_⟩
    intro variant hvariant
    cases hvariant

theorem Selector.takesPrice (product price : UInt64) :
    TakesPrice ⟨product, some price⟩ product price := by
  intro row
  rw [selects_iff]
  constructor
  · rintro ⟨h, hprice⟩
    exact ⟨h.symm, hprice price rfl⟩
  · rintro ⟨rfl, hprice⟩
    refine ⟨rfl, ?_⟩
    intro variant hvariant
    obtain rfl := Option.some.inj hvariant
    exact hprice

theorem SelectorOption.chooses_display {selector : Selector} (positive : selector.product ≠ 0)
    (title : String) : Chooses ⟨selector.display, title⟩ selector := by
  intro property operator
  have hread := Selector.parse_eq_ok.mpr (Selector.written_display positive)
  simp [Selector.parseAll, Selector.ofTokens, Filter.tokens, Filter.token?, hread,
    Except.toOption, List.eraseDups_cons]

namespace Product

theorem options_of_no_prices {product : Product} (h : product.prices = []) :
    product.options = [⟨Selector.display ⟨product.id, none⟩, product.title⟩] := by
  simp [options, h]

theorem options_of_prices {product : Product} (h : product.prices ≠ []) :
    product.options = product.prices.map fun price =>
      ⟨Selector.display ⟨product.id, some price.id⟩, product.title ++ " - " ++ price.title⟩ := by
  unfold options
  split
  · rename_i hnone
    exact absurd hnone h
  · rfl

theorem options_ne_nil (product : Product) : product.options ≠ [] := by
  by_cases h : product.prices = []
  · simp [options_of_no_prices h]
  · simpa [options_of_prices h] using h

end Product

namespace ProductSource

variable {source : ProductSource} {ids : List UInt64}

def Answers (source : ProductSource) (ids : List UInt64) : Prop :=
  ∀ id ∈ ids, ∃ known, source.product id = .ok known

/-- The first lookup that fails, and its failure. -/
def FailsFirst (source : ProductSource) (ids : List UInt64) (error : CatalogError) : Prop :=
  ∃ before id after, ids = before ++ id :: after ∧ source.Answers before ∧
    source.product id = .error error

def known? (source : ProductSource) (id : UInt64) : Option Product :=
  match source.product id with
  | .ok known => known
  | .error _ => none

theorem known?_eq {id : UInt64} {known : Option Product} (h : source.product id = .ok known) :
    source.known? id = known := by
  rw [known?, h]

theorem optionsOf_answered (h : source.Answers ids) :
    source.optionsOf ids = .ok ((ids.filterMap source.known?).flatMap Product.options) := by
  induction ids with
  | nil => rfl
  | cons id rest ih =>
    obtain ⟨⟨known, hid⟩, hrest⟩ := List.forall_mem_cons.mp h
    have hknown := known?_eq hid
    rw [optionsOf, hid, ih hrest]
    cases known with
    | none => simp [Except.map, hknown]
    | some product => simp [Except.map, hknown]

theorem optionsOf_failed {error : CatalogError} (h : source.FailsFirst ids error) :
    source.optionsOf ids = .error (.catalogFailed error) := by
  obtain ⟨before, id, after, rfl, hbefore, hid⟩ := h
  induction before with
  | nil => rw [List.nil_append, optionsOf, hid]
  | cons first before ih =>
    obtain ⟨⟨known, hfirst⟩, hrest⟩ := List.forall_mem_cons.mp hbefore
    rw [List.cons_append, optionsOf, hfirst, ih hrest]
    rfl

theorem exists_failsFirst {error : CatalogError} {id : UInt64} (hmem : id ∈ ids)
    (h : source.product id = .error error) : ∃ first, source.FailsFirst ids first := by
  induction ids with
  | nil => cases hmem
  | cons next rest ih =>
    cases hnext : source.product next with
    | error other =>
      refine ⟨other, [], next, rest, rfl, ?_, hnext⟩
      intro earlier hearlier
      cases hearlier
    | ok known =>
      have hrest : id ∈ rest := by
        rcases List.mem_cons.mp hmem with rfl | hrest
        · cases h.symm.trans hnext
        · exact hrest
      obtain ⟨first, before, failing, after, rfl, hbefore, hfailing⟩ := ih hrest
      refine ⟨first, next :: before, failing, after, rfl, ?_, hfailing⟩
      exact List.forall_mem_cons.mpr ⟨⟨known, hnext⟩, hbefore⟩

/-- Dropping repetitions leaves the first failure the first one. -/
theorem FailsFirst.of_firstOccurrences {error : CatalogError} {kept : List UInt64}
    (h : source.FailsFirst ids error) (hkept : FirstOccurrences ids kept) :
    source.FailsFirst kept error := by
  obtain ⟨before, id, after, rfl, hbefore, hid⟩ := h
  obtain ⟨front, back, rfl, hfront⟩ := hkept.split
  refine ⟨front, id, back, rfl, ?_, hid⟩
  intro earlier hearlier
  exact hbefore earlier (hfront earlier hearlier)

/-- The choices of a known product stand in one piece among those of all wanted ones. -/
theorem infix_of_mem {id : UInt64} {product : Product} (hmem : id ∈ ids)
    (hknown : source.product id = .ok (some product)) :
    product.options <:+: (ids.filterMap source.known?).flatMap Product.options := by
  have hproduct : product ∈ ids.filterMap source.known? :=
    List.mem_filterMap.mpr ⟨id, hmem, known?_eq hknown⟩
  obtain ⟨before, after, hsplit⟩ := List.append_of_mem hproduct
  refine ⟨before.flatMap Product.options, after.flatMap Product.options, ?_⟩
  rw [hsplit, List.flatMap_append, List.flatMap_cons, List.append_assoc]

/-- The source has every product under the product's own id. -/
def IsKeyed (source : ProductSource) : Prop :=
  ∀ id product, source.product id = .ok (some product) → product.id = id

theorem id_of_known? (keyed : source.IsKeyed) {id : UInt64} {product : Product}
    (h : source.known? id = some product) : product.id = id := by
  unfold known? at h
  split at h
  · rename_i known hid
    exact keyed id product (h ▸ hid)
  · cases h

theorem nodup_products (keyed : source.IsKeyed) (h : ids.Nodup) :
    ((ids.filterMap source.known?).map Product.id).Nodup := by
  induction ids with
  | nil => simp
  | cons id rest ih =>
    obtain ⟨hnew, hrest⟩ := List.nodup_cons.mp h
    cases hknown : source.known? id with
    | none => simpa [hknown] using ih hrest
    | some product =>
      rw [List.filterMap_cons_some hknown, List.map_cons, List.nodup_cons]
      refine ⟨?_, ih hrest⟩
      intro hmem
      obtain ⟨other, hother, hsame⟩ := List.mem_map.mp hmem
      obtain ⟨otherId, hotherId, hotherKnown⟩ := List.mem_filterMap.mp hother
      rw [id_of_known? keyed hknown, id_of_known? keyed hotherKnown] at hsame
      exact hnew (hsame ▸ hotherId)

/-- The choices of products, found or wanted anyway. A failure of the search, and else the first one
of a lookup, is all that is returned. Without a failure every known product has its choices in one
piece, in the order in which the products are first wanted and once each; unknown ones have none. A
product with a positive id has one choice, which selects all its subscriptions, or one for each of
its prices in turn, which selects those at this price. -/
theorem options_whole (source : ProductSource) (limit : Nat) (term : String)
    (included : List UInt64) :
    (∀ error, source.search term limit = .error error →
      source.options limit term included = .error (.catalogFailed error)) ∧
    (∀ found, source.search term limit = .ok found →
      ((∃ id ∈ found ++ included, ∃ error, source.product id = .error error) →
        ∃ error, source.FailsFirst (found ++ included) error ∧
          source.options limit term included = .error (.catalogFailed error)) ∧
      (source.Answers (found ++ included) → ∃ wanted choices,
        source.options limit term included = .ok choices ∧
        FirstOccurrences (found ++ included) wanted ∧
        choices = (wanted.filterMap source.known?).flatMap Product.options ∧
        (∀ id ∈ included, ∀ product, source.product id = .ok (some product) →
          product.options ≠ [] ∧ product.options <:+: choices) ∧
        (source.IsKeyed → ((wanted.filterMap source.known?).map Product.id).Nodup))) ∧
    ∀ product : Product, product.id ≠ 0 →
      (product.prices = [] → ∃ choice, product.options = [choice] ∧
        ∃ selector, choice.Chooses selector ∧ selector.TakesProduct product.id) ∧
      (product.prices ≠ [] → List.Forall₂ (fun price choice =>
          ∃ selector, SelectorOption.Chooses choice selector ∧
            selector.TakesPrice product.id (PriceOption.id price))
        product.prices product.options) := by
  refine ⟨?_, ?_, ?_⟩
  · intro error hsearch
    rw [options, hsearch]
  · intro found hsearch
    have hoptions : source.options limit term included =
        source.optionsOf (found ++ included).eraseDups := by
      rw [options, hsearch]
    have hwanted := firstOccurrences_eraseDups (found ++ included)
    constructor
    · rintro ⟨id, hmem, error, hid⟩
      obtain ⟨first, hfirst⟩ := exists_failsFirst hmem hid
      refine ⟨first, hfirst, ?_⟩
      rw [hoptions]
      exact optionsOf_failed (hfirst.of_firstOccurrences hwanted)
    · intro hall
      have hanswers : source.Answers (found ++ included).eraseDups := by
        intro id hid
        exact hall id ((hwanted.members id).mp hid)
      refine ⟨_, _, hoptions.trans (optionsOf_answered hanswers), hwanted, rfl, ?_, ?_⟩
      · intro id hid product hproduct
        have hmem := (hwanted.members id).mpr (List.mem_append_right found hid)
        exact ⟨product.options_ne_nil, infix_of_mem hmem hproduct⟩
      · intro keyed
        exact nodup_products keyed hwanted.once
  · intro product positive
    constructor
    · intro hnone
      refine ⟨_, Product.options_of_no_prices hnone, ⟨product.id, none⟩, ?_, ?_⟩
      · exact SelectorOption.chooses_display positive product.title
      · exact Selector.takesProduct product.id
    · intro hprices
      rw [Product.options_of_prices hprices, List.forall₂_map_right_iff, List.forall₂_same]
      intro price _
      refine ⟨⟨product.id, some price.id⟩, ?_, ?_⟩
      · exact SelectorOption.chooses_display positive _
      · exact Selector.takesPrice product.id price.id

def beta : Product := ⟨2, "Beta Suite", [⟨1, some "Personal"⟩, ⟨2, none⟩]⟩

def gamma : Product := ⟨3, "Gamma Addon", []⟩

def shop : ProductList := ⟨[⟨1, "Alpha Plugin", []⟩, beta, gamma]⟩

def downShop : ProductSource := (ofList shop).withFailures none [(3, "down"), (2, "slow")]

theorem shop_answers (ids : List UInt64) : (ofList shop).Answers ids :=
  fun id _ => ⟨shop.product? id, rfl⟩

theorem shop_isKeyed : (ofList shop).IsKeyed := by
  intro id product h
  have hfound := List.find?_some (Except.ok.inj h)
  exact beq_iff_eq.mp hfound

theorem options_whole_of_shop :
    (ofList shop).search "beta" 50 = .ok [2] ∧ (ofList shop).Answers ([2] ++ [3, 2, 99]) ∧
    (ofList shop).product 3 = .ok (some gamma) ∧ (ofList shop).IsKeyed ∧
    (∃ wanted choices, (ofList shop).options 50 "beta" [3, 2, 99] = .ok choices ∧
      FirstOccurrences ([2] ++ [3, 2, 99]) wanted ∧ (gamma.options <:+: choices) ∧
      ((wanted.filterMap (ofList shop).known?).map Product.id).Nodup) ∧
    downShop.search "beta" 50 = .ok [2] ∧ downShop.product 2 = .error (.unavailable "slow") ∧
    (∃ error, downShop.FailsFirst ([2] ++ [3]) error ∧
      downShop.options 50 "beta" [3] = .error (.catalogFailed error)) ∧
    ((ofList shop).withFailures (some "off") []).options 50 "beta" [3] =
      .error (.catalogFailed (.unavailable "off")) ∧
    beta.id ≠ 0 ∧
    List.Forall₂ (fun price choice =>
        ∃ selector, SelectorOption.Chooses choice selector ∧
          selector.TakesPrice beta.id (PriceOption.id price)) beta.prices beta.options ∧
    ∃ choice, gamma.options = [choice] ∧
      ∃ selector, choice.Chooses selector ∧ selector.TakesProduct gamma.id := by
  have hsearch : (ofList shop).search "beta" 50 = .ok [2] := by decide +kernel
  have hdown : downShop.search "beta" 50 = .ok [2] := by decide +kernel
  have hslow : downShop.product 2 = .error (.unavailable "slow") := by decide +kernel
  have hgamma : (ofList shop).product 3 = .ok (some gamma) := by decide +kernel
  obtain ⟨-, hfound, hproduct⟩ := options_whole (ofList shop) 50 "beta" [3, 2, 99]
  obtain ⟨-, hfoundDown, -⟩ := options_whole downShop 50 "beta" [3]
  obtain ⟨hoff, -, -⟩ :=
    options_whole ((ofList shop).withFailures (some "off") []) 50 "beta" [3]
  obtain ⟨wanted, choices, hchoices, hwanted, -, hincluded, hdistinct⟩ :=
    (hfound [2] hsearch).2 (shop_answers _)
  have hbeta := (hproduct beta (by decide)).2
  have hsingle := (hproduct gamma (by decide)).1
  refine ⟨hsearch, shop_answers _, hgamma, shop_isKeyed,
    ⟨wanted, choices, hchoices, hwanted, ?_, hdistinct shop_isKeyed⟩, hdown, hslow, ?_,
    hoff _ rfl, by decide, hbeta (by simp [beta]), hsingle rfl⟩
  · exact (hincluded 3 (by simp) gamma hgamma).2
  · exact (hfoundDown [2] hdown).1 ⟨2, by simp, _, hslow⟩

end ProductSource
end SegmentRules

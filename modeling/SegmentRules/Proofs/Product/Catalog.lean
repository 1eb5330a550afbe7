import Mathlib.Data.List.Nodup
import SegmentRules.Product.Catalog
import SegmentRules.Proofs.Repetitions
import SegmentRules.Proofs.Text.Lowercase
import SegmentRules.Proofs.Text.Parts

/-! # Products under their ids

Whatever was inserted, the list holds for every id the product last inserted under it, in the order
of these last insertions. A search goes through the products in this order, or by title. -/
namespace SegmentRules

/-- No product with the same id was inserted after this one. -/
def LastInserted (inserted : List Product) (product : Product) : Prop :=
  ∃ before after, inserted = before ++ product :: after ∧ ∀ later ∈ after, later.id ≠ product.id

/-- The last insertion under the id `a` comes before the last one under `b`: back from the end, `b`
is met first. -/
def InsertedBefore (inserted : List Product) (a b : UInt64) : Prop :=
  OccursBefore (inserted.map Product.id).reverse b a

/-- The title of the one product comes before that of the other, code point for code point. -/
def Product.TitleBefore (a b : Product) : Prop :=
  List.Lex (· < ·) (a.title.toList.map Char.toNat) (b.title.toList.map Char.toNat)

section Insertions

variable {inserted : List Product} {product added : Product}

theorem LastInserted.mem (h : LastInserted inserted product) : product ∈ inserted := by
  obtain ⟨before, after, rfl, -⟩ := h
  simp

theorem lastInserted_concat : LastInserted (inserted ++ [added]) product ↔
    (LastInserted inserted product ∧ product.id ≠ added.id) ∨ product = added := by
  constructor
  · rintro ⟨before, after, hsplit, hlast⟩
    rcases List.eq_nil_or_concat after with rfl | ⟨middle, last, rfl⟩
    · have hadded : [added] = [product] := List.append_inj_right' hsplit rfl
      exact .inr (List.singleton_inj.mp hadded).symm
    · rw [List.concat_eq_append, ← List.cons_append, ← List.append_assoc] at hsplit
      obtain ⟨hinserted, hadded⟩ := List.append_inj' hsplit rfl
      obtain rfl := List.singleton_inj.mp hadded
      refine .inl ⟨⟨before, middle, hinserted, ?_⟩, ?_⟩
      · intro later hlater
        exact hlast later (by simp [hlater])
      · exact (hlast added (by simp)).symm
  · rintro (⟨⟨before, after, rfl, hlast⟩, hne⟩ | rfl)
    · refine ⟨before, after ++ [added], by simp, ?_⟩
      intro later hlater
      rcases List.mem_append.mp hlater with hlater | hlater
      · exact hlast later hlater
      · obtain rfl := List.mem_singleton.mp hlater
        exact hne.symm
    · exact ⟨inserted, [], rfl, by simp⟩

theorem exists_lastInserted (h : product ∈ inserted) :
    ∃ last, LastInserted inserted last ∧ last.id = product.id := by
  induction inserted using List.reverseRecOn with
  | nil => cases h
  | append_singleton inserted added ih =>
    by_cases hid : product.id = added.id
    · exact ⟨added, lastInserted_concat.mpr (.inr rfl), hid.symm⟩
    · have hearlier : product ∈ inserted := by
        rcases List.mem_append.mp h with h | h
        · exact h
        · exact absurd (congrArg Product.id (List.mem_singleton.mp h)) hid
      obtain ⟨last, hlast, hsame⟩ := ih hearlier
      exact ⟨last, lastInserted_concat.mpr (.inl ⟨hlast, hsame ▸ hid⟩), hsame⟩

theorem insertedBefore_concat {a b : UInt64} (h : InsertedBefore inserted a b)
    (hne : a ≠ added.id) : InsertedBefore (inserted ++ [added]) a b := by
  obtain ⟨front, hfront, hb, ha⟩ := h
  refine ⟨added.id :: front, ?_, List.mem_cons_of_mem _ hb, by simp [hne, ha]⟩
  simpa using hfront

theorem insertedBefore_last {a : UInt64} (hne : a ≠ added.id) :
    InsertedBefore (inserted ++ [added]) a added.id :=
  ⟨[added.id], by simp, by simp, by simp [hne]⟩

end Insertions

namespace ProductList

def ofInserts (inserted : List Product) : ProductList := inserted.foldl insert empty

/-- The list is a store of the products last inserted. -/
structure Records (list : ProductList) (inserted : List Product) : Prop where
  keyed : (list.products.map Product.id).Nodup
  latest : ∀ product, product ∈ list.products ↔ LastInserted inserted product
  ordered : list.products.Pairwise fun a b => InsertedBefore inserted a.id b.id

variable {list : ProductList} {inserted : List Product} {term : String}

theorem mem_insert {product added : Product} : product ∈ (list.insert added).products ↔
    (product ∈ list.products ∧ product.id ≠ added.id) ∨ product = added := by
  simp [insert]

theorem records_empty : Records empty [] := by
  refine ⟨List.nodup_nil, ?_, List.Pairwise.nil⟩
  intro product
  constructor
  · intro h
    cases h
  · intro h
    exact h.mem

theorem Records.insert (h : list.Records inserted) (added : Product) :
    (list.insert added).Records (inserted ++ [added]) := by
  have hothers : (list.products.filter (·.id != added.id)).Sublist list.products :=
    List.filter_sublist
  have hne : ∀ product ∈ list.products.filter (·.id != added.id), product.id ≠ added.id := by
    intro product hproduct
    simpa using (List.mem_filter.mp hproduct).2
  constructor
  case keyed =>
    have hold : ((list.products.filter (·.id != added.id)).map Product.id).Nodup :=
      h.keyed.sublist (hothers.map Product.id)
    have hnew : added.id ∉ (list.products.filter (·.id != added.id)).map Product.id := by
      intro hmem
      obtain ⟨product, hproduct, hid⟩ := List.mem_map.mp hmem
      exact hne product hproduct hid
    rw [ProductList.insert, List.map_append, List.map_singleton, ← List.concat_eq_append]
    exact hold.concat hnew
  case latest =>
    intro product
    rw [mem_insert, h.latest, lastInserted_concat]
  case ordered =>
    refine List.pairwise_append.mpr ⟨?_, List.pairwise_singleton _ _, ?_⟩
    · refine (h.ordered.sublist hothers).imp_of_mem ?_
      intro a b ha hb hbefore
      exact insertedBefore_concat hbefore (hne a ha)
    · intro a ha b hb
      obtain rfl := List.mem_singleton.mp hb
      exact insertedBefore_last (hne a ha)

theorem records_ofInserts (inserted : List Product) : (ofInserts inserted).Records inserted := by
  induction inserted using List.reverseRecOn with
  | nil => exact records_empty
  | append_singleton inserted added ih =>
    rw [ofInserts, List.foldl_concat]
    exact ih.insert added

theorem Records.product?_eq_some (h : list.Records inserted) {id : UInt64} {product : Product} :
    list.product? id = some product ↔ product.id = id ∧ LastInserted inserted product := by
  rw [← h.latest, product?]
  constructor
  · intro hfound
    have hid : product.id = id := by simpa using List.find?_some hfound
    exact ⟨hid, List.mem_of_find?_eq_some hfound⟩
  · rintro ⟨rfl, hmem⟩
    have hsome : (list.products.find? (·.id == product.id)).isSome = true :=
      List.find?_isSome.mpr ⟨product, hmem, by simp⟩
    obtain ⟨other, hother⟩ := Option.isSome_iff_exists.mp hsome
    have hsame : other.id = product.id := by simpa using List.find?_some hother
    rw [hother, List.inj_on_of_nodup_map h.keyed (List.mem_of_find?_eq_some hother) hmem hsame]

theorem Records.product?_eq_none (h : list.Records inserted) {id : UInt64} :
    list.product? id = none ↔ ∀ product ∈ inserted, product.id ≠ id := by
  constructor
  · rintro hnone product hmem rfl
    obtain ⟨last, hlast, hid⟩ := exists_lastInserted hmem
    cases hnone.symm.trans (h.product?_eq_some.mpr ⟨hid, hlast⟩)
  · intro hnever
    cases hfound : list.product? id with
    | none => rfl
    | some product =>
      obtain ⟨hid, hlast⟩ := h.product?_eq_some.mp hfound
      exact absurd hid (hnever product hlast.mem)

/-! ## Searches -/

theorem matching_of_blank (h : Text.trim term.toList = []) :
    list.matching term = list.products.mergeSort Product.titleLe := by
  rw [matching, h]
  rfl

theorem matching_of_not_blank (h : Text.trim term.toList ≠ []) :
    list.matching term =
      list.products.filter (·.titleContains (Text.lower (Text.trim term.toList))) := by
  rw [matching, if_neg]
  simpa [Text.lower_eq_nil] using h

theorem mem_matching {product : Product} : product ∈ list.matching term ↔ product ∈ list.products ∧
    Text.lower (Text.trim term.toList) <:+: Text.lower product.title.toList := by
  by_cases h : Text.trim term.toList = []
  · have hlower : Text.lower [] = [] := rfl
    simp [matching_of_blank h, h, hlower]
  · rw [matching_of_not_blank h, List.mem_filter, Product.titleContains, Text.occursIn_iff]

theorem length_matching_le (list : ProductList) (term : String) :
    (list.matching term).length ≤ list.products.length := by
  by_cases h : Text.trim term.toList = []
  · rw [matching_of_blank h, List.length_mergeSort]
  · rw [matching_of_not_blank h]
    exact List.length_filter_le _ _

theorem nodup_matching (keyed : (list.products.map Product.id).Nodup) (term : String) :
    ((list.matching term).map Product.id).Nodup := by
  by_cases h : Text.trim term.toList = []
  · rw [matching_of_blank h]
    exact ((List.mergeSort_perm _ _).map Product.id).nodup_iff.mpr keyed
  · rw [matching_of_not_blank h]
    exact keyed.sublist (List.filter_sublist.map Product.id)

theorem search_eq_take (list : ProductList) (term : String) (limit : Nat) :
    list.search term limit = ((list.matching term).map Product.id).take limit := by
  rw [search, List.map_take]

theorem search_of_large {limit : Nat} (h : list.products.length ≤ limit) (term : String) :
    list.search term limit = (list.matching term).map Product.id := by
  rw [search, List.take_of_length_le ((length_matching_le list term).trans h)]

theorem search_take {few many : Nat} (h : few ≤ many) (list : ProductList) (term : String) :
    list.search term few =
      (list.search term many).take (min few (list.search term many).length) := by
  rw [search_eq_take, search_eq_take, ← List.take_eq_take_min, List.take_take, Nat.min_eq_left h]

theorem nodup_search (keyed : (list.products.map Product.id).Nodup) (term : String) (limit : Nat) :
    (list.search term limit).Nodup := by
  rw [search_eq_take]
  exact (nodup_matching keyed term).sublist (List.take_sublist limit _)

theorem exists_of_mem_search {limit : Nat} {id : UInt64} (h : id ∈ list.search term limit) :
    ∃ product ∈ list.products, product.id = id := by
  rw [search_eq_take] at h
  obtain ⟨product, hmatching, hid⟩ := List.mem_map.mp (List.mem_of_mem_take h)
  exact ⟨product, (mem_matching.mp hmatching).1, hid⟩

theorem mem_search {limit : Nat} (keyed : (list.products.map Product.id).Nodup)
    (large : list.products.length ≤ limit) {product : Product} (hmem : product ∈ list.products) :
    product.id ∈ list.search term limit ↔
      Text.lower (Text.trim term.toList) <:+: Text.lower product.title.toList := by
  rw [search_of_large large, List.mem_map]
  constructor
  · rintro ⟨other, hother, hid⟩
    obtain ⟨hstored, hinfix⟩ := mem_matching.mp hother
    rwa [List.inj_on_of_nodup_map keyed hstored hmem hid] at hinfix
  · intro hinfix
    exact ⟨product, mem_matching.mpr ⟨hmem, hinfix⟩, rfl⟩

/-! ## Titles by code point -/

theorem titleLe_trans (a b c : Product) (hab : a.titleLe b = true) (hbc : b.titleLe c = true) :
    a.titleLe c = true :=
  decide_eq_true (String.le_trans (of_decide_eq_true hab) (of_decide_eq_true hbc))

theorem titleLe_total (a b : Product) : (a.titleLe b || b.titleLe a) = true := by
  simpa [Product.titleLe] using String.le_total a.title b.title

theorem not_titleBefore {a b : Product} (h : a.titleLe b = true) : ¬ b.TitleBefore a := by
  have hletters : ¬ b.title.toList < a.title.toList :=
    fun hlt => String.not_lt.mpr (of_decide_eq_true h) (String.lt_iff.mpr hlt)
  have hpoints : ∀ x y : Char, x < y → x.toNat < y.toNat :=
    fun _ _ => UInt32.lt_iff_toNat_lt.mp
  exact List.map_le hpoints hletters

theorem sorted_titles (products : List Product) :
    (products.mergeSort Product.titleLe).Pairwise fun a b => ¬ b.TitleBefore a :=
  (List.pairwise_mergeSort titleLe_trans titleLe_total products).imp not_titleBefore

/-- Sorting leaves the products with one title in their order. -/
theorem filter_title_sorted (products : List Product) (title : String) :
    (products.mergeSort Product.titleLe).filter (·.title = title) =
      products.filter (·.title = title) := by
  have hequal : (products.filter (·.title = title)).Pairwise
      fun a b => a.titleLe b = true := by
    apply List.pairwise_of_forall_mem_list
    intro a ha b hb
    have ha' : a.title = title := by simpa using (List.mem_filter.mp ha).2
    have hb' : b.title = title := by simpa using (List.mem_filter.mp hb).2
    simp [Product.titleLe, ha', hb']
  have hkept : (products.filter (·.title = title)).Sublist
      (products.mergeSort Product.titleLe) :=
    List.sublist_mergeSort titleLe_trans titleLe_total hequal List.filter_sublist
  -- All products of the title are in both lists, so the one is no shorter than the other.
  have hsublist := hkept.filter (·.title = title)
  rw [List.filter_filter] at hsublist
  simp only [Bool.and_self] at hsublist
  have hperm := (List.mergeSort_perm products Product.titleLe).filter (·.title = title)
  exact (hsublist.eq_of_length hperm.length_eq.symm).symm

theorem search_of_blank {limit : Nat} (blank : Text.trim term.toList = [])
    (large : list.products.length ≤ limit) :
    ∃ sorted : List Product, list.search term limit = sorted.map Product.id ∧
      sorted.Perm list.products ∧ sorted.Pairwise (fun a b => ¬ b.TitleBefore a) ∧
      ∀ title, sorted.filter (·.title = title) = list.products.filter (·.title = title) := by
  refine ⟨list.products.mergeSort Product.titleLe, ?_, List.mergeSort_perm _ _,
    sorted_titles list.products, filter_title_sorted list.products⟩
  rw [search_of_large large, matching_of_blank blank]

theorem search_of_not_blank (written : Text.trim term.toList ≠ []) (limit : Nat) :
    ∃ found : List Product, list.search term limit = found.map Product.id ∧
      found.Sublist list.products ∧
      (∀ product ∈ found,
        Text.lower (Text.trim term.toList) <:+: Text.lower product.title.toList) ∧
      (list.products.length ≤ limit → ∀ product ∈ list.products,
        Text.lower (Text.trim term.toList) <:+: Text.lower product.title.toList →
          product ∈ found) := by
  refine ⟨(list.matching term).take limit, rfl, ?_, ?_, ?_⟩
  · rw [matching_of_not_blank written]
    exact (List.take_sublist limit _).trans List.filter_sublist
  · intro product hproduct
    exact (mem_matching.mp (List.mem_of_mem_take hproduct)).2
  · intro large product hmem hinfix
    rw [List.take_of_length_le ((length_matching_le list term).trans large)]
    exact mem_matching.mpr ⟨hmem, hinfix⟩

/-- After any insertions the list holds, under distinct ids and in the order of their last
insertions, the products last inserted, and each of them is looked up by its id. A shorter search is
the start of a longer one, and names no id twice and none without a product. A blank term finds all
products, by title and under one title in the order of the list; any other term finds, in the order
of the list, the products with the term in their titles when both are in small letters. -/
theorem keyed_with_stable_search (inserted : List Product) :
    (ofInserts inserted).Records inserted ∧
    (∀ id product, (ofInserts inserted).product? id = some product ↔
      product.id = id ∧ LastInserted inserted product) ∧
    (∀ id, (ofInserts inserted).product? id = none ↔ ∀ product ∈ inserted, product.id ≠ id) ∧
    ∀ term,
      (∀ few many, few ≤ many → (ofInserts inserted).search term few =
        ((ofInserts inserted).search term many).take
          (min few ((ofInserts inserted).search term many).length)) ∧
      (∀ limit, ((ofInserts inserted).search term limit).Nodup ∧
        ∀ id ∈ (ofInserts inserted).search term limit,
          ∃ product, (ofInserts inserted).product? id = some product) ∧
      (Text.trim term.toList = [] → ∀ limit, (ofInserts inserted).products.length ≤ limit →
        ∃ sorted : List Product, (ofInserts inserted).search term limit = sorted.map Product.id ∧
          sorted.Perm (ofInserts inserted).products ∧
          sorted.Pairwise (fun a b => ¬ b.TitleBefore a) ∧
          ∀ title, sorted.filter (·.title = title) =
            (ofInserts inserted).products.filter (·.title = title)) ∧
      (Text.trim term.toList ≠ [] → ∀ limit,
        ∃ found : List Product, (ofInserts inserted).search term limit = found.map Product.id ∧
          found.Sublist (ofInserts inserted).products ∧
          (∀ product ∈ found,
            Text.lower (Text.trim term.toList) <:+: Text.lower product.title.toList) ∧
          ((ofInserts inserted).products.length ≤ limit →
            ∀ product ∈ (ofInserts inserted).products,
              Text.lower (Text.trim term.toList) <:+: Text.lower product.title.toList →
                product ∈ found)) := by
  have hrecords := records_ofInserts inserted
  refine ⟨hrecords, fun id product => hrecords.product?_eq_some,
    fun id => hrecords.product?_eq_none, fun term => ⟨?_, ?_, ?_, ?_⟩⟩
  · intro few many hle
    exact search_take hle _ term
  · intro limit
    refine ⟨nodup_search hrecords.keyed term limit, ?_⟩
    intro id hid
    obtain ⟨product, hproduct, hsame⟩ := exists_of_mem_search hid
    exact ⟨product, hrecords.product?_eq_some.mpr ⟨hsame, (hrecords.latest product).mp hproduct⟩⟩
  · intro blank limit large
    exact search_of_blank blank large
  · intro written limit
    exact search_of_not_blank written limit

/-- Two products under one title, the first of which was inserted once more at the end. -/
def restocked : List Product :=
  [⟨1, "Pro License", []⟩, ⟨2, "Alpha", []⟩, ⟨3, "Pro License", []⟩, ⟨1, "Pro License", []⟩]

theorem keyed_with_stable_search_of_restocked :
    (ofInserts restocked).products.map Product.id = [2, 3, 1] ∧
    (ofInserts restocked).Records restocked ∧
    (ofInserts restocked).search " " 2 = ((ofInserts restocked).search " " 9).take (min 2 3) ∧
    (ofInserts restocked).product? 4 = none ∧
    (∃ product, (ofInserts restocked).product? 3 = some product) ∧
    (∃ sorted : List Product, [2, 3, 1] = sorted.map Product.id ∧
      sorted.Perm (ofInserts restocked).products ∧
      sorted.Pairwise (fun a b => ¬ b.TitleBefore a) ∧
      ∀ title, sorted.filter (·.title = title) =
        (ofInserts restocked).products.filter (·.title = title)) ∧
    ∃ found : List Product, [3, 1] = found.map Product.id ∧
      found.Sublist (ofInserts restocked).products ∧
      (∀ product ∈ found, Text.lower "PRO".toList <:+: Text.lower product.title.toList) ∧
      ∀ product ∈ (ofInserts restocked).products,
        Text.lower "PRO".toList <:+: Text.lower product.title.toList → product ∈ found := by
  have hall : (ofInserts restocked).search " " 9 = [2, 3, 1] := by
    rw [search_of_large (by decide), matching_of_blank (by decide +kernel),
      List.mergeSort_of_pairwise (by decide +kernel)]
    rfl
  have hpro : (ofInserts restocked).search "PRO " 9 = [3, 1] := by decide +kernel
  obtain ⟨hrecords, -, hnone, hsearch⟩ := keyed_with_stable_search restocked
  obtain ⟨hfewer, hfound, hblank, -⟩ := hsearch " "
  obtain ⟨-, -, -, hwritten⟩ := hsearch "PRO "
  have hstart := hfewer 2 9 (by decide)
  have hsorted := hblank (by decide +kernel) 9 (by decide)
  obtain ⟨found, hids, hstored, honly, hevery⟩ := hwritten (by decide +kernel) 9
  rw [hall] at hsorted
  rw [hpro] at hids
  refine ⟨by decide, hrecords, ?_, (hnone 4).mpr (by decide), ?_, hsorted,
    found, hids, hstored, honly, hevery (by decide)⟩
  · rwa [hall] at hstart ⊢
  · exact (hfound 9).2 3 (by rw [hall]; decide)

end ProductList
end SegmentRules

import SegmentRules.Proofs.Product.Catalog

/-! # Titles that hold what is looked for

Term and title are compared in small letters, each on its own. Only a capital sigma has a small form
that depends on its neighbours: a title can hold the term and not be found when a sigma of the term
is final in the one of them and not in the other. -/
namespace SegmentRules.ProductList

/-- A search with room for all products names the product. -/
def Finds (list : ProductList) (term : String) (product : Product) : Prop :=
  ∀ limit, list.products.length ≤ limit → product.id ∈ list.search term limit

/-- Whatever was inserted, the products with the trimmed term in their titles are found. -/
def FindsTitles (term : String) : Prop :=
  ∀ inserted, ∀ product ∈ (ofInserts inserted).products,
    Text.trim term.toList <:+: product.title.toList → (ofInserts inserted).Finds term product

variable {inserted : List Product} {product : Product} {term : String}

theorem finds_iff (hmem : product ∈ (ofInserts inserted).products) :
    (ofInserts inserted).Finds term product ↔
      Text.lower (Text.trim term.toList) <:+: Text.lower product.title.toList := by
  have keyed := (records_ofInserts inserted).keyed
  constructor
  · intro hfinds
    exact (mem_search keyed le_rfl hmem).mp (hfinds _ le_rfl)
  · intro hinfix limit large
    exact (mem_search keyed large hmem).mpr hinfix

theorem findsTitles_of_settles (h : Text.Settles (Text.trim term.toList)) : FindsTitles term := by
  rintro inserted product hmem ⟨before, after, htitle⟩
  rw [finds_iff hmem, ← htitle]
  exact Text.settles_iff.mp h before after

/-- A product whose title is a text around the term decides whether the term is settled there. -/
theorem settles_of_findsTitles (h : FindsTitles term) : Text.Settles (Text.trim term.toList) := by
  apply Text.settles_iff.mpr
  intro before after
  have hmem : ⟨1, String.ofList (before ++ Text.trim term.toList ++ after), []⟩ ∈
      (ofInserts [⟨1, String.ofList (before ++ Text.trim term.toList ++ after), []⟩]).products :=
    List.mem_singleton_self _
  have hfinds := h _ _ hmem ⟨before, after, by rw [String.toList_ofList]⟩
  rw [finds_iff hmem, String.toList_ofList] at hfinds
  exact hfinds

/-- A title that holds the term is found if every capital sigma of the term is final in the title
exactly if it is final in the term. The terms that are found in all titles that hold them are those
whose sigmas are settled by the term; so are all terms without a capital sigma. -/
theorem finds_titles_iff_settles (term : String) :
    (∀ inserted before after, ∀ product ∈ (ofInserts inserted).products,
      product.title.toList = before ++ Text.trim term.toList ++ after →
      Text.KeepsForms before (Text.trim term.toList) after →
      (ofInserts inserted).Finds term product) ∧
    (FindsTitles term ↔ Text.Settles (Text.trim term.toList)) ∧
    ('Σ' ∉ Text.trim term.toList → FindsTitles term) := by
  refine ⟨?_, ⟨settles_of_findsTitles, findsTitles_of_settles⟩, ?_⟩
  · intro inserted before after product hmem htitle keeps
    rw [finds_iff hmem, htitle]
    exact keeps.infix_lower
  · intro hfree
    exact findsTitles_of_settles (Text.settles_of_not_mem hfree)

def easter : Product := ⟨1, "ΠΑΣΧΑ", []⟩

theorem finds_titles_iff_settles_of_easter :
    easter ∈ (ofInserts [easter]).products ∧
    Text.Settles (Text.trim " ΠΑΣΧ".toList) ∧ FindsTitles " ΠΑΣΧ" ∧
    'Σ' ∉ Text.trim "ΧΑ".toList ∧ FindsTitles "ΧΑ" ∧
    easter.title.toList = "ΠΑ".toList ++ Text.trim "ΣΧ".toList ++ "Α".toList ∧
    Text.KeepsForms "ΠΑ".toList (Text.trim "ΣΧ".toList) "Α".toList ∧
    (ofInserts [easter]).Finds "ΣΧ" easter := by
  have hmem : easter ∈ (ofInserts [easter]).products := List.mem_singleton_self easter
  have hsettles : Text.Settles (Text.trim " ΠΑΣΧ".toList) := by decide +kernel
  have hfree : 'Σ' ∉ Text.trim "ΧΑ".toList := by decide +kernel
  have htitle : easter.title.toList = "ΠΑ".toList ++ Text.trim "ΣΧ".toList ++ "Α".toList := by
    decide +kernel
  have hsigma : Text.Settles (Text.trim "ΣΧ".toList) := by decide +kernel
  have hkeeps := hsigma.keepsForms "ΠΑ".toList "Α".toList
  obtain ⟨-, hiff, -⟩ := finds_titles_iff_settles " ΠΑΣΧ"
  obtain ⟨-, -, hall⟩ := finds_titles_iff_settles "ΧΑ"
  obtain ⟨hthere, -, -⟩ := finds_titles_iff_settles "ΣΧ"
  exact ⟨hmem, hsettles, hiff.mpr hsettles, hfree, hall hfree, htitle, hkeeps,
    hthere _ _ _ _ hmem htitle hkeeps⟩

/-- The sigma of the term is final and that of the title is not. -/
theorem search_misses_final_sigma :
    easter ∈ (ofInserts [easter]).products ∧
    Text.trim "ΠΑΣ".toList <:+: easter.title.toList ∧
    (ofInserts [easter]).search "ΠΑΣ" 50 = [] ∧ ¬ FindsTitles "ΠΑΣ" := by
  have hmem : easter ∈ (ofInserts [easter]).products := List.mem_singleton_self easter
  have hinfix : Text.trim "ΠΑΣ".toList <:+: easter.title.toList := by decide +kernel
  have hsearch : (ofInserts [easter]).search "ΠΑΣ" 50 = [] := by decide +kernel
  refine ⟨hmem, hinfix, hsearch, ?_⟩
  intro hfinds
  have hid := hfinds [easter] easter hmem hinfix 50 (by decide)
  rw [hsearch] at hid
  cases hid

end SegmentRules.ProductList

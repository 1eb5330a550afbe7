import SegmentRules.Proofs.Settings.Lens
import SegmentRules.Proofs.Toml.Listing

/-! # Listed and addressed values

The listing of a tree of settings writes the keys on the way to a value with dots between them, and
a key leads along its parts between dots. Both go the same ways, so what is listed is what can be
read and set. -/
namespace SegmentRules.Settings

open Toml (Value)
open Toml.Value (IsKeyed IsPart dotted dottedKey)

variable {settings : Settings} {tree value : Value} {fields : List (String × Value)}
  {key path text : String} {keys : List String}

/-! ## Dotted keys -/

theorem keyPath_of_isPart (h : IsPart key) : keyPath key = [key] := by
  rw [keyPath, Text.split_of_not_mem h.2, List.map_singleton, String.ofList_toList]

theorem keyPath_append (path key : String) :
    keyPath (path ++ "." ++ key) = keyPath path ++ keyPath key := by
  have htext : (path ++ "." ++ key).toList = path.toList ++ '.' :: key.toList := by
    simp
  rw [keyPath, htext, Text.split_append, List.map_append]
  rfl

/-- Keys put behind a path are the last parts of it. -/
theorem keyPath_dotted_of_ne (filled : path ≠ "") (parts : ∀ key ∈ keys, IsPart key) :
    keyPath (dotted path keys) = keyPath path ++ keys := by
  induction keys generalizing path with
  | nil => exact (List.append_nil _).symm
  | cons key rest ih =>
    obtain ⟨hkey, hrest⟩ := List.forall_mem_cons.mp parts
    have hpath : path.isEmpty = false := by simpa using filled
    have hnext : dottedKey path key = path ++ "." ++ key := by
      rw [dottedKey, hpath]
      rfl
    have hfilled : path ++ "." ++ key ≠ "" := by simp
    rw [dotted, List.foldl_cons, hnext, ← dotted, ih hfilled hrest, keyPath_append,
      keyPath_of_isPart hkey, List.append_assoc, List.singleton_append]

theorem keyPath_dotted (filled : keys ≠ []) (parts : ∀ key ∈ keys, IsPart key) :
    keyPath (dotted "" keys) = keys := by
  cases keys with
  | nil => exact absurd rfl filled
  | cons key rest =>
    obtain ⟨hkey, hrest⟩ := List.forall_mem_cons.mp parts
    have hfirst : dotted "" (key :: rest) = dotted key rest := rfl
    rw [hfirst, keyPath_dotted_of_ne hkey.1 hrest, keyPath_of_isPart hkey, List.singleton_append]

/-! ## Listings of trees -/

/-- A listed key leads where it was listed: below a table it has a part at least. -/
theorem keyPath_of_leafNode (h : (Value.table fields).IsKeyed)
    (mem : (keys, value) ∈ (Value.table fields).leafNodes) : keyPath (dotted "" keys) = keys := by
  obtain ⟨hvalue, hleaf⟩ := h.mem_leafNodes_iff.mp mem
  refine keyPath_dotted ?_ (h.parts_of_mem (h.mem_nodes_iff.mpr hvalue))
  rintro rfl
  obtain rfl := Option.some.inj hvalue
  cases hleaf

theorem mem_leaves_iff (h : (Value.table fields).IsKeyed) :
    (key, value) ∈ (Value.table fields).leaves "" ↔
      (Value.table fields).at? (keyPath key) = some value ∧ value.isTable = false := by
  rw [h.leaves_eq, ← h.mem_leafNodes_iff, List.mem_map]
  constructor
  · rintro ⟨⟨keys, _⟩, hmem, hpair⟩
    obtain ⟨rfl, rfl⟩ := Prod.mk.inj hpair
    rwa [keyPath_of_leafNode h hmem]
  · intro hmem
    have hkey : dotted "" (keyPath key) = key := keyPath_injective (keyPath_of_leafNode h hmem)
    exact ⟨_, hmem, Prod.ext hkey rfl⟩

theorem leaf_keys_nodup (h : (Value.table fields).IsKeyed) :
    (((Value.table fields).leaves "").map Prod.fst).Nodup := by
  have hpaths : (((Value.table fields).leaves "").map Prod.fst).map keyPath =
      (Value.table fields).leafNodes.map Prod.fst := by
    rw [h.leaves_eq, List.map_map, List.map_map]
    exact List.map_congr_left fun node hnode => keyPath_of_leafNode h hnode
  refine List.Nodup.of_map keyPath ?_
  rw [hpaths]
  exact h.paths_nodup.sublist (List.filter_sublist.map Prod.fst)

def listing (tree : Value) : List (String × String) :=
  (tree.leaves "").map fun (key, value) => (key, value.display)

theorem mem_listing_iff (h : (Value.table fields).IsKeyed) :
    (key, text) ∈ listing (.table fields) ↔
      ∃ value, (Value.table fields).at? (keyPath key) = some value ∧ value.isTable = false ∧
        value.display = text := by
  rw [listing, List.mem_map]
  constructor
  · rintro ⟨⟨_, value⟩, hmem, hpair⟩
    obtain ⟨rfl, rfl⟩ := Prod.mk.inj hpair
    obtain ⟨hvalue, hleaf⟩ := (mem_leaves_iff h).mp hmem
    exact ⟨value, hvalue, hleaf, rfl⟩
  · rintro ⟨value, hvalue, hleaf, rfl⟩
    exact ⟨(key, value), (mem_leaves_iff h).mpr ⟨hvalue, hleaf⟩, rfl⟩

theorem listing_keys_nodup (h : (Value.table fields).IsKeyed) :
    ((listing (.table fields)).map Prod.fst).Nodup := by
  rw [listing, List.map_map]
  exact leaf_keys_nodup h

/-! ## Listings of settings -/

theorem isKeyed_table (names : List String) (hnames : fields.map Prod.fst = names)
    (once : names.Nodup) (parts : ∀ name ∈ names, IsPart name)
    (inner : ∀ value ∈ fields.map Prod.snd, IsKeyed value) : IsKeyed (.table fields) := by
  refine .table (hnames ▸ once) (fun field hfield => ?_) fun field hfield => ?_
  · exact parts field.1 (hnames ▸ List.mem_map_of_mem hfield)
  · exact inner field.2 (List.mem_map_of_mem hfield)

theorem isKeyed_identityTree (columns : IdentityColumns) : (identityTree columns).IsKeyed := by
  refine isKeyed_table ["account_id", "email", "id"] rfl (by decide) (by decide) ?_
  simp only [List.map_cons, List.map_nil, List.forall_mem_cons]
  exact ⟨.leaf rfl, .leaf rfl, .leaf rfl, List.forall_mem_nil _⟩

theorem isKeyed_subscriptionTree (columns : SubscriptionColumns) :
    (subscriptionTree columns).IsKeyed := by
  refine isKeyed_table ["customer_id", "expiration", "id", "price_id", "product_id", "status"] rfl
    (by decide) (by decide) ?_
  simp only [List.map_cons, List.map_nil, List.forall_mem_cons]
  exact ⟨.leaf rfl, .leaf rfl, .leaf rfl, .leaf rfl, .leaf rfl, .leaf rfl, List.forall_mem_nil _⟩

theorem isKeyed_treeWith (settings : Settings) (limit : Int) :
    (settings.treeWith limit).IsKeyed := by
  refine isKeyed_table ["commerce_provider", "contact_columns", "customer_columns",
    "customers_table", "selector_search_limit", "subscription_columns", "subscriptions_table",
    "table_prefix", "utc_offset_hours"] rfl (by decide) (by decide) ?_
  simp only [List.map_cons, List.map_nil, List.forall_mem_cons]
  exact ⟨.leaf rfl, isKeyed_identityTree _, isKeyed_identityTree _, .leaf rfl, .leaf rfl,
    isKeyed_subscriptionTree _, .leaf rfl, .leaf rfl, .leaf rfl, List.forall_mem_nil _⟩

theorem entries_eq (h : settings.tree = .ok tree) : settings.entries = .ok (listing tree) := by
  simp only [entries, h, bind, Except.bind, pure, Except.pure, listing]

theorem exists_limit_of_tree (h : settings.tree = .ok tree) :
    settings.isWritable = true ∧ tree = settings.treeWith settings.selectorSearchLimit.toNat := by
  rcases settings.tree_cases with herror | ⟨hwritable, htree⟩
  · cases herror.symm.trans h
  · exact ⟨hwritable, Except.ok.inj (h.symm.trans htree)⟩

theorem mem_listing_treeWith_iff {limit : Int} : (key, text) ∈ listing (settings.treeWith limit) ↔
    ∃ value, (key, value) ∈ settings.valuesWith limit ∧ value.display = text := by
  refine (mem_listing_iff (settings.isKeyed_treeWith limit)).trans (exists_congr fun value => ?_)
  constructor
  · rintro ⟨hvalue, hleaf, htext⟩
    exact ⟨mem_of_at? hvalue hleaf, htext⟩
  · rintro ⟨hmem, htext⟩
    exact ⟨at?_of_mem hmem, isTable_of_mem hmem, htext⟩

theorem mem_listing_keys_iff {limit : Int} :
    key ∈ (listing (settings.treeWith limit)).map Prod.fst ↔ key ∈ valueKeys := by
  rw [List.mem_map]
  constructor
  · rintro ⟨⟨_, text⟩, hmem, rfl⟩
    obtain ⟨value, hvalue, -⟩ := mem_listing_treeWith_iff.mp hmem
    exact mem_valueKeys hvalue
  · intro hkey
    obtain ⟨value, hvalue⟩ := exists_mem_valuesWith settings limit hkey
    exact ⟨(key, value.display), mem_listing_treeWith_iff.mpr ⟨value, hvalue, rfl⟩, rfl⟩

theorem mem_valueKeys_iff_set (writable : settings.isWritable = true) (key raw : String) :
    key ∈ valueKeys ↔ settings.set key raw ≠ .error (.unknownKey key) ∧
      settings.set key raw ≠ .error (.isSection key) := by
  rw [Ne, Ne, set_eq_unknown writable, set_eq_isSection writable]
  constructor
  · intro hvalue
    exact ⟨fun h => h.1 hvalue, fun hsection => not_valueKey_of_sectionKey hsection hvalue⟩
  · rintro ⟨hknown, hsection⟩
    by_contra hvalue
    exact hknown ⟨hvalue, hsection⟩

/-- Listed is what the keys lead to, each key once. Of settings those keys are listed that can be
set, with the texts that are read under them. -/
theorem listing_addresses :
    (∀ fields : List (String × Value), (Value.table fields).IsKeyed →
      (∀ key text, (key, text) ∈ listing (.table fields) ↔
        ∃ value, (Value.table fields).at? (keyPath key) = some value ∧ value.isTable = false ∧
          value.display = text) ∧
      ((listing (.table fields)).map Prod.fst).Nodup) ∧
    ∀ (settings : Settings) (tree : Value), settings.tree = .ok tree →
      ∃ listed, settings.entries = .ok listed ∧ (listed.map Prod.fst).Nodup ∧
        (∀ key raw, key ∈ listed.map Prod.fst ↔
          settings.set key raw ≠ .error (.unknownKey key) ∧
            settings.set key raw ≠ .error (.isSection key)) ∧
        ∀ key text, (key, text) ∈ listed → settings.get key = .ok text := by
  refine ⟨fun fields hkeyed => ⟨fun key text => mem_listing_iff hkeyed,
    listing_keys_nodup hkeyed⟩, fun settings tree htree => ?_⟩
  obtain ⟨hwritable, rfl⟩ := exists_limit_of_tree htree
  refine ⟨_, entries_eq htree, listing_keys_nodup (settings.isKeyed_treeWith _), ?_, ?_⟩
  · intro key raw
    rw [mem_listing_keys_iff, mem_valueKeys_iff_set hwritable]
  · intro key text hmem
    obtain ⟨value, hvalue, rfl⟩ := mem_listing_treeWith_iff.mp hmem
    exact get_of_mem hwritable hvalue

/-- A table in a table of the same name, beside values of one name. -/
def nestedFields : List (String × Value) :=
  [("limits", .table [("limits", .table [("low", .integer 1)]), ("low", .integer (-1))]),
    ("low", .boolean true)]

theorem isKeyed_nestedFields : (Value.table nestedFields).IsKeyed := by
  refine isKeyed_table ["limits", "low"] rfl (by decide) (by decide) ?_
  refine List.forall_mem_cons.mpr ⟨?_, List.forall_mem_singleton.mpr (.leaf rfl)⟩
  refine isKeyed_table ["limits", "low"] rfl (by decide) (by decide) ?_
  refine List.forall_mem_cons.mpr ⟨?_, List.forall_mem_singleton.mpr (.leaf rfl)⟩
  exact isKeyed_table ["low"] rfl (by decide) (by decide)
    (List.forall_mem_singleton.mpr (.leaf rfl))

theorem listing_addresses_of_nested :
    (Value.table nestedFields).IsKeyed ∧
    ("limits.limits.low", "1") ∈ listing (.table nestedFields) ∧
    ("limits.low", "-1") ∈ listing (.table nestedFields) ∧
    (∀ text, ("limits", text) ∉ listing (.table nestedFields)) ∧
    ((listing (.table nestedFields)).map Prod.fst).Nodup ∧
    standard.tree = .ok (standard.treeWith standard.selectorSearchLimit.toNat) ∧
    ∃ listed, standard.entries = .ok listed ∧
      "contact_columns.account_id" ∈ listed.map Prod.fst ∧
      "contact_columns" ∉ listed.map Prod.fst ∧ "account_id" ∉ listed.map Prod.fst := by
  have htree : standard.tree = .ok (standard.treeWith standard.selectorSearchLimit.toNat) :=
    tree_eq (by decide)
  have hone : keyPath "limits" = ["limits"] := by decide +kernel
  have htwo : keyPath "limits.low" = ["limits", "low"] := by decide +kernel
  have hthree : keyPath "limits.limits.low" = ["limits", "limits", "low"] := by decide +kernel
  obtain ⟨htrees, hsettings⟩ := listing_addresses
  obtain ⟨hlisted, honce⟩ := htrees nestedFields isKeyed_nestedFields
  obtain ⟨listed, hentries, -, hkeys, -⟩ := hsettings standard _ htree
  have hsection : ∀ text, ("limits", text) ∉ listing (.table nestedFields) := by
    intro text hmem
    obtain ⟨value, hvalue, hleaf, -⟩ := (hlisted _ _).mp hmem
    rw [hone] at hvalue
    obtain rfl := Option.some.inj hvalue
    cases hleaf
  exact ⟨isKeyed_nestedFields, (hlisted _ _).mpr ⟨.integer 1, hthree ▸ rfl, rfl, by decide +kernel⟩,
    (hlisted _ _).mpr ⟨.integer (-1), htwo ▸ rfl, rfl, by decide +kernel⟩, hsection, honce, htree,
    listed, hentries, (hkeys _ "x").mpr (by decide +kernel),
    fun hmem => ((hkeys _ "x").mp hmem).2 (by decide +kernel),
    fun hmem => ((hkeys _ "x").mp hmem).1 (by decide +kernel)⟩

end SegmentRules.Settings

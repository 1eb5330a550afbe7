import SegmentRules.Proofs.Numeral
import SegmentRules.Proofs.Text.Parts
import SegmentRules.Proofs.Toml.Tree
import SegmentRules.Settings.Edit

/-! # Changed settings

A successful change replaces one leaf of the tree of settings by one of the same kind, and it
replaces nothing else. -/
namespace SegmentRules

open Toml (Value)

namespace Settings

variable {settings changed : Settings} {key raw : String} {tree leaf value : Value}

theorem keyPath_injective {a b : String} (h : keyPath a = keyPath b) : a = b := by
  have hparts : Text.split '.' a.toList = Text.split '.' b.toList :=
    List.map_injective_iff.mpr (fun _ _ => String.ofList_inj.mp) h
  rw [← String.toList_inj, ← Text.intercalate_split '.' a.toList, hparts, Text.intercalate_split]

/-! ## The tree of settings -/

def identityTree (columns : IdentityColumns) : Value :=
  .table [("account_id", .string columns.accountId), ("email", .string columns.email),
    ("id", .string columns.id)]

def subscriptionTree (columns : SubscriptionColumns) : Value :=
  .table [("customer_id", .string columns.customerId), ("expiration", .string columns.expiration),
    ("id", .string columns.id), ("price_id", .string columns.priceId),
    ("product_id", .string columns.productId), ("status", .string columns.status)]

/-- The sorted tree of settings, with any integer for the limit. -/
def treeWith (settings : Settings) (limit : Int) : Value :=
  .table [("commerce_provider", .string settings.commerceProvider),
    ("contact_columns", identityTree settings.contactColumns),
    ("customer_columns", identityTree settings.customerColumns),
    ("customers_table", .string settings.customersTable),
    ("selector_search_limit", .integer limit),
    ("subscription_columns", subscriptionTree settings.subscriptionColumns),
    ("subscriptions_table", .string settings.subscriptionsTable),
    ("table_prefix", .string settings.tablePrefix),
    ("utc_offset_hours", .float settings.utcOffsetHours)]

theorem tree_eq (writable : settings.isWritable = true) :
    settings.tree = .ok (settings.treeWith settings.selectorSearchLimit.toNat) :=
  if_pos writable

theorem tree_cases (settings : Settings) :
    settings.tree = .error .limitTooLarge ∨
      settings.isWritable = true ∧
        settings.tree = .ok (settings.treeWith settings.selectorSearchLimit.toNat) := by
  cases h : settings.isWritable with
  | false => exact .inl (if_neg (by simp [h]))
  | true => exact .inr ⟨rfl, tree_eq h⟩

theorem ofToml?_treeWith (settings : Settings) (limit : Int) :
    ofToml? (settings.treeWith limit) = (Value.word? (.integer limit)).bind fun word =>
      some { settings with selectorSearchLimit := word } :=
  rfl

theorem eq_identityTree_of_shape {columns : IdentityColumns}
    (h : tree.shape = (identityTree columns).shape) : ∃ given, tree = identityTree given := by
  simp only [identityTree, Value.shape, Value.fieldShapes, Value.shape_eq_table,
    Value.fieldShapes_eq_cons, Value.fieldShapes_eq_nil, Value.shape_eq_string] at h
  obtain ⟨_, rfl, _, _, rfl, ⟨account, rfl⟩, _, _, rfl, ⟨email, rfl⟩, _, _, rfl, ⟨id, rfl⟩, rfl⟩ :=
    h
  exact ⟨⟨id, account, email⟩, rfl⟩

theorem eq_subscriptionTree_of_shape {columns : SubscriptionColumns}
    (h : tree.shape = (subscriptionTree columns).shape) :
    ∃ given, tree = subscriptionTree given := by
  simp only [subscriptionTree, Value.shape, Value.fieldShapes, Value.shape_eq_table,
    Value.fieldShapes_eq_cons, Value.fieldShapes_eq_nil, Value.shape_eq_string] at h
  obtain ⟨_, rfl, _, _, rfl, ⟨customer, rfl⟩, _, _, rfl, ⟨expiration, rfl⟩, _, _, rfl, ⟨id, rfl⟩,
    _, _, rfl, ⟨price, rfl⟩, _, _, rfl, ⟨product, rfl⟩, _, _, rfl, ⟨status, rfl⟩, rfl⟩ := h
  exact ⟨⟨id, customer, product, price, status, expiration⟩, rfl⟩

theorem eq_treeWith_of_shape {limit : Int} (h : tree.shape = (settings.treeWith limit).shape) :
    ∃ given n, tree = treeWith given n := by
  simp only [treeWith, Value.shape, Value.fieldShapes, Value.shape_eq_table,
    Value.fieldShapes_eq_cons, Value.fieldShapes_eq_nil, Value.shape_eq_string,
    Value.shape_eq_integer, Value.shape_eq_float] at h
  obtain ⟨_, rfl, _, _, rfl, ⟨provider, rfl⟩, _, _, rfl, hcontact, _, _, rfl, hcustomer,
    _, _, rfl, ⟨customers, rfl⟩, _, _, rfl, ⟨n, rfl⟩, _, _, rfl, hsubscription,
    _, _, rfl, ⟨subscriptions, rfl⟩, _, _, rfl, ⟨start, rfl⟩, _, _, rfl, ⟨hours, rfl⟩, rfl⟩ := h
  obtain ⟨contact, rfl⟩ := eq_identityTree_of_shape hcontact
  obtain ⟨customer, rfl⟩ := eq_identityTree_of_shape hcustomer
  obtain ⟨subscription, rfl⟩ := eq_subscriptionTree_of_shape hsubscription
  exact ⟨⟨start, subscriptions, customers, subscription, customer, contact, hours, provider,
    settings.selectorSearchLimit⟩, n, rfl⟩

theorem tree_of_ofToml? {limit : Int} (h : ofToml? (settings.treeWith limit) = some changed)
    (bound : limit ≤ Int64.maxValue.toInt) : changed.tree = .ok (settings.treeWith limit) := by
  rw [ofToml?_treeWith, Value.word?] at h
  split at h
  · rename_i hword
    obtain rfl := Option.some.inj h
    have hlimit : ((UInt64.ofNat limit.toNat).toNat : Int) = limit := by
      rw [UInt64.toNat_ofNat_of_lt' (by omega), Int.toNat_of_nonneg hword.1]
    have hwritable :
        isWritable { settings with selectorSearchLimit := .ofNat limit.toNat } = true :=
      decide_eq_true (hlimit.symm ▸ bound)
    rw [tree_eq hwritable, hlimit]
    rfl
  · cases h

/-! ## Values from texts -/

theorem valueLike_congr {other : Value} (same : leaf.shape = other.shape) :
    valueLike key raw leaf = valueLike key raw other := by
  cases leaf <;> cases other <;> first | rfl | cases same

/-- A value made from a text has the kind of the one it replaces, and an integer is one that TOML
can hold. -/
theorem valueLike_ok (h : valueLike key raw leaf = .ok value) :
    leaf.isTable = false ∧ value.shape = leaf.shape ∧
      ∀ n, value = .integer n → n ≤ Int64.maxValue.toInt := by
  cases leaf with
  | string text =>
    obtain rfl : Value.string raw = value := Except.ok.inj h
    exact ⟨rfl, rfl, fun n hn => by cases hn⟩
  | integer m =>
    rw [valueLike] at h
    split at h
    · rename_i read hread
      obtain rfl : Value.integer read = value := Except.ok.inj h
      refine ⟨rfl, rfl, fun n hn => ?_⟩
      obtain rfl : read = n := Value.integer.inj hn
      exact Numeral.readSigned_le hread
    · cases h
  | float x =>
    rw [valueLike] at h
    split at h
    · rename_i read hread
      obtain rfl : Value.float read = value := Except.ok.inj h
      exact ⟨rfl, rfl, fun n hn => by cases hn⟩
    · cases h
  | boolean b =>
    rw [valueLike] at h
    split at h
    · obtain rfl : Value.boolean true = value := Except.ok.inj h
      exact ⟨rfl, rfl, fun n hn => by cases hn⟩
    · split at h
      · obtain rfl : Value.boolean false = value := Except.ok.inj h
        exact ⟨rfl, rfl, fun n hn => by cases hn⟩
      · cases h
  | moment written => cases h
  | array items => cases h
  | table fields => cases h

theorem find_eq_ok : find tree key = .ok value ↔ tree.at? (keyPath key) = some value := by
  cases h : tree.at? (keyPath key) <;> simp [find, h]

/-! ## Changes -/

/-- What a successful change did to the tree of the settings. -/
structure Replaces (settings : Settings) (key raw : String) (changed : Settings) : Prop where
  valid : changed.validate = .ok ()
  trees : ∃ before leaf value after, settings.tree = .ok before ∧
    before.at? (keyPath key) = some leaf ∧ valueLike key raw leaf = .ok value ∧
    Value.replaceAt? value (keyPath key) before = some after ∧ changed.tree = .ok after

/-- The limit of a changed tree is the value put into it, or it is the limit from before. -/
theorem limit_of_replaceAt? {limit n : Int} {path : List String} {other : Settings}
    (found : (settings.treeWith limit).at? path = some leaf) (kind : leaf.isTable = false)
    (replaced : Value.replaceAt? value path (settings.treeWith limit) = some (other.treeWith n)) :
    value = .integer n ∨ n = limit := by
  have hbefore : (settings.treeWith limit).at? ["selector_search_limit"] =
      some (.integer limit) := rfl
  have hafter : (other.treeWith n).at? ["selector_search_limit"] = some (.integer n) := rfl
  by_cases hpath : ["selector_search_limit"] = path
  · subst hpath
    rw [Value.at?_replaceAt? replaced] at hafter
    exact .inl (Option.some.inj hafter)
  · rw [Value.at?_replaceAt?_of_leaf found kind replaced hbefore rfl hpath] at hafter
    exact .inr (Value.integer.inj (Option.some.inj hafter)).symm

theorem replaces_of_set (h : settings.set key raw = .ok changed) :
    settings.Replaces key raw changed := by
  rcases settings.tree_cases with htree | ⟨hwritable, htree⟩
  · simp [set, htree, bind, Except.bind] at h
  cases hleaf : (settings.treeWith settings.selectorSearchLimit.toNat).at? (keyPath key) with
  | none => simp [set, htree, find, hleaf, bind, Except.bind] at h
  | some leaf =>
  cases hvalue : valueLike key raw leaf with
  | error error => simp [set, htree, find, hleaf, hvalue, bind, Except.bind] at h
  | ok value =>
  obtain ⟨hkind, hshape, hinteger⟩ := valueLike_ok hvalue
  obtain ⟨after, hafter⟩ := Value.exists_replaceAt?_iff.mpr ⟨leaf, hleaf⟩
  obtain ⟨given, n, rfl⟩ := eq_treeWith_of_shape (Value.shape_replaceAt? hleaf hshape hafter)
  have hbound : n ≤ Int64.maxValue.toInt := by
    rcases limit_of_replaceAt? hleaf hkind hafter with hnew | rfl
    · exact hinteger n hnew
    · exact of_decide_eq_true hwritable
  cases hread : ofToml? (given.treeWith n) with
  | none => simp [set, htree, find, hleaf, hvalue, hafter, ofChanged, hread, bind, Except.bind] at h
  | some found =>
  cases hvalid : found.validate with
  | error error =>
    simp [set, htree, find, hleaf, hvalue, hafter, ofChanged, hread, hvalid, bind, Except.bind] at h
  | ok =>
    obtain rfl : found = changed := by
      simpa [set, htree, find, hleaf, hvalue, hafter, ofChanged, hread, hvalid, bind, Except.bind]
        using h
    exact ⟨hvalid, _, leaf, value, _, htree, hleaf, hvalue, hafter, tree_of_ofToml? hread hbound⟩

namespace Replaces

theorem writable (h : settings.Replaces key raw changed) : changed.isWritable = true := by
  obtain ⟨_, _, _, _, _, _, _, _, htree⟩ := h.trees
  rcases changed.tree_cases with herror | ⟨hwritable, -⟩
  · cases herror.symm.trans htree
  · exact hwritable

end Replaces

def leaf? (settings : Settings) (key : String) : Option Value :=
  settings.tree.toOption.bind fun tree =>
    (tree.at? (keyPath key)).filter fun value => !value.isTable

theorem leaf?_eq_some : settings.leaf? key = some value ↔
    ∃ tree, settings.tree = .ok tree ∧ tree.at? (keyPath key) = some value ∧
      value.isTable = false := by
  cases h : settings.tree <;> simp [leaf?, h, Except.toOption, Option.filter_eq_some_iff]

theorem get_of_leaf? (h : settings.leaf? key = some value) :
    settings.get key = .ok value.display := by
  obtain ⟨tree, htree, hvalue, -⟩ := leaf?_eq_some.mp h
  simp [get, htree, find_eq_ok.mpr hvalue, bind, Except.bind, pure, Except.pure]

theorem leaf?_of_set (h : settings.set key raw = .ok changed) {other : String}
    (found : settings.leaf? other = some leaf) :
    ∃ value, changed.leaf? other = some value ∧ value.shape = leaf.shape ∧
      if other = key then valueLike key raw leaf = .ok value else value = leaf := by
  obtain ⟨before, old, value, after, htree, hold, hvalue, hafter, hchanged⟩ :=
    (replaces_of_set h).trees
  obtain ⟨_, hsame, hleaf, hkind⟩ := leaf?_eq_some.mp found
  obtain rfl := Except.ok.inj (htree.symm.trans hsame)
  obtain ⟨hold', hshape, -⟩ := valueLike_ok hvalue
  by_cases hkey : other = key
  · subst hkey
    obtain rfl := Option.some.inj (hold.symm.trans hleaf)
    have hnew : value.isTable = false := by
      rw [← Value.isTable_shape, hshape, Value.isTable_shape, hkind]
    have hleaf' : changed.leaf? other = some value :=
      leaf?_eq_some.mpr ⟨after, hchanged, Value.at?_replaceAt? hafter, hnew⟩
    refine ⟨value, hleaf', hshape, ?_⟩
    rw [if_pos rfl]
    exact hvalue
  · have hpath : keyPath other ≠ keyPath key := fun hpath => hkey (keyPath_injective hpath)
    refine ⟨leaf, leaf?_eq_some.mpr ⟨after, hchanged, ?_, hkind⟩, rfl, by rw [if_neg hkey]⟩
    exact Value.at?_replaceAt?_of_leaf hold hold' hafter hleaf hkind hpath

/-! ## Several changes -/

def setAll (settings : Settings) (changes : List (String × String)) : Except EditError Settings :=
  changes.foldlM (fun settings (key, raw) => settings.set key raw) settings

theorem leaf?_of_setAll {changes : List (String × String)} {final : Settings}
    (h : settings.setAll changes = .ok final) (found : settings.leaf? key = some leaf) :
    ∃ value, final.leaf? key = some value ∧ value.shape = leaf.shape ∧
      match changes.reverse.lookup key with
      | some raw => valueLike key raw leaf = .ok value
      | none => value = leaf := by
  -- The value may change on the way but not its kind, so every text is read as the first one was.
  induction changes generalizing settings leaf with
  | nil =>
    obtain rfl : settings = final := Except.ok.inj h
    exact ⟨leaf, found, rfl, rfl⟩
  | cons change rest ih =>
    rcases change with ⟨changedKey, raw⟩
    cases hset : settings.set changedKey raw with
    | error error => simp [setAll, hset, bind, Except.bind] at h
    | ok next =>
      have hrest : next.setAll rest = .ok final := by
        simpa [setAll, hset, bind, Except.bind] using h
      obtain ⟨middle, hmiddle, hshape, hfirst⟩ := leaf?_of_set hset found
      obtain ⟨value, hvalue, hshape', hlast⟩ := ih hrest hmiddle
      refine ⟨value, hvalue, hshape'.trans hshape, ?_⟩
      rw [List.reverse_cons, List.lookup_append]
      cases hlookup : rest.reverse.lookup key with
      | some raw =>
        simp only [hlookup] at hlast
        simpa [valueLike_congr hshape] using hlast
      | none =>
        simp only [hlookup] at hlast
        subst hlast
        by_cases hkey : key = changedKey
        · subst hkey
          simpa using hfirst
        · have hne : (key == changedKey) = false := beq_eq_false_iff_ne.mpr hkey
          simpa [List.lookup_cons, hne, hkey] using hfirst

end Settings
end SegmentRules

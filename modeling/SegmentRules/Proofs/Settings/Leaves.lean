import SegmentRules.Proofs.Settings.Edit
import SegmentRules.Proofs.Settings.Valid

/-! # The values of settings

Settings are their values under dotted keys: which keys there are never changes, the values make the
settings, and settings are valid if each value is. -/
namespace SegmentRules.Settings

open Toml (Value)

variable {settings other : Settings} {limit n : Int} {key text : String} {value : Value}

def valueKeys : List String :=
  ["table_prefix", "utc_offset_hours", "commerce_provider", "selector_search_limit",
    "subscriptions_table", "customers_table",
    "subscription_columns.id", "subscription_columns.customer_id",
    "subscription_columns.product_id", "subscription_columns.price_id",
    "subscription_columns.status", "subscription_columns.expiration",
    "customer_columns.id", "customer_columns.account_id", "customer_columns.email",
    "contact_columns.id", "contact_columns.account_id", "contact_columns.email"]

def sectionKeys : List String := ["subscription_columns", "customer_columns", "contact_columns"]

def valuesWith (settings : Settings) (limit : Int) : List (String × Value) :=
  [("table_prefix", .string settings.tablePrefix),
    ("utc_offset_hours", .float settings.utcOffsetHours),
    ("commerce_provider", .string settings.commerceProvider),
    ("selector_search_limit", .integer limit)] ++
    settings.identifiers.map fun (name, column) => (name, .string column)

def values (settings : Settings) : List (String × Value) :=
  settings.valuesWith settings.selectorSearchLimit.toNat

/-- What a value has to be for valid settings. -/
def Admits (key : String) : Value → Prop
  | .string text =>
    if key = "commerce_provider" then text ≠ ""
    else if key = "table_prefix" then text.toList.all isNameChar = true
    else isIdentifier text = true
  | .float hours => hours.between (-14) 14 = true
  | .integer n => n ≠ 0
  | _ => False

/-! ## Keys -/

theorem keyPath_inj {a b : String} : keyPath a = keyPath b ↔ a = b :=
  ⟨keyPath_injective, congrArg keyPath⟩

theorem keyPath_ne_nil (key : String) : keyPath key ≠ [] := by
  simp [keyPath, Text.split_ne_nil]

theorem valuePaths : valueKeys.map keyPath =
    [["table_prefix"], ["utc_offset_hours"], ["commerce_provider"], ["selector_search_limit"],
      ["subscriptions_table"], ["customers_table"],
      ["subscription_columns", "id"], ["subscription_columns", "customer_id"],
      ["subscription_columns", "product_id"], ["subscription_columns", "price_id"],
      ["subscription_columns", "status"], ["subscription_columns", "expiration"],
      ["customer_columns", "id"], ["customer_columns", "account_id"], ["customer_columns", "email"],
      ["contact_columns", "id"], ["contact_columns", "account_id"],
      ["contact_columns", "email"]] := by
  decide +kernel

theorem sectionPaths : sectionKeys.map keyPath =
    [["subscription_columns"], ["customer_columns"], ["contact_columns"]] := by
  decide +kernel

theorem valuesWith_keys (settings : Settings) (limit : Int) :
    (settings.valuesWith limit).map Prod.fst = valueKeys := rfl

theorem cases_of_at? (h : (settings.treeWith limit).at? (keyPath key) = some value) :
    (value.isTable = false ∧ (key, value) ∈ settings.valuesWith limit) ∨
      (value.isTable = true ∧ key ∈ sectionKeys) := by
  have hnode := Value.mem_nodes_of_at? h
  have hvalues := valuePaths
  have hsections := sectionPaths
  simp only [valueKeys, sectionKeys, List.map_cons, List.map_nil, List.cons.injEq, and_true]
    at hvalues hsections
  simp only [treeWith, identityTree, subscriptionTree, Value.nodes, Value.fieldNodes, List.map_cons,
    List.map_nil, List.append_nil, List.cons_append, List.nil_append, Prod.map_apply, id_eq,
    List.mem_cons, List.not_mem_nil, or_false, Prod.mk.injEq, keyPath_ne_nil, false_and, false_or,
    ← hvalues, ← hsections, keyPath_inj] at hnode
  casesm* _ ∨ _
  all_goals
    obtain ⟨rfl, rfl⟩ := hnode
    first
    | exact .inr ⟨rfl, by decide⟩
    | exact .inl ⟨rfl, by simp [valuesWith, identifiers, columnNames, IdentityColumns.entries,
        SubscriptionColumns.entries]⟩

theorem at?_of_mem (h : (key, value) ∈ settings.valuesWith limit) :
    (settings.treeWith limit).at? (keyPath key) = some value := by
  have hvalues := valuePaths
  simp only [valueKeys, List.map_cons, List.map_nil, List.cons.injEq, and_true] at hvalues
  have hall : ∀ entry ∈ settings.valuesWith limit,
      (settings.treeWith limit).at? (keyPath entry.1) = some entry.2 := by
    simp only [valuesWith, identifiers, columnNames, IdentityColumns.entries,
      SubscriptionColumns.entries, List.map_cons, List.map_nil, List.cons_append, List.nil_append,
      List.forall_mem_cons, String.reduceAppend, hvalues]
    exact ⟨rfl, rfl, rfl, rfl, rfl, rfl, rfl, rfl, rfl, rfl, rfl, rfl, rfl, rfl, rfl, rfl, rfl, rfl,
      List.forall_mem_nil _⟩
  exact hall _ h

theorem at?_of_section (settings : Settings) (limit : Int) (h : key ∈ sectionKeys) :
    ∃ value, (settings.treeWith limit).at? (keyPath key) = some value ∧ value.isTable = true := by
  have hsections := sectionPaths
  simp only [sectionKeys, List.map_cons, List.map_nil, List.cons.injEq, and_true] at hsections
  simp only [sectionKeys, List.mem_cons, List.not_mem_nil, or_false] at h
  obtain rfl | rfl | rfl := h
  all_goals
    simp only [hsections]
    exact ⟨_, rfl, rfl⟩

/-! ## Values -/

/-- The values are texts, a number for the offset, and the limit. -/
theorem kind_of_mem (h : (key, value) ∈ settings.valuesWith limit) :
    (∃ text, value = .string text) ∨ (∃ x, value = .float x) ∨ value = .integer limit := by
  rcases List.mem_append.mp h with h | h
  · simp only [List.mem_cons, Prod.mk.injEq, List.not_mem_nil, or_false] at h
    obtain ⟨-, rfl⟩ | ⟨-, rfl⟩ | ⟨-, rfl⟩ | ⟨-, rfl⟩ := h
    · exact .inl ⟨_, rfl⟩
    · exact .inr (.inl ⟨_, rfl⟩)
    · exact .inl ⟨_, rfl⟩
    · exact .inr (.inr rfl)
  · obtain ⟨⟨name, column⟩, -, hentry⟩ := List.mem_map.mp h
    exact .inl ⟨column, (Prod.mk.inj hentry).2.symm⟩

theorem isTable_of_mem (h : (key, value) ∈ settings.valuesWith limit) : value.isTable = false := by
  rcases kind_of_mem h with ⟨text, rfl⟩ | ⟨x, rfl⟩ | rfl
  · rfl
  · rfl
  · rfl

theorem mem_of_at? (h : (settings.treeWith limit).at? (keyPath key) = some value)
    (leaf : value.isTable = false) : (key, value) ∈ settings.valuesWith limit := by
  rcases cases_of_at? h with ⟨-, hmem⟩ | ⟨htable, -⟩
  · exact hmem
  · exact absurd (htable.symm.trans leaf) (by decide)

theorem get_of_mem (writable : settings.isWritable = true) (h : (key, value) ∈ settings.values) :
    settings.get key = .ok value.display := by
  simp [get, tree_eq writable, find, at?_of_mem h, bind, Except.bind, pure, Except.pure]

theorem mem_valueKeys (h : (key, value) ∈ settings.valuesWith limit) : key ∈ valueKeys :=
  List.mem_map_of_mem (f := Prod.fst) h

theorem exists_mem_valuesWith (settings : Settings) (limit : Int) (h : key ∈ valueKeys) :
    ∃ value, (key, value) ∈ settings.valuesWith limit := by
  rw [← valuesWith_keys settings limit] at h
  obtain ⟨⟨_, value⟩, hmem, rfl⟩ := List.mem_map.mp h
  exact ⟨value, hmem⟩

theorem valueKeys_nodup : valueKeys.Nodup := by decide

theorem value_unique {a b : Value} (ha : (key, a) ∈ settings.valuesWith limit)
    (hb : (key, b) ∈ settings.valuesWith limit) : a = b := by
  have hnodup : ((settings.valuesWith limit).map Prod.fst).Nodup := valueKeys_nodup
  have hentry : (key, a) = (key, b) := List.inj_on_of_nodup_map hnodup ha hb rfl
  exact (Prod.mk.inj hentry).2

theorem eq_of_values (h : settings.values = other.values) : settings = other := by
  rcases settings with ⟨_, _, _, ⟨_, _, _, _, _, _⟩, ⟨_, _, _⟩, ⟨_, _, _⟩, _, _, _⟩
  rcases other with ⟨_, _, _, ⟨_, _, _, _, _, _⟩, ⟨_, _, _⟩, ⟨_, _, _⟩, _, _, _⟩
  simp only [values, valuesWith, identifiers, columnNames, IdentityColumns.entries,
    SubscriptionColumns.entries, List.map_cons, List.map_nil, List.cons_append, List.nil_append,
    List.cons.injEq, Prod.mk.injEq, Value.string.injEq, Value.float.injEq, Value.integer.injEq,
    true_and, and_true, Int.natCast_inj, UInt64.toNat_inj] at h
  obtain ⟨rfl, rfl, rfl, rfl, rfl, rfl, rfl, rfl, rfl, rfl, rfl, rfl, rfl, rfl, rfl, rfl, rfl,
    rfl⟩ := h
  rfl

theorem eq_of_same_keys {entries others : List (String × Value)}
    (keys : entries.map Prod.fst = others.map Prod.fst) (once : (others.map Prod.fst).Nodup)
    (h : entries ⊆ others) : entries = others := by
  have hlength : entries.length = others.length := by simpa using congrArg List.length keys
  refine List.ext_getElem hlength fun i hi hi' => ?_
  have hkey : entries[i].1 = others[i].1 := by
    have hat := congrArg (·[i]?) keys
    simpa only [List.getElem?_map, List.getElem?_eq_getElem hi, List.getElem?_eq_getElem hi',
      Option.map_some, Option.some.injEq] using hat
  exact List.inj_on_of_nodup_map once (h (List.getElem_mem hi)) (List.getElem_mem hi') hkey

theorem eq_of_subset (h : settings.values ⊆ other.values) : settings = other :=
  eq_of_values (eq_of_same_keys rfl valueKeys_nodup h)

/-! ## Validity -/

/-- No value is checked against another one. -/
theorem valid_iff : settings.validate = .ok () ↔
    ∀ entry ∈ settings.values, Admits entry.1 entry.2 := by
  have hnames : (∀ entry ∈ settings.identifiers.map fun (name, column) =>
      (name, Value.string column), Admits entry.1 entry.2) ↔
      ∀ entry ∈ settings.identifiers, isIdentifier entry.2 = true := by
    simp [identifiers, columnNames, IdentityColumns.entries, SubscriptionColumns.entries, Admits]
  have hlimit :
      (settings.selectorSearchLimit.toNat : Int) ≠ 0 ↔ settings.selectorSearchLimit ≠ 0 := by
    rw [Ne, Int.natCast_eq_zero, Ne, ← UInt64.toNat_inj, UInt64.toNat_zero]
  rw [validate_eq_ok, badIdentifier?_eq_none, values, valuesWith, List.forall_mem_append, hnames]
  simp only [List.forall_mem_cons, List.not_mem_nil, false_implies, implies_true, and_true, Admits,
    hlimit, String.reduceEq, if_true, if_false]
  tauto

end SegmentRules.Settings

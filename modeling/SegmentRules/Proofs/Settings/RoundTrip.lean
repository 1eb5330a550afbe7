import SegmentRules.Proofs.Settings.File
import SegmentRules.Proofs.Settings.Valid
import SegmentRules.Proofs.Toml.Number

/-! # Settings as text and back

Valid settings are what their text means, unless their limit is one that no text can hold. -/
namespace SegmentRules.Settings

open Files (Disk Path)
open Toml (AreEntries IsBare IsFlat Value)

variable {settings : Settings}

/-! ## The document -/

theorem areEntries_columns {entries : List (String × String)} (keys : List String)
    (hkeys : entries.map Prod.fst = keys) (bare : ∀ key ∈ keys, IsBare key)
    (distinct : keys.Nodup) : AreEntries (columnsToToml entries) := by
  have hkeys' : (columnsToToml entries).map Prod.fst = keys := by
    rw [← hkeys, columnsToToml, List.map_map]
    rfl
  constructor
  · intro entry hentry
    exact bare entry.1 (hkeys' ▸ List.mem_map_of_mem hentry)
  · intro entry hentry
    obtain ⟨column, -, rfl⟩ := List.mem_map.mp hentry
    exact Toml.isRead_string column.2
  · rwa [hkeys']

theorem areEntries_subscription (columns : SubscriptionColumns) :
    AreEntries (columnsToToml columns.entries) :=
  areEntries_columns
    ["id", "customer_id", "product_id", "price_id", "status", "expiration"] rfl
    (by decide +kernel) (by decide +kernel)

theorem areEntries_identity (columns : IdentityColumns) :
    AreEntries (columnsToToml columns.entries) :=
  areEntries_columns ["id", "account_id", "email"] rfl
    (by decide +kernel) (by decide +kernel)

theorem toToml_keys (settings : Settings) :
    settings.toToml.map Prod.fst = fields.map Document.FieldName.name :=
  rfl

theorem isRead_limit (writable : settings.isWritable = true) :
    Value.IsRead (.integer settings.selectorSearchLimit.toNat) := by
  have hlimit := isWritable_iff.mp writable
  have hlow : Int64.minValue.toInt = -2 ^ 63 := by decide
  have hhigh : Int64.maxValue.toInt = 2 ^ 63 - 1 := by decide
  refine Toml.isRead_integer ?_ ?_
  · omega
  · omega

theorem isFlat_toToml (writable : settings.isWritable = true) (valid : settings.validate = .ok ()) :
    IsFlat settings.toToml := by
  have hkeys : (∀ key ∈ fields.map Document.FieldName.name, IsBare key) ∧
      (fields.map Document.FieldName.name).Nodup := by
    decide +kernel
  rw [← toToml_keys settings] at hkeys
  refine ⟨fun field hfield => hkeys.1 _ (List.mem_map_of_mem hfield), hkeys.2, ?_, ?_⟩
  · intro field hfield hvalue
    simp only [toToml, List.mem_cons, List.not_mem_nil, or_false] at hfield
    rcases hfield with rfl | rfl | rfl | rfl | rfl | rfl | rfl | rfl | rfl
    · exact Toml.isRead_string _
    · exact Toml.isRead_string _
    · exact Toml.isRead_string _
    · cases hvalue
    · cases hvalue
    · cases hvalue
    · exact Toml.isRead_float (isFinite_of_valid valid)
    · exact Toml.isRead_string _
    · exact isRead_limit writable
  · intro key entries hfield
    simp only [toToml, List.mem_cons, Prod.mk.injEq, Value.table.injEq, reduceCtorEq, and_false,
      false_or, or_false, List.not_mem_nil] at hfield
    rcases hfield with ⟨-, rfl⟩ | ⟨-, rfl⟩ | ⟨-, rfl⟩
    · exact areEntries_subscription _
    · exact areEntries_identity _
    · exact areEntries_identity _

/-- The fields in the order of their lines, with any integer for the limit. -/
def lineFields (settings : Settings) (limit : Int) : List (String × Value) :=
  [("table_prefix", .string settings.tablePrefix),
   ("subscriptions_table", .string settings.subscriptionsTable),
   ("customers_table", .string settings.customersTable),
   ("utc_offset_hours", .float settings.utcOffsetHours),
   ("commerce_provider", .string settings.commerceProvider),
   ("selector_search_limit", .integer limit),
   ("subscription_columns", .table (columnsToToml settings.subscriptionColumns.entries)),
   ("customer_columns", .table (columnsToToml settings.customerColumns.entries)),
   ("contact_columns", .table (columnsToToml settings.contactColumns.entries))]

theorem filter_toToml (settings : Settings) :
    (settings.toToml.filter fun field => !Toml.isSection field) ++
        settings.toToml.filter Toml.isSection =
      settings.lineFields settings.selectorSearchLimit.toNat :=
  rfl

theorem ofToml?_lineFields (settings : Settings) (limit : Int) :
    ofToml? (.table (settings.lineFields limit)) = (Value.word? (.integer limit)).bind fun word =>
      some { settings with selectorSearchLimit := word } :=
  rfl

theorem word?_limit (settings : Settings) :
    Value.word? (.integer settings.selectorSearchLimit.toNat) =
      some settings.selectorSearchLimit := by
  have hless : settings.selectorSearchLimit.toNat < UInt64.size :=
    settings.selectorSearchLimit.toNat_lt
  rw [Value.word?, if_pos (by omega), Int.toNat_natCast, UInt64.ofNat_toNat]

theorem readsBack_of_writable (writable : settings.isWritable = true)
    (valid : settings.validate = .ok ()) : settings.ReadsBack := by
  refine readsBack_of_chars writable valid ?_
  rw [Toml.ofChars?_documentChars (isFlat_toToml writable valid), Option.bind_some, filter_toToml,
    ofToml?_lineFields, word?_limit, Option.bind_some]

/-! ## Files -/

theorem save_of_not_writable (h : settings.isWritable = false) (disk : Disk) (path : String) :
    (∃ error, (settings.save disk path).1 = .error error) ∧
      disk.KeepsFiles (settings.save disk path).2 := by
  have htext : settings.toText = .error (.settings .limitNotWritable) := by
    rw [toText, h]
    rfl
  rw [save]
  cases settings.validate with
  | error error => exact ⟨⟨error, rfl⟩, .refl disk⟩
  | ok =>
    rcases hmade : disk.ensureDirectories (Path.ofText path).above with ⟨_ | _, made⟩
    · exact ⟨⟨_, rfl⟩, Disk.keepsFiles_of_ensureDirectories hmade⟩
    · rw [htext]
      exact ⟨⟨_, rfl⟩, Disk.keepsFiles_of_ensureDirectories hmade⟩

/-- Settings are what their text means, whatever the texts in them. A limit that TOML cannot hold
has no text, and saving it leaves the files as they are. -/
theorem text_round_trip (settings : Settings) (valid : settings.validate = .ok ()) :
    (settings.selectorSearchLimit.toNat ≤ 2 ^ 63 - 1 →
      ∃ text, settings.toText = .ok text ∧ ofText text = .ok settings) ∧
    (2 ^ 63 - 1 < settings.selectorSearchLimit.toNat →
      settings.toText = .error (.settings .limitNotWritable) ∧
      ∀ disk path, (∃ error, (settings.save disk path).1 = .error error) ∧
        disk.KeepsFiles (settings.save disk path).2) := by
  constructor
  · intro hlimit
    have hwritable := isWritable_iff.mpr hlimit
    have hread := readsBack_of_writable hwritable valid
    rw [ReadsBack, toText_of_writable hwritable] at hread
    simp only [bind, Except.bind] at hread
    exact ⟨_, toText_of_writable hwritable, hread⟩
  · intro hlimit
    have hwritable : settings.isWritable = false := by
      rw [← Bool.not_eq_true, isWritable_iff]
      omega
    refine ⟨?_, save_of_not_writable hwritable⟩
    rw [toText, hwritable]
    rfl

/-- A provider that no quotes hold without escapes, three and a half hours behind UTC, and a limit
one above what TOML can hold. -/
theorem text_round_trip_of_escapes :
    let quoted : Settings := { standard with
      utcOffsetHours := ⟨0xC00C000000000000⟩
      commerceProvider := "'''\"\"\"\\\r\n\x00 \u00e9" }
    let large : Settings := { quoted with selectorSearchLimit := 0x8000000000000000 }
    let disk : Disk := ⟨[(["rules.toml"], .file "")]⟩
    (quoted.validate = .ok () ∧ quoted.selectorSearchLimit.toNat ≤ 2 ^ 63 - 1 ∧
      ∃ text, quoted.toText = .ok text ∧ ofText text = .ok quoted) ∧
    large.validate = .ok () ∧ 2 ^ 63 - 1 < large.selectorSearchLimit.toNat ∧
      large.toText = .error (.settings .limitNotWritable) ∧
      (large.save disk "rules.toml").2.at? (.ofText "rules.toml") = some (.file "") := by
  intro quoted large disk
  have hquoted : quoted.validate = .ok () := by decide +kernel
  have hlarge : large.validate = .ok () := by decide +kernel
  have hsmaller : quoted.selectorSearchLimit.toNat ≤ 2 ^ 63 - 1 := by decide
  have hlarger : 2 ^ 63 - 1 < large.selectorSearchLimit.toNat := by decide
  have hfile : disk.at? (.ofText "rules.toml") = some (.file "") := by decide +kernel
  obtain ⟨htext, hsave⟩ := (text_round_trip large hlarge).2 hlarger
  exact ⟨⟨hquoted, hsmaller, (text_round_trip quoted hquoted).1 hsmaller⟩, hlarge, hlarger, htext,
    (hsave disk "rules.toml").2.paths _ _ hfile⟩

end SegmentRules.Settings

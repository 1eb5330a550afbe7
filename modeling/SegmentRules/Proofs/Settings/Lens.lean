import SegmentRules.Proofs.Settings.Leaves
import SegmentRules.Proofs.Toml.Number

/-! # Changes of single values

A change reads its text like the value it replaces. What it makes of the settings depends on that
value alone, so changes of different values do not see each other. -/
namespace SegmentRules.Settings

open Toml (Value)

variable {settings changed a b : Settings} {key raw : String} {leaf value : Value}

/-- The text is one of a value like the old one: any text, an integer that is not negative and has
64 bits with its sign, or a number. -/
inductive Reads (raw : String) : Value → Value → Prop
  | text (old : String) : Reads raw (.string old) (.string raw)
  | limit (old : Int) {n : Nat} (written : Numeral.WritesSigned raw.toList n)
      (fits : n ≤ 2 ^ 63 - 1) : Reads raw (.integer old) (.integer n)
  | offset (old : Double) {x : Double} (read : Double.read raw.toList = .ok x) :
      Reads raw (.float old) (.float x)

/-- The entries have the value under the key, and else they are what they were. -/
structure Differs (key : String) (value : Value) (before after : List (String × Value)) : Prop where
  there : (key, value) ∈ after
  elsewhere : ∀ entry, entry.1 ≠ key → (entry ∈ after ↔ entry ∈ before)

inductive Edited (settings : Settings) (key raw : String) : Except EditError Settings → Prop
  | unknown (noValue : key ∉ valueKeys) (noTable : key ∉ sectionKeys) :
      Edited settings key raw (.error (.unknownKey key))
  | table (h : key ∈ sectionKeys) : Edited settings key raw (.error (.isSection key))
  | unread {leaf : Value} (found : (key, leaf) ∈ settings.values)
      (unreadable : ∀ value, ¬ Reads raw leaf value) (fault : ValueFault) :
      Edited settings key raw (.error (.invalidValue key fault))
  | invalid {leaf value : Value} {changed : Settings} {error : RuleError}
      (found : (key, leaf) ∈ settings.values) (reads : Reads raw leaf value)
      (differs : Differs key value settings.values changed.values)
      (fails : changed.validate = .error error) : Edited settings key raw (.error (.rule error))
  | changed {leaf value : Value} {changed : Settings} (found : (key, leaf) ∈ settings.values)
      (reads : Reads raw leaf value) (differs : Differs key value settings.values changed.values)
      (valid : changed.validate = .ok ()) : Edited settings key raw (.ok changed)

/-! ## Texts of values -/

theorem readSigned_limit {n : Nat} (written : Numeral.WritesSigned raw.toList n)
    (fits : n ≤ 2 ^ 63 - 1) : Numeral.readSigned raw.toList = .ok n := by
  have hlow : Int64.minValue.toInt = -2 ^ 63 := by decide
  have hhigh : Int64.maxValue.toInt = 2 ^ 63 - 1 := by decide
  refine Numeral.readSigned_eq_ok.mpr ⟨written, ?_, ?_⟩
  · rw [hlow]
    omega
  · rw [hhigh]
    omega

theorem Reads.valueLike (h : Reads raw leaf value) (key : String) :
    valueLike key raw leaf = .ok value := by
  cases h with
  | text old => rfl
  | limit old written fits => rw [Settings.valueLike, readSigned_limit written fits]
  | offset old read => rw [Settings.valueLike, read]

theorem Reads.unique {other : Value} (h : Reads raw leaf value) (h' : Reads raw leaf other) :
    value = other :=
  Except.ok.inj ((h.valueLike "").symm.trans (h'.valueLike ""))

theorem Reads.nonneg {n : Int} (h : Reads raw leaf (.integer n)) : 0 ≤ n := by
  cases h with
  | limit old written fits => exact Int.natCast_nonneg _

/-- A text that is not one of the value does not read, or it reads as a negative limit. -/
theorem valueLike_of_not_reads (found : (key, leaf) ∈ settings.values)
    (unreadable : ∀ value, ¬ Reads raw leaf value) :
    (∃ fault, valueLike key raw leaf = .error (.invalidValue key fault)) ∨
      ∃ n < 0, valueLike key raw leaf = .ok (.integer n) := by
  rcases kind_of_mem found with ⟨old, rfl⟩ | ⟨old, rfl⟩ | rfl
  · exact absurd (.text old) (unreadable _)
  · cases hread : Double.read raw.toList with
    | ok x => exact absurd (.offset old hread) (unreadable _)
    | error fault => exact .inl ⟨.float fault, by rw [valueLike, hread]⟩
  · cases hread : Numeral.readSigned raw.toList with
    | error fault => exact .inl ⟨.integer fault, by rw [valueLike, hread]⟩
    | ok n =>
      by_cases hnegative : n < 0
      · exact .inr ⟨n, hnegative, by rw [valueLike, hread]⟩
      · obtain ⟨n, rfl⟩ := Int.eq_ofNat_of_zero_le (Int.not_lt.mp hnegative)
        have hhigh : Int64.maxValue.toInt = 2 ^ 63 - 1 := by decide
        obtain ⟨hwritten, -, hfits⟩ := Numeral.readSigned_eq_ok.mp hread
        exact absurd (.limit _ hwritten (by omega)) (unreadable _)

/-! ## One change -/

theorem Differs.unique (ha : Differs key value settings.values a.values)
    (hb : Differs key value settings.values b.values) : a = b := by
  refine eq_of_subset fun ⟨other, kept⟩ hmem => ?_
  by_cases hkey : other = key
  · subst hkey
    rw [value_unique hmem ha.there]
    exact hb.there
  · exact (hb.elsewhere _ hkey).mpr ((ha.elsewhere _ hkey).mp hmem)

theorem Differs.refl {entries : List (String × Value)} (found : (key, leaf) ∈ entries) :
    Differs key leaf entries entries where
  there := found
  elsewhere _ _ := Iff.rfl

theorem differs_of_replaceAt? {limit n : Int} (found : (key, leaf) ∈ settings.valuesWith limit)
    (kind : value.isTable = false)
    (replaced : Value.replaceAt? value (keyPath key) (settings.treeWith limit) =
      some (changed.treeWith n)) :
    Differs key value (settings.valuesWith limit) (changed.valuesWith n) := by
  refine ⟨mem_of_at? (Value.at?_replaceAt? replaced) kind, ?_⟩
  rintro ⟨other, old⟩ hne
  have hpath : keyPath other ≠ keyPath key := fun h => hne (keyPath_injective h)
  have hkept : ∀ value, (other, value) ∈ settings.valuesWith limit →
      (other, value) ∈ changed.valuesWith n := by
    intro value hmem
    have hleaf := isTable_of_mem hmem
    exact mem_of_at? (Value.at?_replaceAt?_of_leaf (at?_of_mem found) (isTable_of_mem found)
      replaced (at?_of_mem hmem) hleaf hpath) hleaf
  constructor
  · intro hmem
    obtain ⟨value, hvalue⟩ := exists_mem_valuesWith settings limit (mem_valueKeys hmem)
    rwa [value_unique hmem (hkept value hvalue)]
  · exact hkept old

theorem exists_ofToml? (given : Settings) {n : Int} (low : 0 ≤ n)
    (high : n ≤ Int64.maxValue.toInt) :
    ∃ changed, ofToml? (given.treeWith n) = some changed ∧ changed.values = given.valuesWith n := by
  have hhigh : Int64.maxValue.toInt < UInt64.size := by decide
  have hn : ((UInt64.ofNat n.toNat).toNat : Int) = n := by
    rw [UInt64.toNat_ofNat_of_lt' (by omega), Int.toNat_of_nonneg low]
  rw [ofToml?_treeWith, Value.word?, if_pos ⟨low, by omega⟩]
  refine ⟨_, rfl, ?_⟩
  rw [values, hn]
  rfl

theorem ofToml?_of_negative (given : Settings) {n : Int} (negative : n < 0) :
    ofToml? (given.treeWith n) = none := by
  rw [ofToml?_treeWith, Value.word?, if_neg (by omega)]
  rfl

def accepted (changed : Settings) : Except EditError Settings :=
  match changed.validate with
  | .ok () => .ok changed
  | .error error => .error (.rule error)

theorem exists_replaced (writable : settings.isWritable = true)
    (found : (key, leaf) ∈ settings.values) (read : valueLike key raw leaf = .ok value) :
    ∃ (given : Settings) (n : Int), Differs key value settings.values (given.valuesWith n) ∧
      (value = .integer n ∨ n = settings.selectorSearchLimit.toNat) ∧
      settings.set key raw = (ofChanged key value (given.treeWith n)).bind accepted := by
  have hleaf := at?_of_mem found
  obtain ⟨hkind, hshape, -⟩ := valueLike_ok read
  obtain ⟨after, hafter⟩ := Value.exists_replaceAt?_iff.mpr ⟨leaf, hleaf⟩
  obtain ⟨given, n, rfl⟩ := eq_treeWith_of_shape (Value.shape_replaceAt? hleaf hshape hafter)
  have hvalue : value.isTable = false := by
    rw [← Value.isTable_shape, hshape, Value.isTable_shape, hkind]
  refine ⟨given, n, differs_of_replaceAt? found hvalue hafter,
    limit_of_replaceAt? hleaf hkind hafter, ?_⟩
  simp only [set, tree_eq writable, bind, Except.bind, find, hleaf, read, hafter]
  rfl

theorem set_of_reads (writable : settings.isWritable = true)
    (found : (key, leaf) ∈ settings.values) (reads : Reads raw leaf value) :
    ∃ changed, Differs key value settings.values changed.values ∧
      settings.set key raw = accepted changed := by
  have hread := reads.valueLike key
  obtain ⟨given, n, hdiffers, hlimit, hset⟩ := exists_replaced writable found hread
  have hbound : 0 ≤ n ∧ n ≤ Int64.maxValue.toInt := by
    rcases hlimit with rfl | rfl
    · exact ⟨reads.nonneg, (valueLike_ok hread).2.2 n rfl⟩
    · exact ⟨Int.natCast_nonneg _, of_decide_eq_true writable⟩
  obtain ⟨changed, hchanged, hvalues⟩ := exists_ofToml? given hbound.1 hbound.2
  refine ⟨changed, hvalues ▸ hdiffers, ?_⟩
  simp only [hset, ofChanged, hchanged]
  rfl

theorem set_of_not_reads (writable : settings.isWritable = true)
    (found : (key, leaf) ∈ settings.values) (unreadable : ∀ value, ¬ Reads raw leaf value) :
    ∃ fault, settings.set key raw = .error (.invalidValue key fault) := by
  rcases valueLike_of_not_reads found unreadable with ⟨fault, hfault⟩ | ⟨n, negative, hread⟩
  · have hleaf := at?_of_mem found
    exact ⟨fault, by simp [set, tree_eq writable, find, hleaf, hfault, bind, Except.bind]⟩
  · obtain ⟨given, limit, hdiffers, hlimit, hset⟩ := exists_replaced writable found hread
    -- No integer but the limit is in the entries, so this is the negative one.
    obtain rfl : n = limit := by
      rcases kind_of_mem hdiffers.there with ⟨text, htext⟩ | ⟨x, hx⟩ | hn
      · cases htext
      · cases hx
      · exact Value.integer.inj hn
    simp only [hset, ofChanged, ofToml?_of_negative given negative]
    exact ⟨_, rfl⟩

theorem set_edited (writable : settings.isWritable = true) (key raw : String) :
    settings.Edited key raw (settings.set key raw) := by
  cases hfound : (settings.treeWith settings.selectorSearchLimit.toNat).at? (keyPath key) with
  | none =>
    have hset : settings.set key raw = .error (.unknownKey key) := by
      simp [set, tree_eq writable, find, hfound, bind, Except.bind]
    rw [hset]
    refine .unknown (fun hkey => ?_) (fun hkey => ?_)
    · obtain ⟨value, hmem⟩ := exists_mem_valuesWith settings settings.selectorSearchLimit.toNat hkey
      cases hfound.symm.trans (at?_of_mem hmem)
    · obtain ⟨value, hvalue, -⟩ := at?_of_section settings settings.selectorSearchLimit.toNat hkey
      cases hfound.symm.trans hvalue
  | some leaf =>
    rcases cases_of_at? hfound with ⟨-, hmem⟩ | ⟨htable, hkey⟩
    · by_cases hreads : ∃ value, Reads raw leaf value
      · obtain ⟨value, hreads⟩ := hreads
        obtain ⟨changed, hdiffers, hset⟩ := set_of_reads writable hmem hreads
        rw [hset, accepted]
        cases hvalid : changed.validate with
        | ok => exact .changed hmem hreads hdiffers hvalid
        | error error => exact .invalid hmem hreads hdiffers hvalid
      · have hunreadable : ∀ value, ¬ Reads raw leaf value := fun value h => hreads ⟨value, h⟩
        obtain ⟨fault, hset⟩ := set_of_not_reads writable hmem hunreadable
        rw [hset]
        exact .unread hmem hunreadable fault
    · have hset : settings.set key raw = .error (.isSection key) := by
        cases leaf with
        | table fields => simp [set, tree_eq writable, find, hfound, valueLike, bind, Except.bind]
        | _ => cases htable
      rw [hset]
      exact .table hkey

/-! ## Ends of changes -/

theorem not_valueKey_of_sectionKey (h : key ∈ sectionKeys) : key ∉ valueKeys := by
  have hall : ∀ key ∈ sectionKeys, key ∉ valueKeys := by decide
  exact hall key h

theorem Edited.of_no_value {result : Except EditError Settings}
    (h : settings.Edited key raw result) (noValue : key ∉ valueKeys) :
    key ∉ sectionKeys ∧ result = .error (.unknownKey key) ∨
      key ∈ sectionKeys ∧ result = .error (.isSection key) := by
  cases h with
  | unknown _ noTable => exact .inl ⟨noTable, rfl⟩
  | table h => exact .inr ⟨h, rfl⟩
  | unread found _ _ => exact absurd (mem_valueKeys found) noValue
  | invalid found _ _ _ => exact absurd (mem_valueKeys found) noValue
  | changed found _ _ _ => exact absurd (mem_valueKeys found) noValue

theorem set_eq_unknown (writable : settings.isWritable = true) (key raw : String) :
    settings.set key raw = .error (.unknownKey key) ↔ key ∉ valueKeys ∧ key ∉ sectionKeys := by
  have hedited := set_edited writable key raw
  constructor
  · intro hset
    rw [hset] at hedited
    cases hedited with
    | unknown noValue noTable => exact ⟨noValue, noTable⟩
  · rintro ⟨noValue, noTable⟩
    rcases hedited.of_no_value noValue with ⟨-, hset⟩ | ⟨htable, -⟩
    · exact hset
    · exact absurd htable noTable

theorem set_eq_isSection (writable : settings.isWritable = true) (key raw : String) :
    settings.set key raw = .error (.isSection key) ↔ key ∈ sectionKeys := by
  have hedited := set_edited writable key raw
  constructor
  · intro hset
    rw [hset] at hedited
    cases hedited with
    | table h => exact h
  · intro htable
    rcases hedited.of_no_value (not_valueKey_of_sectionKey htable) with ⟨noTable, -⟩ | ⟨-, hset⟩
    · exact absurd htable noTable
    · exact hset

theorem set_eq_ok (writable : settings.isWritable = true) (found : (key, leaf) ∈ settings.values) :
    settings.set key raw = .ok changed ↔ ∃ value, Reads raw leaf value ∧
      Differs key value settings.values changed.values ∧ changed.validate = .ok () := by
  constructor
  · intro hset
    have hedited := set_edited writable key raw
    rw [hset] at hedited
    cases hedited with
    | changed found' reads differs valid =>
      obtain rfl := value_unique found found'
      exact ⟨_, reads, differs, valid⟩
  · rintro ⟨value, reads, differs, valid⟩
    obtain ⟨other, hdiffers, hset⟩ := set_of_reads writable found reads
    obtain rfl := hdiffers.unique differs
    rw [hset, accepted, valid]

theorem exists_mem_of_set (writable : settings.isWritable = true)
    (h : settings.set key raw = .ok changed) : ∃ leaf, (key, leaf) ∈ settings.values := by
  have hedited := set_edited writable key raw
  rw [h] at hedited
  cases hedited with
  | changed found _ _ _ => exact ⟨_, found⟩

theorem get_of_differs (writable : settings.isWritable = true)
    (writable' : changed.isWritable = true) {other : String}
    (differs : Differs key value settings.values changed.values) (h : other ∈ valueKeys)
    (ne : other ≠ key) : changed.get other = settings.get other := by
  obtain ⟨kept, hkept⟩ := exists_mem_valuesWith settings settings.selectorSearchLimit.toNat h
  rw [get_of_mem writable hkept, get_of_mem writable' ((differs.elsewhere _ ne).mpr hkept)]

/-! ## Values written back -/

theorem eq_of_float {x : Double} (h : (key, Value.float x) ∈ settings.values) :
    x = settings.utcOffsetHours := by
  rcases List.mem_append.mp h with h | h
  · simp only [List.mem_cons, Prod.mk.injEq, reduceCtorEq, and_false, List.not_mem_nil, or_false,
      false_or, Value.float.injEq] at h
    exact h.2
  · obtain ⟨_, -, hentry⟩ := List.mem_map.mp h
    cases (Prod.mk.inj hentry).2

theorem reads_display (fits : settings.selectorSearchLimit.toNat ≤ 2 ^ 63 - 1)
    (valid : settings.validate = .ok ()) (found : (key, leaf) ∈ settings.values) :
    Reads leaf.display leaf leaf := by
  rcases kind_of_mem found with ⟨text, rfl⟩ | ⟨x, rfl⟩ | rfl
  · exact .text text
  · obtain rfl := eq_of_float found
    have hdisplay : Value.display (.float settings.utcOffsetHours) =
        settings.utcOffsetHours.text Toml.floatStyle := rfl
    refine .offset _ ?_
    rw [hdisplay]
    exact Double.read_text Toml.floatStyle_isPositional (isFinite_of_valid valid)
  · refine .limit _ ?_ fits
    have hdisplay : Value.display (.integer settings.selectorSearchLimit.toNat) =
        Numeral.signed settings.selectorSearchLimit.toNat := rfl
    rw [hdisplay, Numeral.signed_toList]
    exact .natural (Numeral.writes_digits _)

/-- What is shown of a value reads as the value. -/
theorem valueLike_display (writable : settings.isWritable = true)
    (valid : settings.validate = .ok ()) (found : settings.leaf? key = some leaf) :
    valueLike key leaf.display leaf = .ok leaf := by
  obtain ⟨tree, htree, hvalue, hkind⟩ := leaf?_eq_some.mp found
  obtain rfl := Except.ok.inj ((tree_eq writable).symm.trans htree)
  have hmem : (key, leaf) ∈ settings.values := mem_of_at? hvalue hkind
  exact (reads_display (isWritable_iff.mp writable) valid hmem).valueLike key

/-! ## Two changes -/

/-- What makes one value valid does not depend on the others. -/
theorem valid_of_differs (valid : a.validate = .ok ()) (valid' : b.validate = .ok ())
    (differs : Differs key value a.values changed.values) (found : (key, value) ∈ b.values) :
    changed.validate = .ok () := by
  rw [valid_iff] at valid valid' ⊢
  rintro ⟨other, kept⟩ hmem
  by_cases hkey : other = key
  · subst hkey
    rw [value_unique hmem differs.there]
    exact valid' _ found
  · exact valid _ ((differs.elsewhere _ hkey).mp hmem)

theorem Differs.comm {key' : String} {value' : Value} {both : Settings} (ne : key ≠ key')
    (ha : Differs key value settings.values a.values)
    (hb : Differs key' value' settings.values b.values)
    (hboth : Differs key' value' a.values both.values) :
    Differs key value b.values both.values := by
  refine ⟨(hboth.elsewhere _ ne).mpr ha.there, ?_⟩
  rintro ⟨other, kept⟩ hne
  by_cases hkey : other = key'
  · subst hkey
    constructor
    · intro hmem
      rw [value_unique hmem hboth.there]
      exact hb.there
    · intro hmem
      rw [value_unique hmem hb.there]
      exact hboth.there
  · rw [hboth.elsewhere _ hkey, ha.elsewhere _ hne, hb.elsewhere _ hkey]

theorem set_comm {key' raw' : String} (writable : settings.isWritable = true) (ne : key ≠ key')
    (ha : settings.set key raw = .ok a) (hb : settings.set key' raw' = .ok b) :
    ∃ both, a.set key' raw' = .ok both ∧ b.set key raw = .ok both := by
  have hwritable := (replaces_of_set ha).writable
  have hwritable' := (replaces_of_set hb).writable
  obtain ⟨leaf, hleaf⟩ := exists_mem_of_set writable ha
  obtain ⟨leaf', hleaf'⟩ := exists_mem_of_set writable hb
  obtain ⟨value, hreads, hdiffers, hvalid⟩ := (set_eq_ok writable hleaf).mp ha
  obtain ⟨value', hreads', hdiffers', hvalid'⟩ := (set_eq_ok writable hleaf').mp hb
  have hkept' : (key', leaf') ∈ a.values := (hdiffers.elsewhere _ ne.symm).mpr hleaf'
  have hkept : (key, leaf) ∈ b.values := (hdiffers'.elsewhere _ ne).mpr hleaf
  obtain ⟨both, hboth, -⟩ := set_of_reads hwritable hkept' hreads'
  have hboth' : Differs key value b.values both.values := hdiffers.comm ne hdiffers' hboth
  have hvalidBoth : both.validate = .ok () :=
    valid_of_differs hvalid hvalid' hboth hdiffers'.there
  exact ⟨both, (set_eq_ok hwritable hkept').mpr ⟨value', hreads', hboth, hvalidBoth⟩,
    (set_eq_ok hwritable' hkept).mpr ⟨value, hreads, hboth', hvalidBoth⟩⟩

/-- Keys without a value are refused as unknown or as tables, and a value is changed exactly if the
text is one of it and the settings stay valid. A change is seen under its key alone, what is read
under a key can be written back, and two changes can be made in any order. -/
theorem set_lawful (valid : settings.validate = .ok ())
    (fits : settings.selectorSearchLimit.toNat ≤ 2 ^ 63 - 1) :
    (∀ key raw, settings.set key raw = .error (.unknownKey key) ↔
      key ∉ valueKeys ∧ key ∉ sectionKeys) ∧
    (∀ key raw, settings.set key raw = .error (.isSection key) ↔ key ∈ sectionKeys) ∧
    (∀ key ∈ valueKeys, ∃ leaf, (key, leaf) ∈ settings.values ∧ ∀ raw,
      (∀ value, Reads raw leaf value →
        ∃! changed : Settings, Differs key value settings.values changed.values) ∧
      ∀ changed, settings.set key raw = .ok changed ↔ ∃ value, Reads raw leaf value ∧
        Differs key value settings.values changed.values ∧ changed.validate = .ok ()) ∧
    (∀ key raw changed, settings.set key raw = .ok changed → changed.validate = .ok () ∧
      (∃ leaf value, (key, leaf) ∈ settings.values ∧ Reads raw leaf value ∧
        changed.get key = .ok value.display) ∧
      ∀ other ∈ valueKeys, other ≠ key → changed.get other = settings.get other) ∧
    (∀ key ∈ valueKeys,
      ∃ text, settings.get key = .ok text ∧ settings.set key text = .ok settings) ∧
    ∀ key key' raw raw' a b, key ≠ key' → settings.set key raw = .ok a →
      settings.set key' raw' = .ok b →
      ∃ both, a.set key' raw' = .ok both ∧ b.set key raw = .ok both := by
  have writable := isWritable_iff.mpr fits
  refine ⟨set_eq_unknown writable, set_eq_isSection writable, ?_, ?_, ?_, ?_⟩
  · intro key hkey
    obtain ⟨leaf, found⟩ := exists_mem_valuesWith settings _ hkey
    refine ⟨leaf, found, fun raw =>
      ⟨fun value reads => ?_, fun changed => set_eq_ok writable found⟩⟩
    obtain ⟨changed, differs, -⟩ := set_of_reads writable found reads
    exact ⟨changed, differs, fun other hother => hother.unique differs⟩
  · intro key raw changed hset
    have hwritable := (replaces_of_set hset).writable
    obtain ⟨leaf, found⟩ := exists_mem_of_set writable hset
    obtain ⟨value, reads, differs, hvalid⟩ := (set_eq_ok writable found).mp hset
    refine ⟨hvalid, ⟨leaf, value, found, reads, get_of_mem hwritable differs.there⟩, ?_⟩
    intro other hother ne
    exact get_of_differs writable hwritable differs hother ne
  · intro key hkey
    obtain ⟨leaf, found⟩ := exists_mem_valuesWith settings _ hkey
    refine ⟨leaf.display, get_of_mem writable found, ?_⟩
    exact (set_eq_ok writable found).mpr ⟨leaf, reads_display fits valid found, .refl found, valid⟩
  · intro key key' raw raw' a b ne ha hb
    exact set_comm writable ne ha hb

theorem set_lawful_at_standard :
    standard.validate = .ok () ∧ standard.selectorSearchLimit.toNat ≤ 2 ^ 63 - 1 ∧
    standard.set "contact_columns." "x" = .error (.unknownKey "contact_columns.") ∧
    standard.set "contact_columns" "x" = .error (.isSection "contact_columns") ∧
    (∃ text, standard.get "selector_search_limit" = .ok text ∧
      standard.set "selector_search_limit" text = .ok standard) ∧
    ∃ a b both, standard.set "table_prefix" "crm_" = .ok a ∧
      standard.set "selector_search_limit" "+20" = .ok b ∧
      a.get "selector_search_limit" = standard.get "selector_search_limit" ∧
      a.set "selector_search_limit" "+20" = .ok both ∧
      b.set "table_prefix" "crm_" = .ok both := by
  have hvalid : standard.validate = .ok () := by decide +kernel
  have hfits : standard.selectorSearchLimit.toNat ≤ 2 ^ 63 - 1 := by decide
  obtain ⟨hunknown, hsection, -, hchanged, hback, hcomm⟩ := set_lawful hvalid hfits
  have ha : standard.set "table_prefix" "crm_" = .ok { standard with tablePrefix := "crm_" } := by
    decide +kernel
  have hb : standard.set "selector_search_limit" "+20" =
      .ok { standard with selectorSearchLimit := 20 } := by
    decide +kernel
  obtain ⟨both, hboth, hboth'⟩ := hcomm _ _ _ _ _ _ (by decide) ha hb
  obtain ⟨-, -, hkept⟩ := hchanged _ _ _ ha
  exact ⟨hvalid, hfits, (hunknown _ _).mpr (by decide), (hsection _ _).mpr (by decide),
    hback _ (by decide), _, _, both, ha, hb, hkept _ (by decide) (by decide), hboth,
    hboth'⟩

end SegmentRules.Settings

import SegmentRules.Proofs.Numeral
import SegmentRules.Proofs.Rules.Meaning
import SegmentRules.Proofs.Text.Parts

/-! # Keys of kinds

The texts that are read as a kind are given by a grammar. A kind with a status, or with some days,
has its key among them, and the catalog knows each kind by this one text alone. -/
namespace SegmentRules

theorem Status.ofName?_eq_some {text : String} {status : Status} :
    ofName? text = some status ↔ text = status.name := by
  constructor
  · intro h
    have hname := List.find?_some h
    exact (beq_iff_eq.mp hname).symm
  · rintro rfl
    cases status <;> decide

namespace Kind

variable {text : List Char} {kind : Kind} {days : UInt32}

/-- The texts that name a kind: a status or none at all behind the first word, and a positive number
of days, with zeros or a plus sign in front if need be, behind the second. -/
inductive Named : Kind → List Char → Prop
  | any : Named (.hasSubscription none) "has_subscription_any".toList
  | status (status : Status) :
      Named (.hasSubscription (some status)) ("has_subscription_".toList ++ status.name.toList)
  | expiring {days : UInt32} {number : List Char} (positive : days ≠ 0)
      (written : Numeral.Writes number days.toNat) :
      Named (.expiringWithin days) ("subscription_expiring_".toList ++ (number ++ ['d']))

theorem days?_concat (number : List Char) :
    days? (number ++ ['d']) = some days ↔ days ≠ 0 ∧ Numeral.Writes number days.toNat := by
  have hlimit : UInt32.size - 1 < UInt32.size := by decide
  have hdays : days.toNat < UInt32.size := days.toNat_lt
  simp only [days?, List.reverse_append, List.reverse_singleton, List.singleton_append,
    List.reverse_reverse]
  cases hread : Numeral.readNatural (UInt32.size - 1) number with
  | error fault =>
    simp only [reduceCtorEq, false_iff, not_and]
    intro _ hwrites
    have hok := Numeral.readNatural_eq_ok.mpr
      ⟨hwrites, (by omega : days.toNat ≤ UInt32.size - 1)⟩
    cases hread.symm.trans hok
  | ok n =>
    obtain ⟨hwrites, hn⟩ := Numeral.readNatural_eq_ok.mp hread
    have hword : (UInt32.ofNat n).toNat = n := UInt32.toNat_ofNat_of_lt' (by omega)
    by_cases hzero : n = 0
    · simp only [hzero, if_true, reduceCtorEq, false_iff, not_and]
      intro hpositive hother
      have hsame := hwrites.unique hother
      apply hpositive
      rw [← UInt32.toNat_inj, ← hsame, hzero, UInt32.toNat_zero]
    · simp only [hzero, if_false, Option.some.injEq]
      constructor
      · rintro rfl
        refine ⟨?_, ?_⟩
        · intro h
          rw [h, UInt32.toNat_zero] at hword
          exact hzero hword.symm
        · rwa [hword]
      · rintro ⟨-, hother⟩
        rw [← UInt32.toNat_inj, hword, hwrites.unique hother]

theorem days?_eq_some : days? text = some days ↔
    days ≠ 0 ∧ ∃ number, text = number ++ ['d'] ∧ Numeral.Writes number days.toNat := by
  constructor
  · intro h
    have hend : ∃ number, text = number ++ ['d'] := by
      unfold days? at h
      split at h
      · rename_i digits hreverse
        refine ⟨digits.reverse, ?_⟩
        rw [← List.reverse_reverse text, hreverse, List.reverse_cons]
      · cases h
    obtain ⟨number, rfl⟩ := hend
    obtain ⟨hpositive, hwrites⟩ := (days?_concat number).mp h
    exact ⟨hpositive, number, rfl, hwrites⟩
  · rintro ⟨hpositive, number, rfl, hwrites⟩
    exact (days?_concat number).mpr ⟨hpositive, hwrites⟩

/-- The first words of the two families tell them apart. -/
theorem dropStart?_expiring (rest : List Char) :
    Text.dropStart? hasStart.toList (expiringStart.toList ++ rest) = none := by
  rw [Option.eq_none_iff_forall_ne_some]
  intro other h
  have hstart := congrArg (List.take 1) (Text.dropStart?_eq_some.mp h)
  have hfirst : expiringStart.toList.take 1 ≠ hasStart.toList.take 1 := by decide
  rw [List.take_append_of_le_length (by decide),
    List.take_append_of_le_length (by decide)] at hstart
  exact hfirst hstart

theorem ofKey?_has {key : String} {status : List Char}
    (h : key.toList = hasStart.toList ++ status) :
    ofKey? key = some kind ↔ (kind = .hasSubscription none ∧ status = anyStatus.toList) ∨
      ∃ s : Status, kind = .hasSubscription (some s) ∧ status = s.name.toList := by
  have hapart : ∀ s : Status, s.name ≠ anyStatus := by
    intro s
    cases s <;> decide
  have hread : ofKey? key = if String.ofList status = anyStatus then some (.hasSubscription none)
      else (Status.ofName? (String.ofList status)).map fun s => .hasSubscription (some s) := by
    rw [ofKey?, h, Text.dropStart?_append]
  have hany : String.ofList status = anyStatus ↔ status = anyStatus.toList := by
    rw [← String.toList_inj, String.toList_ofList]
  rw [hread]
  by_cases hstatus : String.ofList status = anyStatus
  · rw [if_pos hstatus]
    have hlist := hany.mp hstatus
    constructor
    · intro hkind
      exact .inl ⟨(Option.some.inj hkind).symm, hlist⟩
    · rintro (⟨rfl, -⟩ | ⟨s, -, hs⟩)
      · rfl
      · have hsame : s.name = anyStatus := String.toList_inj.mp (hs.symm.trans hlist)
        exact absurd hsame (hapart s)
  · rw [if_neg hstatus, Option.map_eq_some_iff]
    constructor
    · rintro ⟨s, hs, rfl⟩
      have hname := Status.ofName?_eq_some.mp hs
      refine .inr ⟨s, rfl, ?_⟩
      rw [← hname, String.toList_ofList]
    · rintro (⟨-, hlist⟩ | ⟨s, rfl, hs⟩)
      · exact absurd (hany.mpr hlist) hstatus
      · refine ⟨s, Status.ofName?_eq_some.mpr ?_, rfl⟩
        rw [hs, String.ofList_toList]

theorem ofKey?_expiring {key : String} {text : List Char}
    (h : key.toList = expiringStart.toList ++ text) :
    ofKey? key = some kind ↔ ∃ days, kind = .expiringWithin days ∧ days? text = some days := by
  have hread : ofKey? key = (days? text).map .expiringWithin := by
    rw [ofKey?, h, dropStart?_expiring, Text.dropStart?_append]
    rfl
  rw [hread, Option.map_eq_some_iff]
  constructor
  · rintro ⟨days, hdays, rfl⟩
    exact ⟨days, rfl, hdays⟩
  · rintro ⟨days, rfl, hdays⟩
    exact ⟨days, hdays, rfl⟩

theorem ofKey?_eq_some {key : String} : ofKey? key = some kind ↔ kind.Named key.toList := by
  constructor
  · intro h
    cases hhas : Text.dropStart? hasStart.toList key.toList with
    | some status =>
      have hkey := Text.dropStart?_eq_some.mp hhas
      rw [hkey]
      rcases (ofKey?_has hkey).mp h with ⟨rfl, rfl⟩ | ⟨s, rfl, rfl⟩
      · exact .any
      · exact .status s
    | none =>
      cases hexpiring : Text.dropStart? expiringStart.toList key.toList with
      | none =>
        rw [ofKey?, hhas, hexpiring] at h
        cases h
      | some text =>
        have hkey := Text.dropStart?_eq_some.mp hexpiring
        rw [hkey]
        obtain ⟨days, rfl, hdays⟩ := (ofKey?_expiring hkey).mp h
        obtain ⟨hpositive, number, rfl, hwrites⟩ := days?_eq_some.mp hdays
        exact .expiring hpositive hwrites
  · intro h
    generalize htext : key.toList = text at h
    cases h with
    | any =>
      have hkey : key.toList = hasStart.toList ++ anyStatus.toList := htext
      exact (ofKey?_has hkey).mpr (.inl ⟨rfl, rfl⟩)
    | status s => exact (ofKey?_has htext).mpr (.inr ⟨s, rfl, rfl⟩)
    | expiring positive written =>
      exact (ofKey?_expiring htext).mpr
        ⟨_, rfl, days?_eq_some.mpr ⟨positive, _, rfl, written⟩⟩

theorem parse_eq_ok {key : String} : parse key = .ok kind ↔ kind.Named key.toList := by
  rw [← ofKey?_eq_some, parse]
  cases ofKey? key with
  | none => simp
  | some read => simp

theorem parse_of_unnamed {key : String} (h : ¬ ∃ kind : Kind, kind.Named key.toList) :
    parse key = .error (.unknownCondition key) := by
  rw [parse]
  cases hread : ofKey? key with
  | none => rfl
  | some kind => exact absurd ⟨kind, ofKey?_eq_some.mp hread⟩ h

theorem named_key (h : kind ≠ .expiringWithin 0) : kind.Named kind.key.toList := by
  match kind with
  | .hasSubscription none => exact .any
  | .hasSubscription (some status) =>
    rw [key, String.toList_append]
    exact .status status
  | .expiringWithin days =>
    have hpositive : days ≠ 0 := by
      rintro rfl
      exact h rfl
    have hwrites := Numeral.writes_digits days.toNat
    have hkey : (expiringWithin days).key.toList =
        "subscription_expiring_".toList ++ (Numeral.digits 10 days.toNat ++ ['d']) := by
      simp [key, expiringStart, Numeral.decimal]
    rw [hkey]
    exact .expiring hpositive hwrites

theorem parse_key (h : kind ≠ .expiringWithin 0) : parse kind.key = .ok kind :=
  parse_eq_ok.mpr (named_key h)

/-- No text names zero days, so their key is no other kind's key either. -/
theorem parse_key_zero (kind : Kind) : parse (expiringWithin 0).key ≠ .ok kind := by
  intro h
  have hnone : ofKey? (expiringWithin 0).key = none := by decide +kernel
  rw [ofKey?_eq_some.mpr (parse_eq_ok.mp h)] at hnone
  cases hnone

theorem key_inj {a b : Kind} : a.key = b.key ↔ a = b := by
  constructor
  · intro h
    by_cases ha : a = .expiringWithin 0
    · by_cases hb : b = .expiringWithin 0
      · rw [ha, hb]
      · rw [ha] at h
        exact absurd (h ▸ parse_key hb) (parse_key_zero b)
    · by_cases hb : b = .expiringWithin 0
      · rw [hb] at h
        exact absurd (h ▸ parse_key ha) (parse_key_zero a)
      · have hparse := parse_key ha
        rw [h, parse_key hb] at hparse
        exact (Except.ok.inj hparse).symm
  · rintro rfl
    rfl

/-! ## The catalog -/

theorem offered_iff (enabled : Bool) :
    (∃ entry, Catalog.entry? (Catalog.withGate enabled) kind = some entry) ↔
      kind ∈ Catalog.kinds := by
  rw [← Option.isSome_iff_exists, Catalog.entry?, List.find?_isSome]
  simp [Catalog.withGate]

theorem ne_zero_of_listed : ∀ kind ∈ Catalog.kinds, kind ≠ expiringWithin 0 := by
  decide

/-- Keys and kinds denote each other: a kind with a positive number of days is read back from its
key, no two kinds share one, and a text that the grammar does not know is reported as it stands. The
catalog finds an entry under the key of a listed kind and under no other text that names this
kind. -/
theorem keys_faithful (text : String) :
    (∀ kind : Kind, kind ≠ .expiringWithin 0 → parse kind.key = .ok kind) ∧
    (∀ a b : Kind, a ≠ b → a.key ≠ b.key) ∧
    (∀ kind, parse text = .ok kind ↔ kind.Named text.toList) ∧
    ((¬ ∃ kind : Kind, kind.Named text.toList) → parse text = .error (.unknownCondition text)) ∧
    ∀ enabled,
      ((∃ entry, (Catalog.withGate enabled).get? text = some entry) ↔
        ∃ kind, parse text = .ok kind ∧
          (∃ entry, Catalog.entry? (Catalog.withGate enabled) kind = some entry) ∧
          text = kind.key) ∧
      ∀ entry, (Catalog.withGate enabled).get? text = some entry →
        parse text = .ok entry.kind ∧ text = entry.kind.key := by
  refine ⟨?_, ?_, fun kind => parse_eq_ok, parse_of_unnamed, fun enabled => ?_⟩
  · intro kind h
    exact parse_key h
  · intro a b hne hkey
    exact hne (key_inj.mp hkey)
  rcases Catalog.get?_withGate enabled text with ⟨hget, hunlisted⟩ | ⟨kind, hkind, rfl, hget⟩
  · constructor
    · constructor
      · rintro ⟨entry, hentry⟩
        cases hget.symm.trans hentry
      · rintro ⟨kind, -, hentry, rfl⟩
        exact absurd ⟨kind, (offered_iff enabled).mp hentry, rfl⟩ hunlisted
    · intro entry hentry
      cases hget.symm.trans hentry
  · have hparse := parse_key (ne_zero_of_listed kind hkind)
    constructor
    · constructor
      · intro _
        exact ⟨kind, hparse, (offered_iff enabled).mpr hkind, rfl⟩
      · intro _
        exact ⟨_, hget⟩
    · intro entry hentry
      obtain rfl := Option.some.inj (hget.symm.trans hentry)
      exact ⟨hparse, rfl⟩

/-- Days with a plus sign and zeros name a listed kind, though not by its key. -/
theorem keys_faithful_of_loose : expiringWithin 30 ≠ expiringWithin 0 ∧
    parse (expiringWithin 30).key = .ok (.expiringWithin 30) ∧
    parse "subscription_expiring_+0030d" = .ok (.expiringWithin 30) ∧
    ¬ ∃ entry, (Catalog.withGate true).get? "subscription_expiring_+0030d" = some entry := by
  obtain ⟨hkeys, -, hnamed, -, hcatalog⟩ := keys_faithful "subscription_expiring_+0030d"
  have hdigits : ∀ c ∈ ['0', '0', '3', '0'], Numeral.isDigit c = true :=
    List.all_eq_true.mp (by decide)
  have hwrites : Numeral.Writes ['+', '0', '0', '3', '0'] (30 : UInt32).toNat :=
    ⟨_, .inr rfl, by simp, hdigits, by decide +kernel⟩
  have hread : parse "subscription_expiring_+0030d" = .ok (.expiringWithin 30) :=
    (hnamed _).mpr (.expiring (by decide) hwrites)
  refine ⟨by decide, hkeys _ (by decide), hread, ?_⟩
  intro hentry
  obtain ⟨kind, hparse, -, hkey⟩ := (hcatalog true).1.mp hentry
  obtain rfl := Except.ok.inj (hread.symm.trans hparse)
  exact absurd hkey (by decide +kernel)

end Kind
end SegmentRules

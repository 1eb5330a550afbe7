import Mathlib.Data.List.Forall2
import Mathlib.Logic.Relation
import SegmentRules.Proofs.Commerce.Recorder
import SegmentRules.Proofs.Rules.Run
import SegmentRules.Settings.Basic

/-! # The customer a contact stands for

A store may return any rows for a lookup: some without a key of the contact, some with the same id
or the same email, in any order. -/
namespace SegmentRules

open Commerce (Customer CustomerLookup FixedStore Predicate Recorder Store)

namespace Membership

/-- One character, or a capital letter of ASCII and its small one. -/
inductive SameLetter : Char → Char → Prop
  | same (c : Char) : SameLetter c c
  | small {c d : Char} (capital : 'A' ≤ c ∧ c ≤ 'Z') (h : d.toNat = c.toNat + 32) : SameLetter c d
  | capital {c d : Char} (capital : 'A' ≤ d ∧ d ≤ 'Z') (h : c.toNat = d.toNat + 32) :
      SameLetter c d

def SameText (a b : String) : Prop := List.Forall₂ SameLetter a.toList b.toList

/-- The row has the account id of the contact, and this identifies someone. -/
def Owns (contact : Contact) (row : Customer) : Prop :=
  IsAccount contact.account ∧ row.account = contact.account

def SharesEmail (contact : Contact) (row : Customer) : Prop :=
  ∃ email text, contact.email = some email ∧ email ≠ "" ∧ row.email = some text ∧
    SameText text email

/-- The row is of somebody else who has the contact's email. -/
def Rivals (contact : Contact) (picked row : Customer) : Prop :=
  row.id ≠ picked.id ∧ SharesEmail contact row

def First (P : Customer → Prop) (rows : List Customer) (row : Customer) : Prop :=
  ∃ before behind, rows = before ++ row :: behind ∧ P row ∧ ∀ other ∈ before, ¬ P other

/-- The row for a contact: the first one with its account, or the first of all if none has it. -/
inductive StandsFor (contact : Contact) : List Customer → Customer → Prop
  | owner {rows : List Customer} {row : Customer} (first : First (Owns contact) rows row) :
      StandsFor contact rows row
  | head {row : Customer} {behind : List Customer}
      (unowned : ∀ other ∈ row :: behind, ¬ Owns contact other) :
      StandsFor contact (row :: behind) row

/-- A finding beside the picked row: it is there if the account decided against somebody else's
email, and it names the picked row and the first of its rivals. -/
structure Reports (contact : Contact) (rows : List Customer) (picked : Customer)
    (finding : Option RuleError) : Prop where
  reported : finding.isSome = true ↔
    (∃ row ∈ rows, Owns contact row) ∧ ∃ row ∈ rows, Rivals contact picked row
  named : ∀ error, finding = some error → ∃ rival, First (Rivals contact picked) rows rival ∧
    picked.id ≠ rival.id ∧ error = .ambiguousAccount picked.id rival.id

/-- One row that has neither the account nor the email of the contact gets another place among the
others. -/
inductive Move (contact : Contact) : List Customer → List Customer → Prop
  | row {row : Customer} (noOwner : ¬ Owns contact row) (noEmail : ¬ SharesEmail contact row)
      {before behind before' behind' : List Customer}
      (others : before ++ behind = before' ++ behind') :
      Move contact (before ++ row :: behind) (before' ++ row :: behind')

variable {contact : Contact} {rows rows' : List Customer} {picked row other : Customer}
  {finding : Option RuleError}

/-! ## Emails -/

theorem capital_iff {c : Char} : ('A' ≤ c ∧ c ≤ 'Z') ↔ 65 ≤ c.toNat ∧ c.toNat ≤ 90 := by
  simp only [Char.le_def, UInt32.le_iff_toNat_le]
  rfl

theorem toLower_toNat (c : Char) :
    c.toLower.toNat = if 'A' ≤ c ∧ c ≤ 'Z' then c.toNat + 32 else c.toNat := by
  by_cases hcapital : 'A' ≤ c ∧ c ≤ 'Z'
  · have hlast : c.val.toNat ≤ 90 := (capital_iff.mp hcapital).2
    have hvals : c.val ≥ 'A'.val ∧ c.val ≤ 'Z'.val := hcapital
    have hlower : c.toLower.val = c.val + ('a'.val - 'A'.val) := congrArg Char.val (dif_pos hvals)
    have hstep : ('a'.val - 'A'.val).toNat = 32 := by decide
    calc c.toLower.toNat = (c.val + ('a'.val - 'A'.val)).toNat := congrArg UInt32.toNat hlower
      _ = c.val.toNat + 32 := by rw [UInt32.toNat_add, hstep]; omega
      _ = if 'A' ≤ c ∧ c ≤ 'Z' then c.toNat + 32 else c.toNat := (if_pos hcapital).symm
  · have hlower : c.toLower = c := dif_neg hcapital
    rw [if_neg hcapital, hlower]

theorem toLower_eq_iff {c d : Char} : c.toLower = d.toLower ↔ SameLetter c d := by
  rw [← Char.toNat_inj, toLower_toNat, toLower_toNat]
  constructor
  · intro h
    by_cases hc : 'A' ≤ c ∧ c ≤ 'Z'
    · by_cases hd : 'A' ≤ d ∧ d ≤ 'Z'
      · rw [if_pos hc, if_pos hd, Nat.add_right_cancel_iff, Char.toNat_inj] at h
        exact h ▸ .same c
      · rw [if_pos hc, if_neg hd] at h
        exact .small hc h.symm
    · by_cases hd : 'A' ≤ d ∧ d ≤ 'Z'
      · rw [if_neg hc, if_pos hd] at h
        exact .capital hd h
      · rw [if_neg hc, if_neg hd, Char.toNat_inj] at h
        exact h ▸ .same c
  · intro h
    cases h with
    | same => rfl
    | small hc h =>
      have hd : ¬ ('A' ≤ d ∧ d ≤ 'Z') := by
        rw [capital_iff] at hc ⊢
        omega
      rw [if_pos hc, if_neg hd, h]
    | capital hd h =>
      have hc : ¬ ('A' ≤ c ∧ c ≤ 'Z') := by
        rw [capital_iff] at hd ⊢
        omega
      rw [if_neg hc, if_pos hd, h]

theorem sameIgnoringCase_iff {a b : String} : sameIgnoringCase a b = true ↔ SameText a b := by
  have hletters : (fun c d : Char => c.toLower = d.toLower) = SameLetter := by
    funext c d
    exact propext toLower_eq_iff
  rw [sameIgnoringCase, beq_iff_eq, ← List.forall₂_eq_eq_eq, List.forall₂_map_left_iff,
    List.forall₂_map_right_iff, hletters, SameText]

/-! ## Searches -/

theorem find?_eq_some_first {p : Customer → Bool} {P : Customer → Prop}
    (h : ∀ row, p row = true ↔ P row) : rows.find? p = some row ↔ First P rows row := by
  rw [List.find?_eq_some_iff_append, First]
  constructor
  · rintro ⟨hrow, before, behind, hrows, hbefore⟩
    refine ⟨before, behind, hrows, (h row).mp hrow, fun other hmem hother => ?_⟩
    simpa [(h other).mpr hother] using hbefore other hmem
  · rintro ⟨before, behind, hrows, hrow, hbefore⟩
    refine ⟨(h row).mpr hrow, before, behind, hrows, fun other hmem => ?_⟩
    simpa [← h] using hbefore other hmem

theorem First.unique {P : Customer → Prop} (h : First P rows row) (h' : First P rows other) :
    row = other := by
  classical
  have hfind := (find?_eq_some_first fun row => decide_eq_true_iff (p := P row)).mpr h
  have hfind' := (find?_eq_some_first fun row => decide_eq_true_iff (p := P row)).mpr h'
  exact Option.some.inj (hfind.symm.trans hfind')

theorem First.mem {P : Customer → Prop} (h : First P rows row) : row ∈ rows ∧ P row := by
  obtain ⟨before, behind, rfl, hrow, -⟩ := h
  exact ⟨by simp, hrow⟩

theorem not_isAccount (h : contact.linkedAccount = .none) : ¬ IsAccount contact.account := by
  rw [← linkedAccount?_isSome, ← Contact.linkedAccount, h]
  exact Bool.false_ne_true

theorem not_isEmail (h : contact.linkedEmail = .none) : ¬ IsEmail contact.email := by
  rw [← linkedEmail?_isSome, ← Contact.linkedEmail, h]
  exact Bool.false_ne_true

section Search

variable {α : Type} {key : Option α} {finds : α → Customer → Bool} {P : Customer → Prop}

def search (key : Option α) (finds : α → Customer → Bool) (rows : List Customer) :
    Option Customer :=
  key.bind fun k => rows.find? (finds k)

/-- The rows that a key finds are those with a property, which no row has without the key. -/
structure Searches (key : Option α) (finds : α → Customer → Bool) (P : Customer → Prop) : Prop where
  found : ∀ k, key = some k → ∀ row, finds k row = true ↔ P row
  absent : key = .none → ∀ row, ¬ P row

theorem Searches.eq_some (h : Searches key finds P) :
    search key finds rows = some row ↔ First P rows row := by
  rw [search]
  cases hkey : key with
  | none =>
    simp only [Option.bind_none, reduceCtorEq, false_iff]
    intro hfirst
    exact h.absent hkey row hfirst.mem.2
  | some k => exact find?_eq_some_first (h.found k hkey)

theorem Searches.eq_none (h : Searches key finds P) :
    search key finds rows = .none ↔ ∀ row ∈ rows, ¬ P row := by
  rw [search]
  cases hkey : key with
  | none =>
    simp only [Option.bind_none, true_iff]
    intro row _
    exact h.absent hkey row
  | some k => simp only [Option.bind_some, List.find?_eq_none, h.found k hkey]

/-- A search for rows that concern the contact does not see where the other ones are. -/
theorem Searches.eq_of_move (h : Searches key finds P)
    (concerned : ∀ row, P row → Owns contact row ∨ SharesEmail contact row)
    (move : Move contact rows rows') : search key finds rows = search key finds rows' := by
  rw [search, search]
  cases hkey : key with
  | none => rfl
  | some k =>
    obtain @⟨row, noOwner, noEmail, before, behind, before', behind', others⟩ := move
    have hrow : ¬ finds k row = true := fun hfinds =>
      (concerned row ((h.found k hkey row).mp hfinds)).elim noOwner noEmail
    rw [Option.bind_some, Option.bind_some, List.find?_append, List.find?_cons_of_neg hrow,
      List.find?_append, List.find?_cons_of_neg hrow, ← List.find?_append, ← List.find?_append,
      others]

end Search

theorem searches_owner (contact : Contact) :
    Searches contact.linkedAccount hasAccount (Owns contact) where
  found account h row := by
    obtain ⟨id, hid, positive, rfl⟩ := linkedAccount?_eq_some.mp h
    simp only [hasAccount, Option.any_eq_true, beq_iff_eq, toInt_eq_toUInt64_iff positive, Owns,
      hid]
    constructor
    · rintro ⟨_, hrow, rfl⟩
      exact ⟨⟨_, rfl, positive⟩, hrow⟩
    · rintro ⟨-, hrow⟩
      exact ⟨id, hrow, rfl⟩
  absent h row howns := not_isAccount h howns.1

def findsRival (picked : Customer) (email : String) (row : Customer) : Bool :=
  row.id != picked.id && row.email.any (sameIgnoringCase · email)

theorem searches_rival (contact : Contact) (picked : Customer) :
    Searches contact.linkedEmail (findsRival picked) (Rivals contact picked) where
  found email h row := by
    obtain ⟨hemail, hne⟩ := linkedEmail?_eq_some.mp h
    simp only [findsRival, Bool.and_eq_true, bne_iff_ne, Option.any_eq_true, sameIgnoringCase_iff,
      Rivals, SharesEmail]
    refine and_congr_right fun _ => ?_
    constructor
    · rintro ⟨text, hrow, hsame⟩
      exact ⟨email, text, hemail, hne, hrow, hsame⟩
    · rintro ⟨email', text, hemail', -, hrow, hsame⟩
      obtain rfl : email = email' := Option.some.inj (hemail.symm.trans hemail')
      exact ⟨text, hrow, hsame⟩
  absent h row := by
    rintro ⟨-, email, text, hemail, hne, -⟩
    exact not_isEmail h ⟨email, hemail, hne⟩

/-! ## Picking -/

theorem pick?_eq (contact : Contact) (rows : List Customer) :
    pick? contact rows = match search contact.linkedAccount hasAccount rows with
      | some picked =>
        some (picked.id, (search contact.linkedEmail (findsRival picked) rows).map fun rival =>
          .ambiguousAccount picked.id rival.id)
      | .none => rows.head?.map fun customer => (customer.id, .none) := rfl

theorem StandsFor.unique (h : StandsFor contact rows row) (h' : StandsFor contact rows other) :
    row = other := by
  cases h with
  | owner first =>
    cases h' with
    | owner first' => exact first.unique first'
    | head unowned => exact absurd first.mem.2 (unowned _ first.mem.1)
  | head unowned =>
    cases h' with
    | owner first' => exact absurd first'.mem.2 (unowned _ first'.mem.1)
    | head unowned' => rfl

theorem reports_of_owner (first : First (Owns contact) rows picked) :
    Reports contact rows picked ((search contact.linkedEmail (findsRival picked) rows).map
      fun rival => .ambiguousAccount picked.id rival.id) := by
  have hsearch := searches_rival contact picked
  constructor
  · rw [Option.isSome_map]
    constructor
    · intro hsome
      obtain ⟨rival, hrival⟩ := Option.isSome_iff_exists.mp hsome
      have hfirst := hsearch.eq_some.mp hrival
      exact ⟨⟨picked, first.mem⟩, rival, hfirst.mem⟩
    · rintro ⟨-, row, hmem, hrow⟩
      rw [Option.isSome_iff_ne_none]
      intro hnone
      exact hsearch.eq_none.mp hnone row hmem hrow
  · intro error herror
    obtain ⟨rival, hrival, rfl⟩ := Option.map_eq_some_iff.mp herror
    have hfirst := hsearch.eq_some.mp hrival
    exact ⟨rival, hfirst, hfirst.mem.2.1.symm, rfl⟩

theorem reports_of_unowned (unowned : ∀ row ∈ rows, ¬ Owns contact row) (picked : Customer) :
    Reports contact rows picked .none := by
  constructor
  · simp only [Option.isSome_none, Bool.false_eq_true, false_iff, not_and]
    rintro ⟨row, hmem, howns⟩
    exact absurd howns (unowned row hmem)
  · intro error herror
    cases herror

/-- Among some rows one is picked, with a finding if the email is somebody else's. -/
theorem exists_pick? (contact : Contact) (nonempty : rows ≠ []) :
    ∃ picked finding, pick? contact rows = some (picked.id, finding) ∧
      StandsFor contact rows picked ∧ Reports contact rows picked finding := by
  cases howner : search contact.linkedAccount hasAccount rows with
  | some picked =>
    have hfirst := (searches_owner contact).eq_some.mp howner
    exact ⟨picked, _, by rw [pick?_eq, howner], .owner hfirst, reports_of_owner hfirst⟩
  | none =>
    have hunowned := (searches_owner contact).eq_none.mp howner
    obtain ⟨first, rest, rfl⟩ := List.exists_cons_of_ne_nil nonempty
    exact ⟨first, .none, by rw [pick?_eq, howner]; rfl, .head hunowned,
      reports_of_unowned hunowned first⟩

/-! ## Rows in other places -/

theorem Move.pick? (move : Move contact rows rows') (owned : ∃ row ∈ rows, Owns contact row) :
    Membership.pick? contact rows = Membership.pick? contact rows' := by
  have hsame := (searches_owner contact).eq_of_move (fun row h => .inl h) move
  rw [pick?_eq, pick?_eq, ← hsame]
  cases howner : search contact.linkedAccount hasAccount rows with
  | none =>
    obtain ⟨row, hmem, howns⟩ := owned
    exact absurd howns ((searches_owner contact).eq_none.mp howner row hmem)
  | some picked =>
    simp only [(searches_rival contact picked).eq_of_move (fun row h => .inr h.2) move]

theorem Move.perm (move : Move contact rows rows') : rows.Perm rows' := by
  obtain @⟨row, -, -, before, behind, before', behind', others⟩ := move
  calc (before ++ row :: behind).Perm (row :: (before ++ behind)) := List.perm_middle
    _ = row :: (before' ++ behind') := by rw [others]
    List.Perm _ (before' ++ row :: behind') := List.perm_middle.symm

theorem pick?_of_moves (moves : Relation.ReflTransGen (Move contact) rows rows')
    (owned : ∃ row ∈ rows, Owns contact row) : pick? contact rows = pick? contact rows' := by
  induction moves using Relation.ReflTransGen.head_induction_on with
  | refl => rfl
  | head move _ ih =>
    obtain ⟨row, hmem, howns⟩ := owned
    exact (move.pick? ⟨row, hmem, howns⟩).trans (ih ⟨row, move.perm.subset hmem, howns⟩)

/-! ## Checks -/

def answered (finding : Option RuleError) : Except StoreError Bool → Except RuleError Membership
  | .error error => .error (.lookupFailed error)
  | .ok isMember => .ok ⟨isMember, finding⟩

/-- Stores that know of the same members, whatever else they hold. -/
def SameAnswers {σ τ : Type} [Store σ] [Store τ] (store : σ) (store' : τ) : Prop :=
  ∀ query, (Store.hasSubscription query store).1 = (Store.hasSubscription query store').1

section

variable {σ τ : Type} [Store σ] [Store τ] {schema : Schema} {predicate : Predicate}
  {lookup : CustomerLookup} {store found after : σ} {store' found' : τ}

theorem check_unidentified (schema : Schema) (predicate : Predicate) (store : σ)
    (account : ¬ IsAccount contact.account) (email : ¬ IsEmail contact.email) :
    check schema contact predicate (Recorder.new store) = (.ok none, ⟨store, []⟩) := by
  simp [check, lookup_of_unidentified schema account email, Recorder.new]

theorem exists_lookup (schema : Schema)
    (identified : IsAccount contact.account ∨ IsEmail contact.email) :
    ∃ lookup, CustomerLookup.new? schema contact.linkedAccount contact.linkedEmail = some lookup ∧
      lookup.account = contact.linkedAccount ∧ lookup.email = contact.linkedEmail := by
  rcases lookup_cases schema contact.linkedAccount contact.linkedEmail with
    ⟨haccount, hemail, -⟩ | hlookup
  · rcases identified with h | h
    · exact absurd h (not_isAccount haccount)
    · exact absurd h (not_isEmail hemail)
  · exact hlookup

variable (hlookup : CustomerLookup.new? schema contact.linkedAccount contact.linkedEmail =
  some lookup)

include hlookup

theorem check_unknown (answer : Store.customers lookup store = (.ok [], found)) :
    check schema contact predicate (Recorder.new store) =
      (.ok none, ⟨found, [.customers lookup (.ok [])]⟩) := by
  simp [check, hlookup, Store.customers, Recorder.new, answer, pick?_nil]

theorem check_picked (answer : Store.customers lookup store = (.ok rows, found))
    (pick : pick? contact rows = some (picked.id, finding)) {isMember : Except StoreError Bool}
    (asked : Store.hasSubscription (.new schema picked.id predicate) found = (isMember, after)) :
    check schema contact predicate (Recorder.new store) = (answered finding isMember,
      ⟨after, [.customers lookup (.ok rows),
        .hasSubscription (.new schema picked.id predicate) isMember]⟩) := by
  cases isMember with
  | error error =>
    simp [check, hlookup, Store.customers, Store.hasSubscription, Recorder.new, answer, pick, asked,
      answered]
  | ok isMember =>
    simp [check, hlookup, Store.customers, Store.hasSubscription, Recorder.new, answer, pick, asked,
      answered]

theorem check_moved (answer : Store.customers lookup store = (.ok rows, found))
    (answer' : Store.customers lookup store' = (.ok rows', found'))
    (same : SameAnswers found found') (owned : ∃ row ∈ rows, Owns contact row)
    (moves : Relation.ReflTransGen (Move contact) rows rows') :
    (check schema contact predicate store).1 = (check schema contact predicate store').1 := by
  obtain ⟨row, hmem, -⟩ := id owned
  obtain ⟨picked, finding, hpick, -, -⟩ := exists_pick? contact (List.ne_nil_of_mem hmem)
  have hpick' := (pick?_of_moves moves owned).symm.trans hpick
  have hmember := same (.new schema picked.id predicate)
  rcases hasked : Store.hasSubscription (.new schema picked.id predicate) found with
    ⟨isMember, after⟩
  rcases hasked' : Store.hasSubscription (.new schema picked.id predicate) found' with
    ⟨isMember', after'⟩
  obtain rfl : isMember = isMember' := by rwa [hasked, hasked'] at hmember
  cases isMember with
  | error error => simp [check, hlookup, answer, answer', hpick, hpick', hasked, hasked']
  | ok isMember => simp [check, hlookup, answer, answer', hpick, hpick', hasked, hasked']

end

/-- Who has no identity is nobody's member, without a question, and so is who is found nowhere. For
everyone else exactly one customer is asked about, who is the first with the contact's account or
the first at all; another one with the email is reported beside an owner of the account. Where an
account decides, rows that neither have it nor the email can stand anywhere. -/
theorem customer_resolution {σ τ : Type} [Store σ] [Store τ] (schema : Schema) (contact : Contact)
    (predicate : Predicate) (store : σ) :
    (¬ IsAccount contact.account ∧ ¬ IsEmail contact.email →
      check schema contact predicate (Recorder.new store) = (.ok none, ⟨store, []⟩)) ∧
    (IsAccount contact.account ∨ IsEmail contact.email →
      ∃ lookup, CustomerLookup.new? schema contact.linkedAccount contact.linkedEmail = some lookup ∧
        lookup.account = contact.linkedAccount ∧ lookup.email = contact.linkedEmail ∧
        (∀ found, Store.customers lookup store = (.ok [], found) →
          check schema contact predicate (Recorder.new store) =
            (.ok none, ⟨found, [.customers lookup (.ok [])]⟩)) ∧
        ∀ rows found, rows ≠ [] → Store.customers lookup store = (.ok rows, found) →
          (∃ picked finding, (∀ row, StandsFor contact rows row ↔ row = picked) ∧
            Reports contact rows picked finding ∧
            ∀ isMember after, Store.hasSubscription (.new schema picked.id predicate) found =
                (isMember, after) →
              check schema contact predicate (Recorder.new store) = (answered finding isMember,
                ⟨after, [.customers lookup (.ok rows),
                  .hasSubscription (.new schema picked.id predicate) isMember]⟩)) ∧
          ((∃ row ∈ rows, Owns contact row) → ∀ rows' (store' found' : τ),
            Relation.ReflTransGen (Move contact) rows rows' →
            Store.customers lookup store' = (.ok rows', found') → SameAnswers found found' →
            (check schema contact predicate store).1 =
              (check schema contact predicate store').1)) := by
  constructor
  · rintro ⟨account, email⟩
    exact check_unidentified schema predicate store account email
  intro identified
  obtain ⟨lookup, hlookup, haccount, hemail⟩ := exists_lookup schema identified
  refine ⟨lookup, hlookup, haccount, hemail, fun found answer => check_unknown hlookup answer, ?_⟩
  intro rows found nonempty answer
  constructor
  · obtain ⟨picked, finding, hpick, hstands, hreports⟩ := exists_pick? contact nonempty
    refine ⟨picked, finding, fun row => ⟨fun h => h.unique hstands, ?_⟩, hreports, ?_⟩
    · rintro rfl
      exact hstands
    · intro isMember after asked
      exact check_picked hlookup answer hpick asked
  · intro owned rows' store' found' moves answer' same
    exact check_moved hlookup answer answer' same owned moves

/-- Somebody whose email is also that of a customer without an account. -/
def doubted : Contact := ⟨9, some 7, some "bob@example.com"⟩

def doubtedOwner : Customer := ⟨5, some 7, .none⟩

def doubtedRival : Customer := ⟨3, .none, some "Bob@Example.com"⟩

/-- The email once more, under the owner's id. -/
def doubtedAgain : Customer := ⟨5, .none, some "bob@example.com"⟩

def doubtedRows : List Customer := [doubtedRival, doubtedOwner, doubtedAgain]

def stranger : Customer := ⟨4, some (-7), some "eve@example.com"⟩

def nobody : Contact := ⟨8, some 0, some ""⟩

def boughtOnce : Predicate := ⟨[⟨42, .none⟩], [], .none⟩

theorem doubted_rival_first : First (Rivals doubted doubtedOwner) (doubtedRows ++ [stranger])
    doubtedRival := by
  have hsame : SameText "Bob@Example.com" "bob@example.com" :=
    sameIgnoringCase_iff.mp (by decide +kernel)
  have hemail : SharesEmail doubted doubtedRival :=
    ⟨"bob@example.com", "Bob@Example.com", rfl, by decide, rfl, hsame⟩
  refine ⟨[], [doubtedOwner, doubtedAgain, stranger], rfl, ⟨by decide, hemail⟩, ?_⟩
  intro other hmem
  cases hmem

theorem doubted_standsFor : StandsFor doubted (doubtedRows ++ [stranger]) doubtedOwner := by
  have howns : Owns doubted doubtedOwner := ⟨⟨7, rfl, by decide⟩, rfl⟩
  refine .owner ⟨[doubtedRival], [doubtedAgain, stranger], rfl, howns, ?_⟩
  intro other hmem howns
  obtain rfl := List.mem_singleton.mp hmem
  exact absurd howns.2 (by decide)

theorem stranger_moves :
    Relation.ReflTransGen (Move doubted) (doubtedRows ++ [stranger]) (stranger :: doubtedRows) := by
  have hothers : doubtedRows ++ [] = [] ++ doubtedRows := rfl
  refine .single (.row ?_ ?_ hothers)
  · rintro ⟨-, haccount⟩
    exact absurd haccount (by decide)
  · rintro ⟨email, text, hemail, -, htext, hsame⟩
    obtain rfl : "bob@example.com" = email := Option.some.inj hemail
    obtain rfl : "eve@example.com" = text := Option.some.inj htext
    exact absurd (sameIgnoringCase_iff.mpr hsame) (by decide +kernel)

theorem customer_resolution_of_doubted :
    (¬ IsAccount nobody.account ∧ ¬ IsEmail nobody.email ∧
      check Settings.standard.schema nobody boughtOnce (Recorder.new (FixedStore.mk [] [])) =
        (.ok none, ⟨⟨[], []⟩, []⟩)) ∧
    ∃ lookup, lookup.account = some 7 ∧ lookup.email = some "bob@example.com" ∧
      check Settings.standard.schema doubted boughtOnce
          (Recorder.new (FixedStore.mk (doubtedRows ++ [stranger]) [5])) =
        (.ok ⟨true, some (.ambiguousAccount 5 3)⟩, ⟨⟨doubtedRows ++ [stranger], [5]⟩,
          [.customers lookup (.ok (doubtedRows ++ [stranger])),
            .hasSubscription (.new Settings.standard.schema 5 boughtOnce) (.ok true)]⟩) ∧
      (check Settings.standard.schema doubted boughtOnce
          (FixedStore.mk (doubtedRows ++ [stranger]) [5])).1 =
        (check Settings.standard.schema doubted boughtOnce
          (FixedStore.mk (stranger :: doubtedRows) [5])).1 := by
  have hnobody : ¬ IsAccount nobody.account ∧ ¬ IsEmail nobody.email := by
    constructor
    · rintro ⟨id, hid, positive⟩
      obtain rfl : 0 = id := Option.some.inj hid
      exact absurd positive (by decide)
    · rintro ⟨text, htext, hne⟩
      exact hne (Option.some.inj htext).symm
  obtain ⟨hunidentified, -⟩ := customer_resolution (τ := FixedStore) Settings.standard.schema nobody
    boughtOnce (FixedStore.mk [] [])
  obtain ⟨-, hidentified⟩ := customer_resolution (τ := FixedStore) Settings.standard.schema doubted
    boughtOnce (FixedStore.mk (doubtedRows ++ [stranger]) [5])
  refine ⟨⟨hnobody.1, hnobody.2, hunidentified hnobody⟩, ?_⟩
  obtain ⟨lookup, -, haccount, hemail, -, hrows⟩ := hidentified (.inl ⟨7, rfl, by decide⟩)
  obtain ⟨⟨picked, finding, hpicked, hreports, hcheck⟩, hmoved⟩ :=
    hrows _ _ (List.cons_ne_nil _ _) rfl
  obtain rfl := (hpicked _).mp doubted_standsFor
  have howned : ∃ row ∈ doubtedRows ++ [stranger], Owns doubted row :=
    ⟨doubtedOwner, by simp [doubtedRows], ⟨7, rfl, by decide⟩, rfl⟩
  have hfinding : finding = some (.ambiguousAccount 5 3) := by
    have hsome := hreports.reported.mpr ⟨howned, doubtedRival, doubted_rival_first.mem⟩
    obtain ⟨error, rfl⟩ := Option.isSome_iff_exists.mp hsome
    obtain ⟨rival, hfirst, -, rfl⟩ := hreports.named error rfl
    obtain rfl := hfirst.unique doubted_rival_first
    rfl
  subst hfinding
  exact ⟨lookup, haccount, hemail, hcheck _ _ rfl,
    hmoved howned _ _ _ stranger_moves rfl fun query => rfl⟩

end Membership
end SegmentRules

import Mathlib.Data.List.TakeWhile
import SegmentRules.Proofs.Toml.Document
import SegmentRules.Proofs.Toml.Quoted

/-! # Documents are read back

A document of values and of tables one level deep, under distinct keys without quotes, is read line
by line as the table it was written from. -/
namespace SegmentRules.Toml

/-! ## Keys -/

/-- A key that is written without quotes. -/
structure IsBare (key : String) : Prop where
  filled : key.toList ≠ []
  chars : ∀ c ∈ key.toList, isBareKeyChar c = true

instance (key : String) : Decidable (IsBare key) :=
  decidable_of_iff (key.toList ≠ [] ∧ key.toList.all isBareKeyChar = true)
    ⟨fun h => ⟨h.1, List.all_eq_true.mp h.2⟩, fun h => ⟨h.filled, List.all_eq_true.mpr h.chars⟩⟩

theorem keyText_of_isBare {key : String} (h : IsBare key) : keyText key = key := by
  have hfilled : key ≠ "" := by
    rintro rfl
    exact h.filled rfl
  rw [keyText, if_pos]
  simp [hfilled, List.all_eq_true.mpr h.chars]

theorem isBlank_of_isBareKeyChar {c : Char} (h : isBareKeyChar c = true) : isBlank c = false := by
  have hspace : c ≠ ' ' := ne_of_class h rfl
  have htab : c ≠ '\t' := ne_of_class h rfl
  simp [isBlank, hspace, htab]

theorem IsBare.exists_cons {key : String} (h : IsBare key) :
    ∃ c rest, key.toList = c :: rest ∧ isBareKeyChar c = true := by
  obtain ⟨c, rest, hkey⟩ := List.exists_cons_of_ne_nil h.filled
  exact ⟨c, rest, hkey, h.chars c (hkey ▸ List.mem_cons_self)⟩

theorem skipBlanks_cons {c : Char} (h : isBlank c = false) (rest : List Char) :
    skipBlanks (c :: rest) = c :: rest :=
  List.dropWhile_cons_of_neg (by simp [h])

theorem keyPart?_of_isBare {key : String} (h : IsBare key) {c : Char}
    (stop : isBareKeyChar c = false) (rest : List Char) :
    keyPart? (key.toList ++ c :: rest) = some (key, c :: rest) := by
  obtain ⟨first, behind, hkey, hfirst⟩ := h.exists_cons
  have htake : (key.toList ++ c :: rest).takeWhile isBareKeyChar = key.toList := by
    rw [List.takeWhile_append_of_pos h.chars, List.takeWhile_cons_of_neg (by simp [stop]),
      List.append_nil]
  have hkey' : String.ofList (first :: behind) = key := by
    rw [← hkey, String.ofList_toList]
  rw [hkey] at htake ⊢
  unfold keyPart?
  split
  · rename_i heq
    exact absurd (List.cons.inj heq).1 (ne_of_class hfirst rfl)
  · rename_i heq
    exact absurd (List.cons.inj heq).1 (ne_of_class hfirst rfl)
  · rw [htake]
    simp [hkey']

/-- A key without quotes is read up to the sign behind it. -/
theorem key?_of_isBare {key : String} (h : IsBare key) {c sign : Char} {rest behind : List Char}
    (stop : isBareKeyChar c = false) (skipped : skipBlanks (c :: rest) = sign :: behind)
    (single : sign ≠ '.') :
    key? (key.toList ++ c :: rest) = some (([], key), sign :: behind) := by
  obtain ⟨first, tail, hkey, hfirst⟩ := h.exists_cons
  have hstart : skipBlanks (key.toList ++ c :: rest) = key.toList ++ c :: rest := by
    rw [hkey]
    exact skipBlanks_cons (isBlank_of_isBareKeyChar hfirst) _
  have hparts : keyParts? ((key.toList ++ c :: rest).length + 1) (key.toList ++ c :: rest) =
      some ([key], sign :: behind) := by
    rw [keyParts?, hstart, keyPart?_of_isBare h stop]
    simp [skipped, single]
  rw [key?, hparts]
  rfl

/-! ## Lines -/

/-- A value that is read back from the end of a line. -/
def Value.IsRead (value : Value) : Prop :=
  ∀ fuel rest, value? (fuel + 1) 0 (skipBlanks (' ' :: (value.text.toList ++ '\n' :: rest))) =
    some (value, '\n' :: rest)

/-- What is known of a document at the start of a line. -/
structure Position where
  header : List String
  root : Fields

/-- Lines take the reader from one position to another, whatever follows them. -/
def Leads (text : List Char) (before after : Position) : Prop :=
  ∃ lines ≤ text.length, ∀ fuel rest,
    lines? (fuel + lines) before.header before.root (text ++ rest) =
      lines? fuel after.header after.root rest

theorem leads_nil (position : Position) : Leads [] position position :=
  ⟨0, Nat.le_refl 0, fun _ _ => rfl⟩

theorem Leads.append {a b : List Char} {first second third : Position}
    (h : Leads a first second) (h' : Leads b second third) : Leads (a ++ b) first third := by
  obtain ⟨m, hm, hread⟩ := h
  obtain ⟨n, hn, hread'⟩ := h'
  refine ⟨n + m, ?_, fun fuel rest => ?_⟩
  · rw [List.length_append]
    omega
  · rw [List.append_assoc, ← Nat.add_assoc, hread, hread']

/-- The lines of items are read one after the other. -/
theorem leads_flatMap {α : Type} {text : α → List Char} {items : List α}
    (position : List α → Position)
    (step : ∀ before item after, before ++ item :: after = items →
      Leads (text item) (position before) (position (before ++ [item]))) :
    Leads (items.flatMap text) (position []) (position items) := by
  have hrest : ∀ after before, before ++ after = items →
      Leads (after.flatMap text) (position before) (position items) := by
    intro after
    induction after with
    | nil =>
      intro before h
      obtain rfl : before = items := by simpa using h
      exact leads_nil _
    | cons item after ih =>
      intro before h
      exact (step before item after h).append (ih (before ++ [item]) (by simpa using h))
  exact hrest items [] rfl

theorem lineEnd?_break (rest : List Char) : lineEnd? ('\n' :: rest) = some rest := rfl

theorem lineEnd?_of_isBareKeyChar {c : Char} (h : isBareKeyChar c = true) (rest : List Char) :
    lineEnd? (c :: rest) = none := by
  have hcomment : c ≠ '#' := ne_of_class h rfl
  have hbreak : c ≠ '\n' := ne_of_class h rfl
  have hreturn : c ≠ '\r' := ne_of_class h rfl
  have hafter : afterComment (c :: rest) = c :: rest := by
    unfold afterComment
    split
    · rename_i heq
      exact absurd (List.cons.inj heq).1 hcomment
    · rfl
  rw [lineEnd?, skipBlanks_cons (isBlank_of_isBareKeyChar h), hafter]
  exact lineBreak?_of_ne hbreak hreturn rest

/-- A line with a key and its value adds the value to the table of the header before it. -/
theorem lines?_entry {key : String} {value : Value} (bare : IsBare key) (read : value.IsRead)
    (fuel : Nat) (header : List String) (root : Fields) (rest : List Char) :
    lines? (fuel + 1) header root (lineChars (key, value) ++ rest) =
      (atHeader? header (addValue? [] key value) root).bind fun root =>
        lines? fuel header root rest := by
  obtain ⟨first, tail, hkey, hfirst⟩ := bare.exists_cons
  have hline : lineChars (key, value) ++ rest =
      key.toList ++ ' ' :: '=' :: ' ' :: (value.text.toList ++ '\n' :: rest) := by
    simp [lineChars, keyText_of_isBare bare]
  have hread : key? (key.toList ++ ' ' :: '=' :: ' ' :: (value.text.toList ++ '\n' :: rest)) =
      some (([], key), '=' :: ' ' :: (value.text.toList ++ '\n' :: rest)) :=
    key?_of_isBare bare rfl rfl (by decide)
  rw [hline]
  rw [hkey, List.cons_append] at hread ⊢
  rw [lines?, skipBlanks_cons (isBlank_of_isBareKeyChar hfirst)]
  split
  · rename_i heq
    cases heq
  · rename_i heq
    exact absurd (List.cons.inj heq).1 (ne_of_class hfirst rfl)
  · rename_i heq
    exact absurd (List.cons.inj heq).1 (ne_of_class hfirst rfl)
  · rw [lineEnd?_of_isBareKeyChar hfirst]
    simp [hread, read _ rest, lineEnd?_break]

/-- An empty line and a header open a table. -/
theorem lines?_header {key : String} (bare : IsBare key) (fuel : Nat) (header : List String)
    (root : Fields) (rest : List Char) :
    lines? (fuel + 2) header root ('\n' :: '[' :: (key.toList ++ ']' :: '\n' :: rest)) =
      (openTable? key .header root).bind fun root => lines? fuel [key] root rest := by
  have hread : key? (key.toList ++ ']' :: '\n' :: rest) = some (([], key), ']' :: '\n' :: rest) :=
    key?_of_isBare bare rfl rfl (by decide)
  obtain ⟨first, tail, hkey, hfirst⟩ := bare.exists_cons
  have hbreak : lines? (fuel + 2) header root ('\n' :: '[' :: (key.toList ++ ']' :: '\n' :: rest)) =
      lines? (fuel + 1) header root ('[' :: (key.toList ++ ']' :: '\n' :: rest)) := rfl
  rw [hbreak]
  rw [hkey, List.cons_append] at hread ⊢
  rw [lines?, skipBlanks_cons rfl]
  split
  · rename_i heq
    cases heq
  · rename_i heq
    exact absurd (List.cons.inj (List.cons.inj heq).2).1 (ne_of_class hfirst rfl)
  · rename_i heq
    obtain ⟨-, rfl⟩ := List.cons.inj heq
    simp [hread, lineEnd?_break, atHeader?, update?]
  · rename_i hother
    exact absurd rfl (hother _)

/-! ## Tables -/

def entryNode (field : String × Value) : String × Node := (field.1, .value field.2)

/-- What stands under the key of a section. -/
def sectionNode (field : String × Value) : String × Node :=
  (field.1, match field.2 with
    | .table entries => .table .header (entries.map entryNode)
    | value => .value value)

theorem lookup_of_not_mem {key : String} {fields : Fields} (h : key ∉ fields.map Prod.fst) :
    fields.lookup key = none := by
  rw [List.lookup_eq_none_iff]
  intro field hfield
  rw [bne_iff_ne]
  rintro rfl
  exact h (List.mem_map_of_mem hfield)

theorem put_append {key : String} {fields : Fields} (h : key ∉ fields.map Prod.fst)
    (old node : Node) : put key node (fields ++ [(key, old)]) = fields ++ [(key, node)] := by
  induction fields with
  | nil => simp [put]
  | cons field fields ih =>
    rw [List.map_cons, List.mem_cons, not_or] at h
    rw [List.cons_append, put, if_neg (Ne.symm h.1), ih h.2, List.cons_append]

theorem addValue?_new {key : String} {fields : Fields} (h : key ∉ fields.map Prod.fst)
    (value : Value) :
    addValue? [] key value .header fields = some (fields ++ [(key, .value value)]) := by
  simp [addValue?, update?, Origin.header, lookup_of_not_mem h]

theorem openTable?_new {key : String} {fields : Fields} (h : key ∉ fields.map Prod.fst) :
    openTable? key .header fields = some (fields ++ [(key, .table .header [])]) := by
  rw [openTable?, lookup_of_not_mem h]

theorem atHeader?_last {key : String} {fields : Fields} (h : key ∉ fields.map Prod.fst)
    (change : Origin → Fields → Option Fields) (inner : Fields) :
    atHeader? [key] change (fields ++ [(key, .table .header inner)]) =
      (change .header inner).map fun inner => fields ++ [(key, .table .header inner)] := by
  have hlookup : (fields ++ [(key, Node.table .header inner)]).lookup key =
      some (Node.table .header inner) := by
    rw [List.lookup_append, lookup_of_not_mem h]
    simp
  rw [atHeader?, update?, hlookup]
  cases hchange : change .header inner <;> simp [update?, hchange, put_append h]

theorem keys_entryNode (fields : List (String × Value)) :
    (fields.map entryNode).map Prod.fst = fields.map Prod.fst := by
  simp [entryNode]

theorem keys_sectionNode (fields : List (String × Value)) :
    (fields.map sectionNode).map Prod.fst = fields.map Prod.fst := by
  simp [sectionNode]

/-- Values on lines of their own under distinct keys. -/
structure AreEntries (entries : List (String × Value)) : Prop where
  bare : ∀ entry ∈ entries, IsBare entry.1
  read : ∀ entry ∈ entries, entry.2.IsRead
  distinct : (entries.map Prod.fst).Nodup

theorem not_mem_of_distinct {before after : List (String × Value)} {field : String × Value}
    (h : ((before ++ field :: after).map Prod.fst).Nodup) : field.1 ∉ before.map Prod.fst := by
  intro hmem
  rw [List.map_append, List.map_cons, List.nodup_append] at h
  exact h.2.2 _ hmem _ List.mem_cons_self rfl

/-- Entries go one by one into the table that is open. -/
theorem AreEntries.leads {entries : List (String × Value)} (h : AreEntries entries)
    (header : List String) (root : Fields → Fields)
    (add : ∀ fields key value, key ∉ fields.map Prod.fst →
      atHeader? header (addValue? [] key value) (root fields) =
        some (root (fields ++ [(key, .value value)]))) :
    Leads (entries.flatMap lineChars) ⟨header, root []⟩ ⟨header, root (entries.map entryNode)⟩ := by
  have hstep : ∀ before entry after, before ++ entry :: after = entries →
      Leads (lineChars entry) ⟨header, root (before.map entryNode)⟩
        ⟨header, root ((before ++ [entry]).map entryNode)⟩ := by
    rintro before ⟨key, value⟩ after hentries
    have hmem : (key, value) ∈ entries := hentries ▸ by simp
    have hnew : key ∉ (before.map entryNode).map Prod.fst := by
      rw [keys_entryNode]
      exact not_mem_of_distinct (hentries ▸ h.distinct)
    refine ⟨1, by simp [lineChars]; omega, fun fuel rest => ?_⟩
    rw [lines?_entry (h.bare _ hmem) (h.read _ hmem), add _ _ _ hnew, Option.bind_some,
      List.map_append]
    rfl
  exact leads_flatMap (fun before => ⟨header, root (before.map entryNode)⟩) hstep

/-- A section adds a table with its entries. -/
theorem leads_section {key : String} {entries : List (String × Value)} (bare : IsBare key)
    (h : AreEntries entries) {root : Fields} (new : key ∉ root.map Prod.fst)
    (header : List String) :
    Leads (sectionChars (key, .table entries)) ⟨header, root⟩
      ⟨[key], root ++ [sectionNode (key, .table entries)]⟩ := by
  have hopen : Leads ('\n' :: '[' :: (key.toList ++ [']', '\n'])) ⟨header, root⟩
      ⟨[key], root ++ [(key, .table .header [])]⟩ := by
    refine ⟨2, by simp, fun fuel rest => ?_⟩
    have hread := lines?_header bare fuel header root rest
    rw [openTable?_new new, Option.bind_some] at hread
    simpa using hread
  have hentries := h.leads [key] (fun inner => root ++ [(key, .table .header inner)]) (by
    intro inner other value hother
    rw [atHeader?_last new, addValue?_new hother, Option.map_some])
  have hchars : sectionChars (key, .table entries) =
      '\n' :: '[' :: (key.toList ++ [']', '\n']) ++ entries.flatMap lineChars := by
    simp [sectionChars, keyText_of_isBare bare]
  rw [hchars]
  exact hopen.append hentries

/-! ## Documents -/

/-- Values, and tables one level deep, under distinct keys. -/
structure IsFlat (fields : List (String × Value)) : Prop where
  bare : ∀ field ∈ fields, IsBare field.1
  distinct : (fields.map Prod.fst).Nodup
  values : ∀ field ∈ fields, isSection field = false → field.2.IsRead
  tables : ∀ key entries, (key, Value.table entries) ∈ fields → AreEntries entries

theorem fieldsToValues_append (a b : Fields) :
    fieldsToValues (a ++ b) = fieldsToValues a ++ fieldsToValues b := by
  induction a with
  | nil => rfl
  | cons field a ih => simp [fieldsToValues, ih]

theorem fieldsToValues_entries (fields : List (String × Value)) :
    fieldsToValues (fields.map entryNode) = fields := by
  induction fields with
  | nil => rfl
  | cons field fields ih => simp [fieldsToValues, entryNode, Node.toValue, ih]

theorem fieldsToValues_sections (fields : List (String × Value)) :
    fieldsToValues (fields.map sectionNode) = fields := by
  induction fields with
  | nil => rfl
  | cons field fields ih =>
    rcases field with ⟨key, value⟩
    cases value <;> simp [fieldsToValues, sectionNode, Node.toValue, ih, fieldsToValues_entries]

theorem isSection_eq_true {field : String × Value} (h : isSection field = true) :
    ∃ entries, field = (field.1, .table entries) := by
  rcases field with ⟨key, value⟩
  cases value with
  | table entries => exact ⟨entries, rfl⟩
  | _ => cases h

/-- Sections go one by one behind the fields that are there. -/
theorem leads_sections (root : Fields) (sections : List (String × Value))
    (isSections : ∀ field ∈ sections, isSection field = true)
    (bare : ∀ field ∈ sections, IsBare field.1)
    (entries : ∀ key entries, (key, Value.table entries) ∈ sections → AreEntries entries)
    (distinct : (root.map Prod.fst ++ sections.map Prod.fst).Nodup) :
    ∃ header, Leads (sections.flatMap sectionChars) ⟨[], root⟩
      ⟨header, root ++ sections.map sectionNode⟩ := by
  let position (before : List (String × Value)) : Position :=
    ⟨(before.getLast?.map Prod.fst).toList, root ++ before.map sectionNode⟩
  have hstep : ∀ before field after, before ++ field :: after = sections →
      Leads (sectionChars field) (position before) (position (before ++ [field])) := by
    intro before field after hsections
    have hmem : field ∈ sections := hsections ▸ by simp
    have hnew : field.1 ∉ (root ++ before.map sectionNode).map Prod.fst := by
      rw [List.map_append, keys_sectionNode]
      rw [← hsections, List.map_append, List.map_cons, ← List.append_assoc,
        List.nodup_append] at distinct
      intro hfield
      exact distinct.2.2 _ hfield _ List.mem_cons_self rfl
    obtain ⟨given, hfield⟩ := isSection_eq_true (isSections field hmem)
    have hentries := entries field.1 given (hfield ▸ hmem)
    have hsection := leads_section (bare field hmem) hentries hnew
      (before.getLast?.map Prod.fst).toList
    rw [← hfield] at hsection
    simpa [position] using hsection
  have hall := leads_flatMap position hstep
  rw [show position [] = ⟨[], root⟩ by simp [position]] at hall
  exact ⟨_, hall⟩

/-- The values of a document come before its tables. -/
theorem IsFlat.leads {fields : List (String × Value)} (h : IsFlat fields) :
    ∃ header, Leads (documentChars fields) ⟨[], []⟩
      ⟨header, (fields.filter fun field => !isSection field).map entryNode ++
        (fields.filter isSection).map sectionNode⟩ := by
  have hperm := List.filter_append_perm (fun field => !isSection field) fields
  have hdistinct := ((hperm.map Prod.fst).nodup_iff).mpr h.distinct
  simp only [Bool.not_not, List.map_append] at hdistinct
  have hvalues : AreEntries (fields.filter fun field => !isSection field) := by
    constructor
    · intro entry hentry
      exact h.bare entry (List.mem_filter.mp hentry).1
    · intro entry hentry
      obtain ⟨hmem, hvalue⟩ := List.mem_filter.mp hentry
      exact h.values entry hmem (by simpa using hvalue)
    · exact (List.nodup_append.mp hdistinct).1
  have hfirst := hvalues.leads [] id
    fun fields key value hnew => addValue?_new hnew value
  obtain ⟨header, hrest⟩ := leads_sections
    ((fields.filter fun field => !isSection field).map entryNode) (fields.filter isSection)
    (fun field hfield => (List.mem_filter.mp hfield).2)
    (fun field hfield => h.bare field (List.mem_filter.mp hfield).1)
    (fun key entries hfield => h.tables key entries (List.mem_filter.mp hfield).1)
    (by rwa [keys_entryNode])
  exact ⟨header, hfirst.append hrest⟩

theorem documentChars_head (fields : List (String × Value))
    (bare : ∀ field ∈ fields, IsBare field.1) :
    (documentChars fields).head? ≠ some '\uFEFF' := by
  rw [documentChars]
  cases hvalues : fields.filter fun field => !isSection field with
  | cons field rest =>
    have hmem : field ∈ fields := (List.mem_filter.mp (hvalues ▸ List.mem_cons_self)).1
    obtain ⟨first, tail, hkey, hfirst⟩ := (bare field hmem).exists_cons
    have hne : first ≠ '\uFEFF' := ne_of_class hfirst (by decide)
    simp [lineChars, keyText_of_isBare (bare field hmem), hkey, hne]
  | nil =>
    cases fields.filter isSection with
    | nil => simp
    | cons field rest => simp [sectionChars]

/-- The text of a document is read as its values and, behind them, its tables. -/
theorem ofChars?_documentChars {fields : List (String × Value)} (h : IsFlat fields) :
    ofChars? (documentChars fields) =
      some (.table ((fields.filter fun field => !isSection field) ++ fields.filter isSection)) := by
  have hmark : afterByteOrderMark (documentChars fields) = documentChars fields := by
    have hhead := documentChars_head fields h.bare
    unfold afterByteOrderMark
    split
    · rename_i heq
      simp [heq] at hhead
    · rfl
  obtain ⟨header, lines, hlines, hread⟩ := h.leads
  -- The reader may take more steps than there are lines, for every line has a character.
  obtain ⟨fuel, hfuel⟩ := Nat.exists_eq_add_of_le hlines
  have hall := hread (fuel + 1) []
  have hsteps : (documentChars fields).length + 1 = fuel + 1 + lines := by omega
  rw [List.append_nil] at hall
  simp only [ofChars?, hmark]
  rw [hsteps, hall, lines?]
  simp [skipBlanks, fieldsToValues_append, fieldsToValues_entries, fieldsToValues_sections]

end SegmentRules.Toml

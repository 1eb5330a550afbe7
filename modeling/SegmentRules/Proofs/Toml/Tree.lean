import SegmentRules.Toml.Value

/-! # Values at paths

What stands at a path is changed by a replacement there and by none elsewhere. A replacement of the
same kind keeps the shape of a tree: its keys, and the kinds of its values. -/
namespace SegmentRules.Toml.Value

variable {value replacement old tree changed : Value} {fields : List (String × Value)}
  {key other : String} {path : List String}

def isTable : Value → Bool
  | .table _ => true
  | _ => false

theorem at?_cons_eq_some : tree.at? (key :: path) = some value ↔
    ∃ fields child, tree = .table fields ∧ fields.lookup key = some child ∧
      child.at? path = some value := by
  cases tree <;> simp [at?, field?, Option.bind_eq_some_iff]

theorem at?_append (path rest : List String) (tree : Value) :
    tree.at? (path ++ rest) = (tree.at? path).bind (at? rest) := by
  induction path generalizing tree with
  | nil => rfl
  | cons key path ih =>
    rw [List.cons_append, at?, at?]
    cases tree.field? key with
    | none => rfl
    | some child => exact ih child

theorem at?_of_leaf (leaf : value.isTable = false) (h : path ≠ []) : value.at? path = none := by
  cases path with
  | nil => exact absurd rfl h
  | cons key path => cases value <;> first | rfl | cases leaf

/-- A path to a value that is no table goes no further. -/
theorem eq_of_prefix_of_leaf {rest : List String} (h : tree.at? path = some old)
    (leaf : old.isTable = false) (found : tree.at? rest = some value) (isPrefix : path <+: rest) :
    path = rest := by
  obtain ⟨more, rfl⟩ := isPrefix
  rw [at?_append, h, Option.bind_some] at found
  cases more with
  | nil => exact (List.append_nil path).symm
  | cons key more => cases (at?_of_leaf leaf (List.cons_ne_nil key more)).symm.trans found

/-! ## All paths -/

mutual

/-- The values of a tree, the tree itself first, with the paths that lead to them. -/
def nodes : Value → List (List String × Value)
  | .table fields => ([], .table fields) :: fieldNodes fields
  | .string text => [([], .string text)]
  | .integer n => [([], .integer n)]
  | .float x => [([], .float x)]
  | .boolean b => [([], .boolean b)]
  | .moment written => [([], .moment written)]
  | .array items => [([], .array items)]

def fieldNodes : List (String × Value) → List (List String × Value)
  | [] => []
  | (key, value) :: rest => value.nodes.map (Prod.map (key :: ·) id) ++ fieldNodes rest

end

theorem mem_fieldNodes {child : Value} (h : fields.lookup key = some child)
    (mem : (path, value) ∈ child.nodes) : (key :: path, value) ∈ fieldNodes fields := by
  induction fields with
  | nil => cases h
  | cons field rest ih =>
    rw [fieldNodes]
    by_cases hsame : key = field.1
    · rw [List.lookup_cons, beq_iff_eq.mpr hsame] at h
      obtain rfl : field.2 = child := Option.some.inj h
      exact List.mem_append_left _ (List.mem_map.mpr ⟨_, mem, by rw [hsame]; rfl⟩)
    · rw [List.lookup_cons, beq_eq_false_iff_ne.mpr hsame] at h
      exact List.mem_append_right _ (ih h)

theorem mem_nodes_of_at? (h : tree.at? path = some value) : (path, value) ∈ tree.nodes := by
  induction path generalizing tree with
  | nil =>
    obtain rfl : tree = value := Option.some.inj h
    cases tree <;> exact List.mem_cons_self
  | cons key path ih =>
    obtain ⟨fields, child, rfl, hchild, hvalue⟩ := at?_cons_eq_some.mp h
    exact List.mem_cons_of_mem _ (mem_fieldNodes hchild (ih hvalue))

/-! ## Replacement -/

theorem lookup_setField (h : fields.lookup key = some old) :
    (setField key value fields).lookup key = some value := by
  induction fields with
  | nil => cases h
  | cons field rest ih =>
    rw [setField]
    split
    · rename_i hsame
      simp [hsame]
    · rename_i hne
      have hne' : (key == field.1) = false := beq_eq_false_iff_ne.mpr (Ne.symm hne)
      rw [List.lookup_cons, hne'] at h ⊢
      exact ih h

theorem lookup_setField_ne (h : other ≠ key) :
    (setField key value fields).lookup other = fields.lookup other := by
  induction fields with
  | nil => rfl
  | cons field rest ih =>
    rw [setField]
    split
    · rename_i hsame
      have hne : (other == field.1) = false := beq_eq_false_iff_ne.mpr fun hother =>
        h (hother.trans hsame)
      rw [List.lookup_cons, List.lookup_cons, hne]
    · rw [List.lookup_cons, List.lookup_cons, ih]

theorem replaceAt?_cons_eq_some :
    replaceAt? replacement (key :: path) tree = some changed ↔
      ∃ fields child new, tree = .table fields ∧ fields.lookup key = some child ∧
        replaceAt? replacement path child = some new ∧
        changed = .table (setField key new fields) := by
  cases tree <;> simp [replaceAt?, Option.bind_eq_some_iff, eq_comm (a := changed)]

theorem exists_replaceAt?_iff :
    (∃ changed, replaceAt? replacement path tree = some changed) ↔
      ∃ value, tree.at? path = some value := by
  induction path generalizing tree with
  | nil => simp [replaceAt?, at?]
  | cons key path ih =>
    simp only [replaceAt?_cons_eq_some, at?_cons_eq_some]
    constructor
    · rintro ⟨changed, fields, child, new, rfl, hchild, hnew, rfl⟩
      obtain ⟨value, hvalue⟩ := ih.mp ⟨new, hnew⟩
      exact ⟨value, fields, child, rfl, hchild, hvalue⟩
    · rintro ⟨value, fields, child, rfl, hchild, hvalue⟩
      obtain ⟨new, hnew⟩ := ih.mpr ⟨value, hvalue⟩
      exact ⟨_, fields, child, new, rfl, hchild, hnew, rfl⟩

theorem at?_replaceAt? (h : replaceAt? replacement path tree = some changed) :
    changed.at? path = some replacement := by
  induction path generalizing tree changed with
  | nil =>
    obtain rfl : replacement = changed := by simpa [replaceAt?] using h
    rfl
  | cons key path ih =>
    obtain ⟨fields, child, new, rfl, hchild, hnew, rfl⟩ := replaceAt?_cons_eq_some.mp h
    exact at?_cons_eq_some.mpr ⟨_, new, rfl, lookup_setField hchild, ih hnew⟩

/-- Away from the replaced value, neither above nor below it, nothing changes. -/
theorem at?_replaceAt?_of_apart {rest : List String} (apart : ¬ path <+: rest)
    (apart' : ¬ rest <+: path) (h : replaceAt? replacement path tree = some changed) :
    changed.at? rest = tree.at? rest := by
  induction path generalizing tree changed rest with
  | nil => exact absurd List.nil_prefix apart
  | cons key path ih =>
    obtain ⟨fields, child, new, rfl, hchild, hnew, rfl⟩ := replaceAt?_cons_eq_some.mp h
    cases rest with
    | nil => exact absurd List.nil_prefix apart'
    | cons other rest =>
      by_cases hsame : other = key
      · subst hsame
        rw [List.cons_prefix_cons, not_and] at apart apart'
        simp only [at?, field?, lookup_setField hchild, hchild, Option.bind_some]
        exact ih (apart rfl) (apart' rfl) hnew
      · simp only [at?, field?, lookup_setField_ne hsame]

/-- A replaced value that is no table leaves every other such value alone. -/
theorem at?_replaceAt?_of_leaf {rest : List String} (found : tree.at? path = some old)
    (leaf : old.isTable = false) (h : replaceAt? replacement path tree = some changed)
    (kept : tree.at? rest = some value) (leaf' : value.isTable = false) (ne : rest ≠ path) :
    changed.at? rest = some value := by
  rw [at?_replaceAt?_of_apart _ _ h, kept]
  · exact fun hstart => ne (eq_of_prefix_of_leaf found leaf kept hstart).symm
  · exact fun hstart => ne (eq_of_prefix_of_leaf kept leaf' found hstart)

/-! ## Shapes -/

mutual

/-- A tree without its data. -/
def shape : Value → Value
  | .string _ => .string ""
  | .integer _ => .integer 0
  | .float _ => .float .zero
  | .boolean _ => .boolean false
  | .moment _ => .moment ""
  | .array _ => .array []
  | .table fields => .table (fieldShapes fields)

def fieldShapes : List (String × Value) → List (String × Value)
  | [] => []
  | (key, value) :: rest => (key, value.shape) :: fieldShapes rest

end

theorem fieldShapes_setField (h : fields.lookup key = some old) (same : value.shape = old.shape) :
    fieldShapes (setField key value fields) = fieldShapes fields := by
  induction fields with
  | nil => rfl
  | cons field rest ih =>
    rw [setField]
    split
    · rename_i hsame
      rw [List.lookup_cons, beq_iff_eq.mpr hsame.symm] at h
      rw [fieldShapes, fieldShapes, same, Option.some.inj h]
    · rename_i hne
      have hne' : (key == field.1) = false := beq_eq_false_iff_ne.mpr (Ne.symm hne)
      rw [List.lookup_cons, hne'] at h
      rw [fieldShapes, fieldShapes, ih h]

theorem shape_replaceAt? (found : tree.at? path = some old) (same : replacement.shape = old.shape)
    (h : replaceAt? replacement path tree = some changed) : changed.shape = tree.shape := by
  induction path generalizing tree changed with
  | nil =>
    obtain rfl : tree = old := Option.some.inj found
    obtain rfl : replacement = changed := by simpa [replaceAt?] using h
    exact same
  | cons key path ih =>
    obtain ⟨fields, child, new, rfl, hchild, hnew, rfl⟩ := replaceAt?_cons_eq_some.mp h
    simp only [at?, field?, hchild, Option.bind_some] at found
    rw [shape, shape, fieldShapes_setField hchild (ih found hnew)]

theorem isTable_shape (value : Value) : value.shape.isTable = value.isTable := by
  cases value <;> rfl

theorem shape_eq_string : value.shape = .string "" ↔ ∃ text, value = .string text := by
  cases value <;> simp [shape]

theorem shape_eq_integer : value.shape = .integer 0 ↔ ∃ n, value = .integer n := by
  cases value <;> simp [shape]

theorem shape_eq_float : value.shape = .float .zero ↔ ∃ x, value = .float x := by
  cases value <;> simp [shape]

theorem shape_eq_table {shapes : List (String × Value)} :
    value.shape = .table shapes ↔
      ∃ fields, value = .table fields ∧ fieldShapes fields = shapes := by
  cases value <;> simp [shape]

theorem fieldShapes_eq_nil : fieldShapes fields = [] ↔ fields = [] := by
  cases fields <;> simp [fieldShapes]

theorem fieldShapes_eq_cons {shapes : List (String × Value)} :
    fieldShapes fields = (key, value) :: shapes ↔ ∃ given rest, fields = (key, given) :: rest ∧
      given.shape = value ∧ fieldShapes rest = shapes := by
  cases fields with
  | nil => simp [fieldShapes]
  | cons field rest => rcases field with ⟨k, v⟩; simp [fieldShapes, and_assoc]

end SegmentRules.Toml.Value

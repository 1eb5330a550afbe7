import SegmentRules.Proofs.Json.Depth
import SegmentRules.Proofs.Json.Quoted

/-! # Values are read back

A value whose numbers are integers of 64 bits is read back from its text, if not more arrays and
objects stand around its parts than a text may have. -/
namespace SegmentRules.Json

variable {items : List Json} {fields : List (String × Json)} {value : Json} {depth : Nat}

/-! ## Values without loss -/

/-- The values that are written without loss: a double is written to be read to a nearby one, so
only a zero with a minus sign is sure to stay. -/
inductive Exact : Json → Prop
  | null : Exact .null
  | bool (value : Bool) : Exact (.bool value)
  | integer {n : Int} (fits : holdsInteger n = true) : Exact (.integer n)
  | minusZero : Exact (.double minusZero)
  | string (text : String) : Exact (.string text)
  | array {items : List Json} (all : ∀ item ∈ items, Exact item) : Exact (.array items)
  | object {fields : List (String × Json)} (all : ∀ field ∈ fields, Exact field.2) :
      Exact (.object fields)

/-! ## Texts -/

theorem renderItems_eq (items : List Json) : renderItems items = items.map render := by
  induction items with
  | nil => rfl
  | cons item rest ih => rw [renderItems, ih, List.map_cons]

def fieldText (field : String × Json) : String := renderText field.1 ++ ":" ++ render field.2

theorem renderFields_eq (fields : List (String × Json)) :
    renderFields fields = fields.map fieldText := by
  induction fields with
  | nil => rfl
  | cons field rest ih =>
    rw [renderFields, ih, List.map_cons]
    rfl

/-- Texts one behind the other with commas between them. -/
def withCommas (texts : List String) : List Char := [','].intercalate (texts.map String.toList)

theorem render_array (items : List Json) :
    (render (.array items)).toList = '[' :: (withCommas (items.map render) ++ [']']) := by
  simp [render, renderItems_eq, withCommas]

theorem render_object (fields : List (String × Json)) :
    (render (.object fields)).toList =
      '\x7b' :: (withCommas (fields.map fieldText) ++ ['\x7d']) := by
  simp [render, renderFields_eq, withCommas]

theorem fieldText_toList (field : String × Json) :
    (fieldText field).toList =
      '"' :: (field.1.toList.flatMap escape ++ '"' :: ':' :: (render field.2).toList) := by
  simp [fieldText, renderText_toList]

section Commas

variable {α : Type} (f : α → String)

theorem withCommas_singleton (x : α) : withCommas ([x].map f) = (f x).toList := by
  simp [withCommas]

theorem withCommas_cons (x next : α) (rest : List α) :
    withCommas ((x :: next :: rest).map f) =
      (f x).toList ++ ',' :: withCommas ((next :: rest).map f) := by
  simp [withCommas]

end Commas

/-! ## Reading -/

/-- With enough room and fuel, a value is what its text is read as. -/
def ReadsBack (value : Json) : Prop :=
  ∀ fuel depth rest, value.nesting + depth ≤ depthLimit → 2 * value.render.toList.length ≤ fuel →
    EndsNumber rest → readValue? fuel depth (value.render.toList ++ rest) = some (value, rest)

/-- The text starts neither with a blank nor with a closing bracket. -/
def IsStart (text : List Char) : Prop :=
  ∃ c tail, text = c :: tail ∧ isSpace c = false ∧ c ≠ ']' ∧ c ≠ '\x7d'

theorem NumberText.Written.isStart {number : NumberText} {text : List Char}
    (h : number.Written text) : IsStart text := by
  obtain ⟨c, tail, htext, hc⟩ := h.head
  exact ⟨c, tail, htext, not_isSpace_of_startsNumber hc, ne_of_class hc (by decide),
    ne_of_class hc (by decide)⟩

theorem Exact.isStart (h : Exact value) : IsStart value.render.toList := by
  cases h with
  | null => exact ⟨'n', _, rfl, by decide⟩
  | bool value =>
    cases value with
    | true => exact ⟨'t', _, rfl, by decide⟩
    | false => exact ⟨'f', _, rfl, by decide⟩
  | integer fits => exact (NumberText.written_integer _).isStart
  | minusZero => exact NumberText.written_minusZero.isStart
  | string text => exact ⟨'"', _, renderText_toList text, by decide⟩
  | array all => exact ⟨'[', _, render_array _, by decide⟩
  | object all => exact ⟨'\x7b', _, render_object _, by decide⟩

theorem readItems?_withCommas (filled : items ≠ []) (all : ∀ item ∈ items, ReadsBack item)
    (room : ∀ item ∈ items, item.nesting + depth ≤ depthLimit) {fuel : Nat}
    (enough : 2 * (withCommas (items.map render)).length + 1 ≤ fuel) (rest : List Char) :
    readItems? fuel depth (withCommas (items.map render) ++ ']' :: rest) = some (items, rest) := by
  induction items generalizing fuel with
  | nil => exact absurd rfl filled
  | cons item items ih =>
    obtain ⟨hitem, hitems⟩ := List.forall_mem_cons.mp all
    obtain ⟨hroom, hrooms⟩ := List.forall_mem_cons.mp room
    obtain ⟨fuel, rfl⟩ : ∃ k, fuel = k + 1 := ⟨fuel - 1, by omega⟩
    cases items with
    | nil =>
      rw [withCommas_singleton] at enough ⊢
      have hread := hitem fuel depth (']' :: rest) hroom (by omega) (endsNumber_cons.mpr rfl)
      rw [readItems?, hread]
      rfl
    | cons next items =>
      rw [withCommas_cons] at enough ⊢
      rw [List.length_append, List.length_cons] at enough
      have hread := hitem fuel depth
        (',' :: (withCommas ((next :: items).map render) ++ ']' :: rest)) hroom (by omega)
        (endsNumber_cons.mpr rfl)
      have hrest : readItems? fuel depth (withCommas ((next :: items).map render) ++ ']' :: rest) =
          some (next :: items, rest) := ih (List.cons_ne_nil next items) hitems hrooms (by omega)
      have hcomma := skipSpace_cons (show isSpace ',' = false by decide)
      rw [List.append_assoc, List.cons_append, readItems?, hread]
      simp [-List.map_cons, hcomma, hrest]

theorem readFields?_withCommas (filled : fields ≠ []) (all : ∀ field ∈ fields, ReadsBack field.2)
    (room : ∀ field ∈ fields, field.2.nesting + depth ≤ depthLimit) {fuel : Nat}
    (enough : 2 * (withCommas (fields.map fieldText)).length + 1 ≤ fuel) (rest : List Char) :
    readFields? fuel depth (withCommas (fields.map fieldText) ++ '\x7d' :: rest) =
      some (fields.map fun field => (some field.1, field.2), rest) := by
  induction fields generalizing fuel with
  | nil => exact absurd rfl filled
  | cons field fields ih =>
    obtain ⟨hvalue, hvalues⟩ := List.forall_mem_cons.mp all
    obtain ⟨hroom, hrooms⟩ := List.forall_mem_cons.mp room
    obtain ⟨fuel, rfl⟩ : ∃ k, fuel = k + 1 := ⟨fuel - 1, by omega⟩
    have hquote := skipSpace_cons (show isSpace '"' = false by decide)
    have hcolon := skipSpace_cons (show isSpace ':' = false by decide)
    cases fields with
    | nil =>
      rw [withCommas_singleton, fieldText_toList] at enough ⊢
      simp only [List.length_cons, List.length_append] at enough
      have hread := hvalue fuel depth ('\x7d' :: rest) hroom (by omega) (endsNumber_cons.mpr rfl)
      have hbrace := skipSpace_cons (show isSpace '\x7d' = false by decide)
      rw [readFields?]
      simp [hquote, readText?_quoted, hcolon, hread, hbrace]
    | cons next fields =>
      rw [withCommas_cons, fieldText_toList] at enough ⊢
      simp only [List.length_cons, List.length_append] at enough
      have hread := hvalue fuel depth
        (',' :: (withCommas ((next :: fields).map fieldText) ++ '\x7d' :: rest)) hroom (by omega)
        (endsNumber_cons.mpr rfl)
      have hrest : readFields? fuel depth
          (withCommas ((next :: fields).map fieldText) ++ '\x7d' :: rest) = _ :=
        ih (List.cons_ne_nil next fields) hvalues hrooms (by omega)
      have hcomma := skipSpace_cons (show isSpace ',' = false by decide)
      rw [readFields?]
      simp [-List.map_cons, hquote, readText?_quoted, hcolon, hread, hcomma, hrest]
      rfl

theorem isStart_withCommas {α : Type} {f : α → String} {x : α} {rest : List α}
    (h : IsStart (f x).toList) : IsStart (withCommas ((x :: rest).map f)) := by
  cases rest with
  | nil => rwa [withCommas_singleton]
  | cons next rest =>
    obtain ⟨c, tail, htext, hc⟩ := h
    rw [withCommas_cons, htext]
    exact ⟨c, _, rfl, hc⟩

theorem readsBack_array (all : ∀ item ∈ items, Exact item)
    (ih : ∀ item ∈ items, ReadsBack item) : ReadsBack (.array items) := by
  intro fuel depth rest room enough _
  obtain ⟨hdepth, hitems⟩ := nesting_array_le.mp room
  rw [render_array, List.length_cons, List.length_append] at enough
  obtain ⟨fuel, rfl⟩ : ∃ k, fuel = k + 1 := ⟨fuel - 1, by omega⟩
  rw [render_array, List.cons_append, List.append_assoc, readValue?, skipSpace_cons (by decide)]
  cases items with
  | nil =>
    have hclose := skipSpace_cons (show isSpace ']' = false by decide)
    simp [withCommas, hclose, atDepth, Nat.lt_of_succ_le hdepth]
  | cons item items =>
    have hread : readItems? fuel (depth + 1)
        (withCommas ((item :: items).map render) ++ ']' :: rest) = some (item :: items, rest) :=
      readItems?_withCommas (List.cons_ne_nil item items) ih hitems (by omega) rest
    have hstart : IsStart (withCommas ((item :: items).map render)) :=
      isStart_withCommas (all item List.mem_cons_self).isStart
    obtain ⟨c, tail, htext, hspace, hclose, -⟩ := hstart
    rw [htext] at hread ⊢
    rw [List.cons_append] at hread
    simp [skipSpace_cons hspace, hclose, hread, atDepth, Nat.lt_of_succ_le hdepth]

theorem ofFields_some (fields : List (String × Json)) :
    ofFields (fields.map fun field => (some field.1, field.2)) = .object fields := by
  have hkeys : (fields.map fun field => (some field.1, field.2)).mapM
      (fun (field : Option String × Json) => field.1.map (·, field.2)) = some fields :=
    mapM_map fun _ _ => rfl
  rw [ofFields, hkeys]

theorem readsBack_object (ih : ∀ field ∈ fields, ReadsBack field.2) :
    ReadsBack (.object fields) := by
  intro fuel depth rest room enough _
  obtain ⟨hdepth, hfields⟩ := nesting_object_le.mp room
  rw [render_object, List.length_cons, List.length_append] at enough
  obtain ⟨fuel, rfl⟩ : ∃ k, fuel = k + 1 := ⟨fuel - 1, by omega⟩
  rw [render_object, List.cons_append, List.append_assoc, readValue?, skipSpace_cons (by decide)]
  cases fields with
  | nil =>
    have hclose := skipSpace_cons (show isSpace '\x7d' = false by decide)
    simp [withCommas, hclose, atDepth, Nat.lt_of_succ_le hdepth]
  | cons field fields =>
    have hread := readFields?_withCommas (List.cons_ne_nil field fields) ih hfields
      (show _ ≤ fuel by omega) rest
    have hstart : IsStart (withCommas ((field :: fields).map fieldText)) :=
      isStart_withCommas ⟨'"', _, fieldText_toList field, by decide⟩
    obtain ⟨c, tail, htext, hspace, -, hclose⟩ := hstart
    rw [htext] at hread ⊢
    rw [List.cons_append] at hread
    simp [-List.map_cons, skipSpace_cons hspace, hclose, hread, ofFields_some, atDepth,
      Nat.lt_of_succ_le hdepth]

/-- What has no parts needs no more than one step. -/
theorem readsBack_leaf (filled : value.render.toList ≠ [])
    (h : ∀ fuel depth rest, EndsNumber rest →
      readValue? (fuel + 1) depth (value.render.toList ++ rest) = some (value, rest)) :
    ReadsBack value := by
  intro fuel depth rest _ enough hend
  have hlength := List.length_pos_of_ne_nil filled
  obtain ⟨fuel, rfl⟩ : ∃ k, fuel = k + 1 := ⟨fuel - 1, by omega⟩
  exact h fuel depth rest hend

theorem readsBack_number {number : NumberText} (h : number.Written value.render.toList)
    (hvalue : number.value? = some value) : ReadsBack value := by
  obtain ⟨c, tail, htext, -⟩ := h.head
  apply readsBack_leaf
  · simp [htext]
  · intro fuel depth rest hend
    rw [readValue?_number h hend, hvalue, Option.getD_some]

/-- A value without loss is read back from its text. -/
theorem Exact.readsBack (h : Exact value) : ReadsBack value := by
  induction h with
  | null => exact readsBack_leaf (by decide) fun fuel depth rest _ => rfl
  | bool value =>
    cases value with
    | true => exact readsBack_leaf (by decide) fun fuel depth rest _ => rfl
    | false => exact readsBack_leaf (by decide) fun fuel depth rest _ => rfl
  | integer fits =>
    exact readsBack_number (NumberText.written_integer _) (NumberText.value?_digits fits)
  | minusZero => exact readsBack_number NumberText.written_minusZero NumberText.value?_minusZero
  | string text =>
    have htext : (render (.string text)).toList =
        '"' :: (text.toList.flatMap escape ++ ['"']) := renderText_toList text
    apply readsBack_leaf
    · simp [htext]
    · intro fuel depth rest _
      rw [htext, List.cons_append, List.append_assoc, readValue?, skipSpace_cons (by decide)]
      simp [readText?_quoted]
  | array all ih => exact readsBack_array all ih
  | object all ih => exact readsBack_object ih

/-- What a text denotes that holds nothing but a value without loss. -/
theorem ofText?_render (h : Exact value) (room : value.nesting ≤ depthLimit) :
    Json.ofText? value.render = some value := by
  have hread := h.readsBack (2 * value.render.toList.length + 2) 0 [] room (by omega) endsNumber_nil
  rw [List.append_nil] at hread
  simp [ofText?, hread, skipSpace]

end SegmentRules.Json

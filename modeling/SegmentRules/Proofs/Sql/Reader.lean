import SegmentRules.Proofs.Sql.Formula
import SegmentRules.Settings.Basic
import SegmentRules.Sql.Fragment

/-! # Reading conditions

A reference reader for conditions in SQL text with bound values. It reads each token once, with a
stack of the parentheses that are open, and takes words for names or keywords by where they
stand. -/
namespace SegmentRules.Sql

open Settings (isNameChar isIdentifier)

inductive Token
  | word (text : String)
  | value (value : Value)
  | comparison (comparison : Comparison)
  | opening
  | closing
  | comma
  | dot
  deriving DecidableEq, Repr

def Token.push (word : List Char) (tokens : List Token) : List Token :=
  if word.isEmpty then tokens else .word (String.ofList word) :: tokens

@[simp] theorem Token.push_nil : Token.push [] = id := rfl

@[simp] theorem Token.push_cons (c : Char) (word : List Char) :
    Token.push (c :: word) = (Token.word (String.ofList (c :: word)) :: ·) := rfl

/-- The tokens of a text behind the word that is being read. Each placeholder takes the next value,
and no value may be left over. -/
def scan (word : List Char) : List Char → List Value → Option (List Token)
  | [], params => if params.isEmpty then some (Token.push word []) else none
  | c :: rest, params =>
    if isNameChar c then scan (word ++ [c]) rest params
    else Option.map (Token.push word) <|
      match c, rest, params with
      | ' ', rest, params => scan [] rest params
      | '?', rest, value :: params => (scan [] rest params).map (.value value :: ·)
      | '(', rest, params => (scan [] rest params).map (.opening :: ·)
      | ')', rest, params => (scan [] rest params).map (.closing :: ·)
      | ',', rest, params => (scan [] rest params).map (.comma :: ·)
      | '.', rest, params => (scan [] rest params).map (.dot :: ·)
      | '=', rest, params => (scan [] rest params).map (.comparison .equal :: ·)
      | '>', '=' :: rest, params => (scan [] rest params).map (.comparison .atLeast :: ·)
      | '<', '=' :: rest, params => (scan [] rest params).map (.comparison .atMost :: ·)
      | _, _, _ => none

/-- What stands before an operand inside its parentheses: the alternatives before the last OR, and
the factors since then. -/
structure Slot where
  alternatives : Option Formula
  factors : Option Formula

/-- What is read inside parentheses up to the end of an operand. -/
structure Reading where
  alternatives : Option Formula
  term : Formula

def Slot.start : Slot := ⟨none, none⟩

def Slot.fill (slot : Slot) (formula : Formula) : Reading :=
  ⟨slot.alternatives, match slot.factors with
    | none => formula
    | some factors => .both factors formula⟩

@[simp] theorem Slot.start_fill (formula : Formula) :
    Slot.start.fill formula = ⟨none, formula⟩ := rfl

namespace Reading

def formula (reading : Reading) : Formula :=
  match reading.alternatives with
  | none => reading.term
  | some alternatives => .either alternatives reading.term

def conj (reading : Reading) : Slot := ⟨reading.alternatives, some reading.term⟩

def disj (reading : Reading) : Slot := ⟨some reading.formula, none⟩

theorem formula_eq_yes {row : Row} {reading : Reading} :
    reading.formula.truth row = .yes ↔
      (∃ formula ∈ reading.alternatives, formula.truth row = .yes) ∨
        reading.term.truth row = .yes := by
  obtain ⟨alternatives, term⟩ := reading
  cases alternatives <;> simp [formula, Formula.truth]

end Reading

/-- The truth of `0 = 1` and of `1 = 1`. -/
def constant? (column : Column) (text : String) : Option Bool :=
  if text = "1" then
    if column = ⟨none, "0"⟩ then some false
    else if column = ⟨none, "1"⟩ then some true
    else none
  else none

mutual

/-- Read an operand and what follows it. -/
def operand (stack : List Slot) (slot : Slot) : List Token → Option Formula
  | .opening :: rest => operand (slot :: stack) .start rest
  | .word table :: .dot :: .word name :: rest => test stack slot ⟨some table, name⟩ rest
  | .word name :: rest => test stack slot ⟨none, name⟩ rest
  | _ => none

def test (stack : List Slot) (slot : Slot) (column : Column) : List Token → Option Formula
  | .comparison comparison :: .value value :: rest =>
    connective stack (slot.fill (.compare column comparison value)) rest
  | .comparison .equal :: .word text :: rest =>
    match constant? column text with
    | some value => connective stack (slot.fill (.constant value)) rest
    | none => none
  | .word text :: .opening :: rest =>
    if text = "IN" then values stack slot (.among column) [] rest else none
  | .word first :: .word second :: .opening :: rest =>
    if first = "NOT" ∧ second = "IN" then values stack slot (.notAmong column) [] rest else none
  | _ => none

/-- Read the values of a list behind those seen. -/
def values (stack : List Slot) (slot : Slot) (test : List Value → Formula) (seen : List Value) :
    List Token → Option Formula
  | .value value :: .comma :: rest => values stack slot test (seen ++ [value]) rest
  | .value value :: .closing :: rest => connective stack (slot.fill (test (seen ++ [value]))) rest
  | _ => none

/-- Go on behind an operand. The parentheses that a stack lists have to be closed. -/
def connective (stack : List Slot) (reading : Reading) : List Token → Option Formula
  | [] => if stack.isEmpty then some reading.formula else none
  | .closing :: rest =>
    match stack with
    | [] => none
    | slot :: stack => connective stack (slot.fill reading.formula) rest
  | .word text :: rest =>
    if text = "AND" then operand stack reading.conj rest
    else if text = "OR" then operand stack reading.disj rest
    else none
  | _ => none

end

/-- The formula a text with bound values is read as. The empty text constrains nothing. -/
def Fragment.formula? (fragment : Fragment) : Option Formula :=
  if fragment.sql = "" then if fragment.params.isEmpty then some (.constant true) else none
  else (scan [] fragment.sql.toList fragment.params).bind (operand [] .start)

/-! ## One character at a time -/

section Characters

variable {word rest : List Char} {params : List Value}

theorem scan_letter {c : Char} (h : isNameChar c = true) :
    scan word (c :: rest) params = scan (word ++ [c]) rest params := by
  rw [scan.eq_def]
  exact if_pos h

@[simp] theorem scan_end : scan [] [] [] = some [] := rfl

@[simp] theorem scan_left {value : Value} : scan [] [] (value :: params) = none := rfl

@[simp] theorem scan_space :
    scan word (' ' :: rest) params = (scan [] rest params).map (Token.push word) := rfl

@[simp] theorem scan_placeholder {value : Value} :
    scan word ('?' :: rest) (value :: params) =
      ((scan [] rest params).map (.value value :: ·)).map (Token.push word) := rfl

@[simp] theorem scan_opening :
    scan word ('(' :: rest) params =
      ((scan [] rest params).map (.opening :: ·)).map (Token.push word) := rfl

@[simp] theorem scan_closing :
    scan word (')' :: rest) params =
      ((scan [] rest params).map (.closing :: ·)).map (Token.push word) := rfl

@[simp] theorem scan_comma :
    scan word (',' :: rest) params =
      ((scan [] rest params).map (.comma :: ·)).map (Token.push word) := rfl

@[simp] theorem scan_dot :
    scan word ('.' :: rest) params =
      ((scan [] rest params).map (.dot :: ·)).map (Token.push word) := rfl

@[simp] theorem scan_equal :
    scan word ('=' :: rest) params =
      ((scan [] rest params).map (.comparison .equal :: ·)).map (Token.push word) := rfl

@[simp] theorem scan_atLeast :
    scan word ('>' :: '=' :: rest) params =
      ((scan [] rest params).map (.comparison .atLeast :: ·)).map (Token.push word) := rfl

@[simp] theorem scan_atMost :
    scan word ('<' :: '=' :: rest) params =
      ((scan [] rest params).map (.comparison .atMost :: ·)).map (Token.push word) := rfl

end Characters

/-! ## One rule of the grammar at a time -/

section Grammar

variable {stack : List Slot} {slot : Slot} {reading : Reading} {column : Column} {rest : List Token}

@[simp] theorem operand_opening :
    operand stack slot (.opening :: rest) = operand (slot :: stack) .start rest := rfl

@[simp] theorem operand_qualified {table name : String} :
    operand stack slot (.word table :: .dot :: .word name :: rest) =
      test stack slot ⟨some table, name⟩ rest := rfl

theorem operand_name {name : String} (h : rest.head? ≠ some .dot) :
    operand stack slot (.word name :: rest) = test stack slot ⟨none, name⟩ rest := by
  cases rest with
  | nil => rfl
  | cons token rest =>
    cases token with
    | dot => exact absurd rfl h
    | _ => rfl

@[simp] theorem test_value {comparison : Comparison} {value : Value} :
    test stack slot column (.comparison comparison :: .value value :: rest) =
      connective stack (slot.fill (.compare column comparison value)) rest := by
  cases comparison <;> rfl

theorem test_constant {text : String} {value : Bool} (h : constant? column text = some value) :
    test stack slot column (.comparison .equal :: .word text :: rest) =
      connective stack (slot.fill (.constant value)) rest := by
  rw [show test stack slot column (.comparison .equal :: .word text :: rest) =
    match constant? column text with
    | some value => connective stack (slot.fill (.constant value)) rest
    | none => none from rfl, h]

@[simp] theorem test_in :
    test stack slot column (.word "IN" :: .opening :: rest) =
      values stack slot (.among column) [] rest := by
  rw [show test stack slot column (.word "IN" :: .opening :: rest) =
    if "IN" = "IN" then values stack slot (.among column) [] rest else none from rfl, if_pos rfl]

@[simp] theorem test_notIn :
    test stack slot column (.word "NOT" :: .word "IN" :: .opening :: rest) =
      values stack slot (.notAmong column) [] rest := by
  rw [show test stack slot column (.word "NOT" :: .word "IN" :: .opening :: rest) =
    if "NOT" = "NOT" ∧ "IN" = "IN" then values stack slot (.notAmong column) [] rest else none
    from rfl, if_pos ⟨rfl, rfl⟩]

@[simp] theorem values_comma {make : List Value → Formula} {seen : List Value} {value : Value} :
    values stack slot make seen (.value value :: .comma :: rest) =
      values stack slot make (seen ++ [value]) rest := rfl

@[simp] theorem values_closing {make : List Value → Formula} {seen : List Value} {value : Value} :
    values stack slot make seen (.value value :: .closing :: rest) =
      connective stack (slot.fill (make (seen ++ [value]))) rest := rfl

@[simp] theorem connective_end : connective [] reading [] = some reading.formula := rfl

@[simp] theorem connective_closing :
    connective (slot :: stack) reading (.closing :: rest) =
      connective stack (slot.fill reading.formula) rest := rfl

@[simp] theorem connective_and :
    connective stack reading (.word "AND" :: rest) = operand stack reading.conj rest := if_pos rfl

@[simp] theorem connective_or :
    connective stack reading (.word "OR" :: rest) = operand stack reading.disj rest := by
  exact (if_neg (by decide)).trans (if_pos rfl)

end Grammar

/-! ## Tokens of texts -/

/-- The text does not go on with a word. -/
def Ends (text : List Char) : Prop := ∀ c, text.head? = some c → isNameChar c = false

theorem Ends.append {a b : List Char} (ha : Ends a) (hb : Ends b) : Ends (a ++ b) := by
  cases a with
  | nil => exact hb
  | cons c rest => exact ha

theorem ends_of_cons {c : Char} {rest : List Char} (h : isNameChar c = false) :
    Ends (c :: rest) := by
  intro d hd
  obtain rfl : c = d := by simpa using hd
  exact h

/-- The text is written with these tokens, unless it is followed by more of its last word. -/
def Spells (text : String) (params : List Value) (tokens : List Token) : Prop :=
  ∀ rest more, Ends rest →
    scan [] (text.toList ++ rest) (params ++ more) = (scan [] rest more).map (tokens ++ ·)

/-- The text is written with these tokens whatever follows. -/
def Closed (text : String) (params : List Value) (tokens : List Token) : Prop :=
  ∀ rest more,
    scan [] (text.toList ++ rest) (params ++ more) = (scan [] rest more).map (tokens ++ ·)

section Scan

variable {a b : String} {pa pb : List Value} {ta tb : List Token}

theorem Closed.spells (h : Closed a pa ta) : Spells a pa ta :=
  fun rest more _ => h rest more

theorem Spells.append (ha : Spells a pa ta) (hb : Spells b pb tb) (hends : Ends b.toList) :
    Spells (a ++ b) (pa ++ pb) (ta ++ tb) := by
  intro rest more hrest
  rw [String.toList_append, List.append_assoc, List.append_assoc,
    ha _ _ (hends.append hrest), hb _ _ hrest, Option.map_map]
  congr 1
  funext tokens
  simp

theorem Closed.append (ha : Closed a pa ta) (hb : Spells b pb tb) :
    Spells (a ++ b) (pa ++ pb) (ta ++ tb) := by
  intro rest more hrest
  rw [String.toList_append, List.append_assoc, List.append_assoc, ha, hb _ _ hrest, Option.map_map]
  congr 1
  funext tokens
  simp

theorem scan_name {name : List Char} (h : name.all isNameChar = true) (word rest : List Char)
    (params : List Value) : scan word (name ++ rest) params = scan (word ++ name) rest params := by
  induction name generalizing word with
  | nil => simp
  | cons c name ih =>
    obtain ⟨hc, hname⟩ : isNameChar c = true ∧ name.all isNameChar = true := by simpa using h
    rw [List.cons_append, scan_letter hc, ih hname, List.append_assoc, List.singleton_append]

theorem scan_behind_word {rest : List Char} (h : Ends rest) (word : List Char)
    (params : List Value) :
    scan word rest params = (scan [] rest params).map (Token.push word) := by
  cases rest with
  | nil => cases params <;> rfl
  | cons c rest =>
    have hc : isNameChar c = false := h c rfl
    rw [scan.eq_def, scan.eq_def]
    simp only [hc, Bool.false_eq_true, ↓reduceIte, Token.push_nil, Option.map_id, id]

theorem spells_name {name : String} (h : isIdentifier name = true) :
    Spells name [] [.word name] := by
  obtain ⟨hne, hall⟩ : name.isEmpty = false ∧ name.toList.all isNameChar = true := by
    simpa [isIdentifier] using h
  intro rest more hrest
  have hword : name.toList.isEmpty = false := by
    simpa [String.isEmpty_iff] using hne
  rw [scan_name hall, scan_behind_word hrest, List.nil_append, List.nil_append]
  congr 1
  funext tokens
  simp [Token.push, hword]

/-- Every placeholder has taken a value. -/
theorem count_of_scan {word text : List Char} {params : List Value} {tokens : List Token}
    (h : scan word text params = some tokens) : text.count '?' = params.length := by
  have hmark : isNameChar '?' = false := by decide
  fun_induction scan word text params generalizing tokens with
  | case1 word params hempty => simp_all
  | case2 word params hleft => cases h
  | case3 word c rest params hc ih =>
    have hother : c ≠ '?' := by
      rintro rfl
      simp [hmark] at hc
    rw [List.count_cons_of_ne hother, ih h]
  | case4 word c rest params hc ih =>
    obtain ⟨found, hfound, -⟩ := Option.map_eq_some_iff.mp h
    split at hfound <;> simp_all
    all_goals
      obtain ⟨after, hafter, -⟩ := hfound
      exact ih hafter

end Scan

end SegmentRules.Sql

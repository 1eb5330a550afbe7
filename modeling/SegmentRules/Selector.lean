import SegmentRules.Error
import SegmentRules.Json.Decode
import SegmentRules.Text.Blank
import SegmentRules.Text.Parts

/-! # Product selectors -/
namespace SegmentRules

/-- A product, or one price of it. -/
structure Selector where
  product : UInt64
  variant : Option UInt64
  deriving DecidableEq, Repr

namespace Selector

def separator : Char := ':'

def display (selector : Selector) : String :=
  match selector.variant with
  | none => Numeral.decimal selector.product.toNat
  | some variant =>
    Numeral.decimal selector.product.toNat ++ ":" ++ Numeral.decimal variant.toNat

def parseProduct (part : List Char) : Except SelectorFault UInt64 :=
  match Numeral.uint64? (Text.trim part) with
  | none => .error (.productNotInteger (String.ofList part))
  | some id => if id = 0 then .error .productNotPositive else .ok id

def parseVariant (part : List Char) : Except SelectorFault UInt64 :=
  match Numeral.uint64? (Text.trim part) with
  | none => .error (.variantNotInteger (String.ofList part))
  | some id => .ok id

def parseTrimmed (token : List Char) : Except SelectorFault Selector :=
  match Text.splitFirst separator token with
  | none => do return ⟨← parseProduct token, none⟩
  | some (product, variant) => do
    let product ← parseProduct product
    return ⟨product, some (← parseVariant variant)⟩

/-- The selector of a token. An error shows the token without the blanks around it. -/
def parse (token : String) : Except RuleError Selector :=
  let token := Text.trim token.toList
  (parseTrimmed token).mapError (.malformedSelector (String.ofList token))

def selects (selector : Selector) (product : UInt64) (price : Option UInt64) : Bool :=
  selector.product == product && (selector.variant.isNone || price == selector.variant)

/-- The selectors of the well-formed tokens, each once, in the order of their first tokens. -/
def ofTokens (tokens : List String) : List Selector :=
  (tokens.filterMap fun token => (parse token).toOption).eraseDups

/-- The selectors of tokens, of which one at least has to be well formed. -/
def parseAll (tokens : List String) : Except RuleError (List Selector) :=
  match ofTokens tokens with
  | [] => .error .noSelectors
  | selectors => .ok selectors

def toJson (selector : Selector) : Json :=
  .object [("product_id", .ofUInt64 selector.product),
    ("variant_id", .ofOption .ofUInt64 selector.variant)]

def ofJson? (value : Json) : Option Selector := do
  let record ← value.record? ["product_id", "variant_id"]
  return ⟨← record.required? "product_id" Json.uint64?,
    ← record.optional? "variant_id" (Json.nullable? Json.uint64?)⟩

end Selector
end SegmentRules

import SegmentRules.Product.Catalog
import SegmentRules.Selector

/-! # Choices of a product selector -/
namespace SegmentRules

structure SelectorOption where
  id : String
  title : String
  deriving DecidableEq, Repr

namespace SelectorOption

def toJson (option : SelectorOption) : Json :=
  .object [("id", .string option.id), ("title", .string option.title)]

def ofJson? (value : Json) : Option SelectorOption := do
  let record ← value.record? ["id", "title"]
  return ⟨← record.required? "id" Json.string?, ← record.required? "title" Json.string?⟩

end SelectorOption

/-- The name of a price; a number serves for a missing or empty one. -/
def PriceOption.title (price : PriceOption) : String :=
  match price.name with
  | some name => if name = "" then "Price Option " ++ Numeral.decimal price.id.toNat else name
  | none => "Price Option " ++ Numeral.decimal price.id.toNat

def Product.options (product : Product) : List SelectorOption :=
  match product.prices with
  | [] => [⟨Selector.display ⟨product.id, none⟩, product.title⟩]
  | prices => prices.map fun price =>
    ⟨Selector.display ⟨product.id, some price.id⟩, product.title ++ " - " ++ price.title⟩

namespace ProductSource

/-- The choices of products in turn; unknown products have none, and a failure ends it. -/
def optionsOf (source : ProductSource) : List UInt64 → Except RuleError (List SelectorOption)
  | [] => .ok []
  | id :: rest =>
    match source.product id with
    | .error error => .error (.catalogFailed error)
    | .ok product => (source.optionsOf rest).map ((product.elim [] Product.options) ++ ·)

/-- The choices of the products found and then of those wanted anyway, each product once. -/
def options (source : ProductSource) (limit : Nat) (term : String) (included : List UInt64) :
    Except RuleError (List SelectorOption) :=
  match source.search term limit with
  | .error error => .error (.catalogFailed error)
  | .ok found => source.optionsOf (found ++ included).eraseDups

end ProductSource
end SegmentRules

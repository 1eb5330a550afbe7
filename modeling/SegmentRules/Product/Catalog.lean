import SegmentRules.Error
import SegmentRules.Json.Decode
import SegmentRules.Text.Blank
import SegmentRules.Text.Lowercase
import SegmentRules.Text.Parts

/-! # Products and their search -/
namespace SegmentRules

structure PriceOption where
  id : UInt64
  name : Option String
  deriving DecidableEq, Repr

/-- A product; one with a single price has no price options. -/
structure Product where
  id : UInt64
  title : String
  prices : List PriceOption
  deriving DecidableEq, Repr

namespace PriceOption

def toJson (price : PriceOption) : Json :=
  .object [("id", .ofUInt64 price.id), ("name", .ofOption .string price.name)]

def ofJson? (value : Json) : Option PriceOption := do
  let record ← value.record? ["id", "name"]
  return ⟨← record.required? "id" Json.uint64?,
    ← record.withDefault? "name" none (Json.nullable? Json.string?)⟩

end PriceOption

namespace Product

def toJson (product : Product) : Json :=
  .object [("id", .ofUInt64 product.id), ("title", .string product.title),
    ("variable_prices", .array (product.prices.map PriceOption.toJson))]

def ofJson? (value : Json) : Option Product := do
  let record ← value.record? ["id", "title", "variable_prices"]
  return ⟨← record.required? "id" Json.uint64?, ← record.required? "title" Json.string?,
    ← record.withDefault? "variable_prices" [] (Json.list? PriceOption.ofJson?)⟩

def titleLe (a b : Product) : Bool := a.title ≤ b.title

/-- Whether the title contains a text in small letters, in any letters. -/
def titleContains (product : Product) (term : List Char) : Bool :=
  Text.occursIn term (Text.lower product.title.toList)

end Product

/-- Products in memory, in the order they were last inserted. -/
structure ProductList where
  products : List Product
  deriving DecidableEq, Repr

namespace ProductList

def empty : ProductList := ⟨[]⟩

/-- Put a product at the end, in place of an earlier one with its id. -/
def insert (list : ProductList) (product : Product) : ProductList :=
  ⟨list.products.filter (·.id != product.id) ++ [product]⟩

/-- The products whose title contains the term; for a blank term all of them by title. -/
def matching (list : ProductList) (term : String) : List Product :=
  let term := Text.lower (Text.trim term.toList)
  if term.isEmpty then list.products.mergeSort Product.titleLe
  else list.products.filter (·.titleContains term)

def search (list : ProductList) (term : String) (limit : Nat) : List UInt64 :=
  ((list.matching term).take limit).map (·.id)

def product? (list : ProductList) (id : UInt64) : Option Product :=
  list.products.find? (·.id == id)

end ProductList

structure ProductSource where
  search : String → Nat → Except CatalogError (List UInt64)
  product : UInt64 → Except CatalogError (Option Product)

namespace ProductSource

def ofList (list : ProductList) : ProductSource where
  search term limit := .ok (list.search term limit)
  product id := .ok (list.product? id)

/-- The source with failures in place of answers: for searches, and for some products. -/
def withFailures (source : ProductSource) (search : Option String)
    (products : List (UInt64 × String)) : ProductSource where
  search term limit :=
    match search with
    | some message => .error (.unavailable message)
    | none => source.search term limit
  product id :=
    match products.lookup id with
    | some message => .error (.unavailable message)
    | none => source.product id

end ProductSource
end SegmentRules

import SegmentRules.Contact.Query
import SegmentRules.Operator

/-! # Restricting a query to members of a set -/
namespace SegmentRules

/-- The id no contact has. -/
def impossibleId : UInt64 := 0

namespace IdentitySet

def alternatives (columns : IdentityColumns) (set : IdentitySet) : List Step :=
  let accounts := set.accounts.map Sql.Value.uint
  let emails := set.emails.map Sql.Value.text
  (if accounts.isEmpty then [] else [.whereIn columns.accountId accounts]) ++
    if emails.isEmpty then []
    else if accounts.isEmpty then [.whereIn columns.email emails]
    else [.orWhereIn columns.email emails]

def exclusions (columns : IdentityColumns) (set : IdentitySet) : List Step :=
  (if set.accounts.isEmpty then []
    else [.whereNotIn columns.accountId (set.accounts.map .uint)]) ++
    if set.emails.isEmpty then [] else [.whereNotIn columns.email (set.emails.map .text)]

/-- The steps that keep the members of a set, or the others. Members of nothing are nobody. -/
def restriction (columns : IdentityColumns) (operator : Operator) (set : IdentitySet) : List Step :=
  match operator with
  | .member =>
    if set.isEmpty then [.whereEq columns.id (.uint impossibleId)]
    else [.group (set.alternatives columns)]
  | .nonMember => set.exclusions columns

end IdentitySet

def ContactQuery.restrict (query : ContactQuery) (columns : IdentityColumns) (operator : Operator)
    (set : IdentitySet) : ContactQuery :=
  query.extend (set.restriction columns operator)

end SegmentRules

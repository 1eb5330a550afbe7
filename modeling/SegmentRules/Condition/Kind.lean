import SegmentRules.Error
import SegmentRules.Operator
import SegmentRules.Status
import SegmentRules.Text.Parts

/-! # Kinds of conditions -/
namespace SegmentRules

/-- What a condition asks of a contact: a subscription in a status, or in any; or an active one that
expires within some days. -/
inductive Kind
  | hasSubscription (status : Option Status)
  | expiringWithin (days : UInt32)
  deriving DecidableEq, Repr

namespace Kind

def hasStart : String := "has_subscription_"
def expiringStart : String := "subscription_expiring_"
def anyStatus : String := "any"

def key : Kind → String
  | .hasSubscription none => hasStart ++ anyStatus
  | .hasSubscription (some status) => hasStart ++ status.name
  | .expiringWithin days => expiringStart ++ Numeral.decimal days.toNat ++ "d"

/-- The statuses asked for; all of them if the list is empty. -/
def statuses : Kind → List Status
  | .hasSubscription status => status.toList
  | .expiringWithin _ => []

def windowDays : Kind → Option UInt32
  | .hasSubscription _ => none
  | .expiringWithin days => some days

def days? (text : List Char) : Option UInt32 :=
  match text.reverse with
  | 'd' :: digits =>
    match Numeral.readNatural (UInt32.size - 1) digits.reverse with
    | .ok days => if days = 0 then none else some (UInt32.ofNat days)
    | .error _ => none
  | _ => none

/-- The kind with a key. Days may be written with zeros or a plus sign in front. -/
def ofKey? (key : String) : Option Kind :=
  match Text.dropStart? hasStart.toList key.toList with
  | some status =>
    let status := String.ofList status
    if status = anyStatus then some (.hasSubscription none)
    else (Status.ofName? status).map fun status => .hasSubscription (some status)
  | none => (Text.dropStart? expiringStart.toList key.toList).bind fun days =>
    (days? days).map .expiringWithin

def parse (key : String) : Except RuleError Kind :=
  match ofKey? key with
  | some kind => .ok kind
  | none => .error (.unknownCondition key)

def statusLabel : Option Status → String
  | none => "Any Status"
  | some status => status.label

def statusPhrase : Option Status → String
  | none => "any status"
  | some status => status.name

def label : Kind → String
  | .hasSubscription status => "Has " ++ statusLabel status ++ " Subscription"
  | .expiringWithin days =>
    "Subscription Expiring in " ++ Numeral.decimal days.toNat ++ " Days"

def help : Kind → String
  | .hasSubscription status =>
    "Filter contacts who have a " ++ statusPhrase status ++ " subscription for selected products"
  | .expiringWithin days =>
    "Filter contacts whose active subscription will expire within " ++
      Numeral.decimal days.toNat ++ " days"

def operatorLabel : Kind → Operator → String
  | .hasSubscription status, .member => "Has " ++ statusLabel status
  | .hasSubscription status, .nonMember => "Does Not Have " ++ statusLabel status
  | .expiringWithin days, .member => "Expiring in " ++ Numeral.decimal days.toNat ++ " Days"
  | .expiringWithin days, .nonMember => "Not Expiring in " ++ Numeral.decimal days.toNat ++ " Days"

end Kind
end SegmentRules

import SegmentRules.Double.Style
import SegmentRules.Files.Fault
import SegmentRules.Text.Quoted

/-! # What can go wrong -/
namespace SegmentRules

inductive StoreError
  | connection (message : String)
  | query (message : String)
  deriving DecidableEq, Repr

def StoreError.message : StoreError → String
  | .connection message => "connection error: " ++ message
  | .query message => "query error: " ++ message

inductive CatalogError
  | unavailable (message : String)
  deriving DecidableEq, Repr

def CatalogError.message : CatalogError → String
  | .unavailable message => "catalog unavailable: " ++ message

inductive SelectorFault
  | productNotPositive
  | productNotInteger (part : String)
  | variantNotInteger (part : String)
  deriving DecidableEq, Repr

def SelectorFault.message : SelectorFault → String
  | .productNotPositive => "product id must be positive"
  | .productNotInteger part => "product id " ++ Text.quoted part ++ " is not an integer"
  | .variantNotInteger part => "variant id " ++ Text.quoted part ++ " is not an integer"

inductive SettingsError
  | invalidIdentifier (name value : String)
  | offsetOutOfRange (hours : Double)
  | providerMissing
  | limitNotPositive
  | unreadableText
  | limitNotWritable
  | windowOutOfRange (days : UInt32)
  | cannotRead (path : String) (fault : Files.Fault)
  | cannotWrite (fault : Files.Fault)
  deriving DecidableEq, Repr

/-- Hours in messages have no exponent, and no point if they are whole. -/
def hoursStyle : Double.Style := ⟨-1000, 1000, false, false, .up, "NaN", false⟩

def SettingsError.message : SettingsError → String
  | .invalidIdentifier name value =>
    name ++ " is not a valid SQL identifier: " ++ Text.quoted value
  | .offsetOutOfRange hours => "utc_offset_hours out of range: " ++ hours.text hoursStyle
  | .providerMissing => "commerce_provider must be set"
  | .limitNotPositive => "selector_search_limit must be positive"
  | .unreadableText => "TOML parse error"
  | .limitNotWritable => "out-of-range value for u64 type"
  | .windowOutOfRange days =>
    "expiration window of " ++ Numeral.decimal days.toNat ++ " days is out of range"
  | .cannotRead path fault => path ++ ": " ++ fault.message
  | .cannotWrite fault => fault.message

inductive RuleError
  | malformedSelector (token : String) (fault : SelectorFault)
  | noSelectors
  | lookupFailed (error : StoreError)
  | ambiguousAccount (byAccount byEmail : UInt64)
  | unknownCondition (key : String)
  | conditionDisabled (key : String)
  | unsupportedOperator (property operator : String)
  | catalogFailed (error : CatalogError)
  | settings (error : SettingsError)
  /-- No error that anyone is told of or can handle: the program is broken off, as a site has no
  time outside the calendar. -/
  | panicked
  deriving DecidableEq, Repr

namespace RuleError

def message : RuleError → String
  | .malformedSelector token fault =>
    "malformed selector " ++ Text.quoted token ++ ": " ++ fault.message
  | .noSelectors => "condition has no usable selectors"
  | .lookupFailed error => "subscription lookup failed: " ++ error.message
  | .ambiguousAccount byAccount byEmail =>
    "account id matches customer " ++ Numeral.decimal byAccount.toNat ++
      " but email matches customer " ++ Numeral.decimal byEmail.toNat
  | .unknownCondition key => "unknown condition: " ++ key
  | .conditionDisabled key => "condition disabled: " ++ key
  | .unsupportedOperator property operator =>
    "operator " ++ Text.quoted operator ++ " not supported by " ++ property
  | .catalogFailed error => "product catalog error: " ++ error.message
  | .settings error => "config error: " ++ error.message
  | .panicked => "Local time out of range for `NaiveDateTime`"

/-- Whether the condition at fault is dropped and the others are evaluated. -/
def isSkippable : RuleError → Bool
  | .noSelectors => true
  | .unknownCondition _ => true
  | .conditionDisabled _ => true
  | .unsupportedOperator _ _ => true
  | _ => false

end RuleError
end SegmentRules

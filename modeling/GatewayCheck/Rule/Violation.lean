import GatewayCheck.Expression
import GatewayCheck.SetupError

/-!
What a rule finds wrong with a document whose structure is right.
-/
namespace GatewayCheck

/-- The ways to break a rule. -/
inductive RuleViolation where
  | expression (position : Nat) (defect : Expression.Defect)
  | unknownHashSource (name : String)
  | missingKey (source : String)
  | invalidKey (source key : String) (reason : Schema.Violation)
  | nodeCount (count : Nat)
  | unknownHostPolicy (name : String)
  | missingHost
  | emptyAddress (position : Nat)
  deriving Repr

/-- The text of a broken rule. -/
def RuleViolation.message : RuleViolation → String
  | expression position defect =>
    "invalid vars expression at index " ++ Number.wholeText position ++ ": " ++ defect.message
  | unknownHashSource name => "invalid hash_on type: " ++ Text.quoted name
  | missingKey source => "hash_on " ++ Text.quoted source ++ " requires a non-empty key"
  | invalidKey source key reason =>
    "invalid key " ++ Text.quoted key ++ " for hash_on " ++ Text.quoted source ++ ": " ++
      reason.message
  | nodeCount count =>
    "pass_host \"node\" requires exactly one node, found " ++ Number.wholeText count
  | unknownHostPolicy name => "invalid pass_host: " ++ Text.quoted name
  | missingHost => "pass_host \"rewrite\" requires a non-empty upstream_host"
  | emptyAddress position =>
    "remote address at index " ++ Number.wholeText position ++ " is empty"

/-- Why a rule does not pass: it is broken, or a schema that it needs cannot be had. -/
inductive RuleFailure where
  | broken (violation : RuleViolation)
  | setup (error : SetupError)
  deriving Repr

end GatewayCheck

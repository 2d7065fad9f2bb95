/-
  VirtualService/DefinitionError.lean
  ===================================
  **What can be wrong with a predicate or a response.**

  Faults of definitions come up when a stub is read or built, never while a
  request is resolved.  They are the cases of the service's `ConfigError`, with its
  texts but for the reasons that libraries give.
-/
import VirtualService.Decode

namespace VirtualService

/-- What is wrong with the form of a predicate. -/
inductive PredicateFault where
  | notObject (found : Json)
  | noOperator
  | severalOperators (first second : String)
  | parametersRefused (operator : String)
  | notArray (operator : String)
  | fieldsMissing (operator : String)
  | fieldsWrong (operator : String) (found : Json)
  | parameters (cause : DecodeError)
  | presenceOfArray
  | presenceNotFlag (found : Json)
deriving Repr, Inhabited

/-- What is wrong with an XPath selector. -/
inductive SelectorFault where
  | malformed
  | empty
  | namespaceNotText (label : String) (found : Json)
deriving Repr, Inhabited

/-- What is wrong with a script. -/
inductive ScriptFault where
  | malformed
  | notText (found : Json)
deriving Repr, Inhabited

/-- What is wrong with a response. -/
inductive ResponseFault where
  | notObject (found : Json)
  | proxy (cause : DecodeError)
  | literal (cause : DecodeError)
  | unknownKind (kind : String)
  | badRepeat (found : Json)
deriving Repr, Inhabited

/-- A fault of a predicate or a response. -/
inductive DefinitionError where
  | unknownOperator (name : String)
  | invalidPredicate (fault : PredicateFault)
  | invalidRegex (pattern : String)
  | invalidJsonPath (selector : String)
  | invalidXPath (selector : String) (fault : SelectorFault)
  | invalidResponse (fault : ResponseFault)
  | injectionDisabled
  | invalidInject (fault : ScriptFault)
deriving Repr, Inhabited

namespace PredicateFault

def message : PredicateFault → String
  | notObject found => "predicate must be an object, got " ++ found.compact
  | noOperator => "predicate has no operator"
  | severalOperators first second =>
      "predicate has more than one operator (" ++ first ++ ", " ++ second ++ ")"
  | parametersRefused operator => operator ++ " does not accept predicate parameters"
  | notArray operator => operator ++ " expects an array of predicates"
  | fieldsMissing operator => operator ++ " expects an object of fields"
  | fieldsWrong operator found => operator ++ " expects an object of fields, got " ++ found.compact
  | parameters cause => cause.message
  | presenceOfArray => "exists expects true/false or an object of them"
  | presenceNotFlag found => "exists expects true or false, got " ++ found.compact

end PredicateFault

namespace SelectorFault

/-- What follows the selector in the message. -/
def suffix : SelectorFault → String
  | malformed => ""
  | empty => ": empty expression"
  | namespaceNotText label found =>
      ": namespace '" ++ label ++ "' must map to a URI string, got " ++ found.compact

end SelectorFault

namespace ScriptFault

def message : ScriptFault → String
  | malformed => "Failed to compile script"
  | notText found => "inject expects a script string, got " ++ found.compact

end ScriptFault

namespace ResponseFault

def message : ResponseFault → String
  | notObject found => "response must be an object, got " ++ found.compact
  | proxy cause => "proxy: " ++ cause.message
  | literal cause => "is: " ++ cause.message
  | unknownKind kind => "unsupported response type '" ++ kind ++ "'"
  | badRepeat found => "repeat must be a positive integer, got " ++ found.compact

end ResponseFault

namespace DefinitionError

/-- The text of a fault.  The text of a malformed pattern, selector or script stops where the libraries
    that read them would go on with their reasons, which are left out. -/
def message : DefinitionError → String
  | unknownOperator name => "Unknown predicate operator: " ++ name
  | invalidPredicate fault => "Invalid predicate: " ++ fault.message
  | invalidRegex pattern => "Invalid regex '" ++ pattern ++ "'"
  | invalidJsonPath selector => "Invalid jsonpath selector '" ++ selector ++ "'"
  | invalidXPath selector fault => "Invalid xpath selector '" ++ selector ++ "'" ++ fault.suffix
  | invalidResponse fault => "Invalid response: " ++ fault.message
  | injectionDisabled => "Inject predicates require an injector; injection is disabled"
  | invalidInject fault => "Invalid inject source: " ++ fault.message

end DefinitionError

end VirtualService

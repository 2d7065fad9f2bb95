/-
  VirtualService/Predicate/Normal.lean
  ====================================
  **The form in which scalars are compared.**

  Scalars are compared as texts.  What a pattern matches is first taken out of
  both sides, and unless case counts both are put in lower case.

  `Json.plainText` is `stringify`, `Normalizer.strip` and `Normalizer.normal` are
  `strip` and `text` of the service's `Normalizer`, and `TextRelation.holds` is
  `holds` of its relation of texts.
-/
import VirtualService.Json.Printer
import VirtualService.Predicate.Definition
import VirtualService.Regex.Match
import VirtualService.Text.Split

namespace VirtualService

/-- The text of a value: a text as it is, anything else in its compact written form. -/
def Json.plainText : Json → String
  | .str s => s
  | other => other.compact

/-- How texts are put into the form in which they are compared. -/
structure Normalizer where
  caseSensitive : Bool
  excluded : Option Regex
deriving Inhabited

namespace Normalizer

/-- A text without what is excluded. -/
def strip (n : Normalizer) (text : String) : String :=
  match n.excluded with
  | some pattern => pattern.without text
  | none => text

/-- A text without what is excluded, in lower case unless case counts. -/
def normal (n : Normalizer) (text : String) : String :=
  if n.caseSensitive then n.strip text else lowered (n.strip text)

end Normalizer

/-- How two texts in normal form are compared. -/
inductive TextRelation where
  | equal
  | containing
  | starting
  | ending
deriving DecidableEq, Repr, Inhabited

namespace TextRelation

/-- The relation that an operator asks for; beyond those about parts of texts it is equality. -/
def ofOperator : Operator → TextRelation
  | .contains => containing
  | .startsWith => starting
  | .endsWith => ending
  | _ => equal

/-- Whether the relation holds of an actual text and the expected one. -/
def holds (r : TextRelation) (actual expected : String) : Bool :=
  match r with
  | equal => actual == expected
  | containing => Split.contains actual.toList expected.toList
  | starting => expected.toList.isPrefixOf actual.toList
  | ending => expected.toList.isSuffixOf actual.toList

end TextRelation

end VirtualService

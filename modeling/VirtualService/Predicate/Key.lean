/-
  VirtualService/Predicate/Key.lean
  =================================
  **Keys of objects and paths of keys.**

  Keys are compared as they are or in lower case.  In lower case the first key in
  the order of the object that agrees is taken, even if a later one is spelled
  exactly as asked.  A path of keys leads through objects; on its way it enters
  arrays and takes the first item through which the rest of the path leads.

  `agree` is `keys_match`, `lookup?` is `lookup_entry`, `find?` is `lookup_key`,
  and `Json.navigate` is `navigate`.
-/
import VirtualService.Json.Basic
import VirtualService.Text.Lower

namespace VirtualService

/-- How keys are compared. -/
inductive KeyMatch where
  | folded
  | exact
deriving DecidableEq, Repr, Inhabited

namespace KeyMatch

/-- The policy that an option of case sensitivity asks for. -/
def ofCaseSensitive (sensitive : Bool) : KeyMatch := if sensitive then .exact else .folded

/-- The form of a key in which it is compared. -/
def form (m : KeyMatch) (key : String) : String :=
  match m with
  | .folded => lowered key
  | .exact => key

/-- Whether two keys agree. -/
def agree (m : KeyMatch) (a b : String) : Bool := m.form a == m.form b

/-- The first entry whose key agrees. -/
def lookup? {α : Type} (m : KeyMatch) (members : Dict α) (key : String) : Option (String × α) :=
  let wanted := m.form key
  List.find? (fun entry => m.form entry.1 == wanted) members

/-- The value of the first entry whose key agrees. -/
def find? {α : Type} (m : KeyMatch) (members : Dict α) (key : String) : Option α :=
  (m.lookup? members key).map Prod.snd

end KeyMatch

namespace Json

mutual

/-- What is left of a value when its arrays are opened, in order. -/
def opened : Json → List Json
  | .arr items => openedAll items
  | .null => [.null]
  | .bool b => [.bool b]
  | .num n => [.num n]
  | .str s => [.str s]
  | .obj members => [.obj members]

def openedAll : List Json → List Json
  | [] => []
  | item :: items => opened item ++ openedAll items

end

/-- The value at the end of a path of keys. -/
def navigate (m : KeyMatch) : List String → Json → Option Json
  | [], j => some j
  | key :: rest, j =>
      (opened j).findSome? fun part =>
        match part with
        | .obj members => (m.find? members key).bind (navigate m rest)
        | _ => none

end Json

end VirtualService

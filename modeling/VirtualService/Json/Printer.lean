/-
  VirtualService/Json/Printer.lean
  ================================
  **Compact JSON text.**

  No blanks; members in the order of the dictionary; in texts only the quote, the
  backslash and the control characters below the blank are escaped; a float has
  the fewest digits that read back.
-/
import VirtualService.Json.Basic
import VirtualService.Number.Digits

namespace VirtualService

/-! ### Numbers -/

/-- A positive decimal as JSON writes it: positional from `10^-5` up to below `10^16`, and a float never
    looks like an integer. -/
def Number.decimalText (d : Shortest.Decimal) : List Char :=
  let e := Digits.leadingExponent d
  if -5 ≤ e ∧ e < 16 then Digits.positional ['.', '0'] d else Digits.scientific d

/-- A finite float in JSON. -/
def Number.floatText (x : Double) : List Char :=
  let magnitude := if x.isZero then ['0', '.', '0'] else Number.decimalText (Shortest.ofDouble .toEven x)
  if x.negative then '-' :: magnitude else magnitude

def Number.chars : Number → List Char
  | .int i => Digits.ofInt i
  | .float x => if x.isFinite then Number.floatText x else ['n', 'u', 'l', 'l']

/-- The text of a number. -/
def Number.text (n : Number) : String := String.ofList n.chars

namespace Json

/-! ### Texts -/

/-- A character inside a JSON text. -/
def escapeChar (c : Char) : List Char :=
  if c = '"' then ['\\', '"']
  else if c = '\\' then ['\\', '\\']
  else if c.toNat = 8 then ['\\', 'b']
  else if c.toNat = 9 then ['\\', 't']
  else if c.toNat = 10 then ['\\', 'n']
  else if c.toNat = 12 then ['\\', 'f']
  else if c.toNat = 13 then ['\\', 'r']
  else if c.toNat < 32 then
    ['\\', 'u', '0', '0', Digits.lowerHex (c.toNat / 16), Digits.lowerHex (c.toNat % 16)]
  else [c]

/-- A text between quotes. -/
def quoted (s : String) : List Char := '"' :: (s.toList.flatMap escapeChar ++ ['"'])

/-- The beginning of a line that is some steps in. -/
def lineStart (depth : Nat) : List Char := '\n' :: List.replicate (2 * depth) ' '

/-! ### Values -/

mutual

/-- The characters of a value followed by `rest`. -/
def printed : Json → List Char → List Char
  | .null, rest => 'n' :: 'u' :: 'l' :: 'l' :: rest
  | .bool true, rest => 't' :: 'r' :: 'u' :: 'e' :: rest
  | .bool false, rest => 'f' :: 'a' :: 'l' :: 's' :: 'e' :: rest
  | .num n, rest => n.chars ++ rest
  | .str s, rest => quoted s ++ rest
  | .arr [], rest => '[' :: ']' :: rest
  | .arr (item :: items), rest => '[' :: printed item (printedItems items (']' :: rest))
  | .obj [], rest => '\x7b' :: '\x7d' :: rest
  | .obj ((key, value) :: members), rest =>
      '\x7b' :: (quoted key ++ ':' :: printed value (printedMembers members ('\x7d' :: rest)))

def printedItems : List Json → List Char → List Char
  | [], rest => rest
  | item :: items, rest => ',' :: printed item (printedItems items rest)

def printedMembers : List (String × Json) → List Char → List Char
  | [], rest => rest
  | (key, value) :: members, rest =>
      ',' :: (quoted key ++ ':' :: printed value (printedMembers members rest))

end

/-- A value as compact JSON text. -/
def compact (j : Json) : String := String.ofList (printed j [])

mutual

/-- The characters of a value over several lines, the first of them `depth` steps in. -/
def spread (depth : Nat) : Json → List Char
  | .arr (item :: items) =>
      '[' :: (lineStart (depth + 1) ++ spread (depth + 1) item ++
        spreadItems (depth + 1) items ++ lineStart depth ++ [']'])
  | .obj ((key, value) :: members) =>
      '\x7b' :: (lineStart (depth + 1) ++ quoted key ++ ':' :: ' ' :: spread (depth + 1) value ++
        spreadMembers (depth + 1) members ++ lineStart depth ++ ['\x7d'])
  | .arr [] => ['[', ']']
  | .obj [] => ['\x7b', '\x7d']
  | .null => printed .null []
  | .bool b => printed (.bool b) []
  | .num n => printed (.num n) []
  | .str s => printed (.str s) []

def spreadItems (depth : Nat) : List Json → List Char
  | [] => []
  | item :: items => ',' :: (lineStart depth ++ spread depth item ++ spreadItems depth items)

def spreadMembers (depth : Nat) : List (String × Json) → List Char
  | [] => []
  | (key, value) :: members =>
      ',' :: (lineStart depth ++ quoted key ++ ':' :: ' ' :: spread depth value ++
        spreadMembers depth members)

end

/-- A value as JSON text with a line for every item and member. -/
def pretty (j : Json) : String := String.ofList (spread 0 j)

end Json

end VirtualService

/-
  VirtualService/Text/Quoted.lean
  ===============================
  **Text in quotes for messages.**

  The quote, the backslash and the usual controls are written with a backslash;
  what does not print, and marks that would join the character before them, by
  their code point in braces.
-/
import VirtualService.Text.Category
import VirtualService.Number.Digits

namespace VirtualService.Quoted

/-- Characters that are shown by their code point. -/
def isHidden (c : Char) : Bool :=
  if c.toNat < 0x7F then c.toNat < 0x20
  else
    Category.other.has c || Category.separator.has c || Category.nonspacingMark.has c ||
      Category.enclosingMark.has c

/-- The digits of a code point in lower-case hexadecimal. -/
def hexDigits : Nat → Nat → List Char
  | 0, _ => []
  | fuel + 1, n => (if n < 16 then [] else hexDigits fuel (n / 16)) ++ [Digits.lowerHex (n % 16)]

def escape (c : Char) : List Char :=
  if c = '"' then ['\\', '"']
  else if c = '\\' then ['\\', '\\']
  else if c = '\n' then ['\\', 'n']
  else if c = '\r' then ['\\', 'r']
  else if c = '\t' then ['\\', 't']
  else if c.toNat = 0 then ['\\', '0']
  else if isHidden c then ['\\', 'u', '\x7b'] ++ hexDigits 8 c.toNat ++ ['\x7d']
  else [c]

end VirtualService.Quoted

namespace VirtualService

/-- A text in double quotes. -/
def quotedText (text : String) : String :=
  String.ofList ('"' :: (text.toList.flatMap Quoted.escape ++ ['"']))

end VirtualService

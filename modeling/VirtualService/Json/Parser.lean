/-
  VirtualService/Json/Parser.lean
  ===============================
  **Strict JSON text.**

  One value with blanks around it and nothing after it.  Arrays and objects nest
  at most 127 deep, a later member of an object replaces an earlier one of the
  same name, texts hold no raw control character and no half of a surrogate
  pair, and a number beyond the range of floats is no number.

  Each reader takes the text that is left and returns what it read with the
  text after it.
-/
import VirtualService.Json.Basic
import VirtualService.Number.Digits

namespace VirtualService.Json

/-! ### Blanks -/

def isBlank (c : Char) : Bool := c = ' ' || c = '\n' || c = '\t' || c = '\r'

def skipBlanks (cs : List Char) : List Char := cs.dropWhile isBlank

/-! ### Numbers

The digits of a number are gathered in a word of 64 bits.  A digit of the
integral part that no longer fits, and each after it, only raises the power of
ten; digits after the point that no longer fit are dropped.  The word is then
rounded to a double and scaled once by a power of ten. -/

/-- The digits gathered so far, and the power of ten that they are to be scaled by. -/
structure Gathered where
  word : Nat
  exponent : Int

/-- The largest 64-bit word. -/
def maxWord : Nat := 18446744073709551615

/-- Gather the digits of an integral part; the flag tells whether all of them fitted. -/
def gatherIntegral : List Char → Bool → Gathered → Bool × Gathered
  | [], fits, g => (fits, g)
  | c :: cs, fits, g =>
      let word := g.word * 10 + (Digits.decimal? c).getD 0
      if fits && word ≤ maxWord then gatherIntegral cs true ⟨word, g.exponent⟩
      else gatherIntegral cs false ⟨g.word, g.exponent + 1⟩

/-- Gather the digits after a point, as far as they fit. -/
def gatherFraction : List Char → Gathered → Gathered
  | [], g => g
  | c :: cs, g =>
      let word := g.word * 10 + (Digits.decimal? c).getD 0
      if word ≤ maxWord then gatherFraction cs ⟨word, g.exponent - 1⟩ else g

/-- The double nearest to a power of ten up to 308. -/
def powerOfTen (e : Nat) : Double := Double.ofRatio false (tenTo e) 1

/-- Scale down by steps of `10^308` until one division by a power of ten is left. -/
def scaleDown : Nat → Double → Nat → Double
  | 0, x, _ => x
  | fuel + 1, x, e =>
      if e ≤ 308 then x.divFinite (powerOfTen e)
      else if x.isZero then x
      else scaleDown fuel (x.divFinite (powerOfTen 308)) (e - 308)

/-- The magnitude of a gathered number; none beyond the range of floats. -/
def Gathered.magnitude? (g : Gathered) : Option Double :=
  let x := Double.ofRatio false g.word 1
  if g.exponent < 0 then some (scaleDown 8 x (-g.exponent).toNat)
  else if g.exponent ≤ 308 then
    let y := x.mulFinite (powerOfTen g.exponent.toNat)
    if y.isInfinite then none else some y
  else if x.isZero then some x
  else none

/-- A float with a sign. -/
def signedFloat (negative : Bool) (magnitude : Double) : Number :=
  .float (if negative then magnitude.neg else magnitude)

/-- An exponent: its sign and its digits, after the letter. -/
def exponent? (cs : List Char) : Option (Bool × Nat × List Char) :=
  let (negative, ds) := match cs with
    | '+' :: rest => (false, rest)
    | '-' :: rest => (true, rest)
    | _ => (false, cs)
  let digits := ds.takeWhile Digits.isDecimal
  if digits.isEmpty then none
  else some (negative, Digits.value digits, ds.dropWhile Digits.isDecimal)

/-- The end of a number whose digits are gathered: an exponent or nothing. -/
def scaled? (negative : Bool) (g : Gathered) (cs : List Char) : Option (Number × List Char) :=
  let finish (g : Gathered) (rest : List Char) :=
    g.magnitude?.map fun x => (signedFloat negative x, rest)
  match cs with
  | c :: rest =>
      if c = 'e' || c = 'E' then
        match exponent? rest with
        | none => none
        | some (down, e, rest) =>
            if g.word = 0 then some (signedFloat negative (Double.zero false), rest)
            else finish ⟨g.word, if down then g.exponent - e else g.exponent + e⟩ rest
      else finish g cs
  | [] => finish g cs

/-- An unsigned number, after its sign. -/
def unsigned? (negative : Bool) (cs : List Char) : Option (Number × List Char) :=
  let digits := cs.takeWhile Digits.isDecimal
  let rest := cs.dropWhile Digits.isDecimal
  if digits.isEmpty || (digits.head? = some '0' && digits.length > 1) then none
  else
    let (fits, g) := gatherIntegral digits true ⟨0, 0⟩
    match rest with
    | '.' :: after =>
        let fraction := after.takeWhile Digits.isDecimal
        if fraction.isEmpty then none
        else scaled? negative (gatherFraction fraction g) (after.dropWhile Digits.isDecimal)
    | c :: _ =>
        if c = 'e' || c = 'E' || !fits then scaled? negative g rest else integer g.word rest
    | [] => if fits then integer g.word rest else scaled? negative g rest
where
  /-- A run of digits that fits a word: an integer, except for minus zero and what is below 64 bits. -/
  integer (word : Nat) (rest : List Char) : Option (Number × List Char) :=
    if negative then
      if word = 0 || word > 9223372036854775808 then
        some (signedFloat true (Double.ofRatio false word 1), rest)
      else some (.int (-(word : Int)), rest)
    else some (.int word, rest)

def number? (cs : List Char) : Option (Number × List Char) :=
  match cs with
  | '-' :: rest => unsigned? true rest
  | _ => unsigned? false cs

/-! ### Texts -/

/-- Four hexadecimal digits. -/
def fourHex? : List Char → Option (Nat × List Char)
  | a :: b :: c :: d :: rest =>
      match Digits.hex? a, Digits.hex? b, Digits.hex? c, Digits.hex? d with
      | some a, some b, some c, some d => some (((a * 16 + b) * 16 + c) * 16 + d, rest)
      | _, _, _, _ => none
  | _ => none

/-- The character of an escape by code, after its letter: two halves of a surrogate pair make one. -/
def codeEscape? (cs : List Char) : Option (Char × List Char) :=
  match fourHex? cs with
  | none => none
  | some (unit, rest) =>
      if 0xD800 ≤ unit ∧ unit ≤ 0xDBFF then
        match rest with
        | '\\' :: 'u' :: more =>
            match fourHex? more with
            | some (low, rest) =>
                if 0xDC00 ≤ low ∧ low ≤ 0xDFFF then
                  some (Char.ofNat (0x10000 + (unit - 0xD800) * 1024 + (low - 0xDC00)), rest)
                else none
            | none => none
        | _ => none
      else if 0xDC00 ≤ unit ∧ unit ≤ 0xDFFF then none
      else some (Char.ofNat unit, rest)

/-- The character of an escape, after the backslash. -/
def escape? (cs : List Char) : Option (Char × List Char) :=
  match cs with
  | '"' :: rest => some ('"', rest)
  | '\\' :: rest => some ('\\', rest)
  | '/' :: rest => some ('/', rest)
  | 'b' :: rest => some (Char.ofNat 8, rest)
  | 'f' :: rest => some (Char.ofNat 12, rest)
  | 'n' :: rest => some (Char.ofNat 10, rest)
  | 'r' :: rest => some (Char.ofNat 13, rest)
  | 't' :: rest => some (Char.ofNat 9, rest)
  | 'u' :: rest => codeEscape? rest
  | _ => none

/-- The characters of a text up to its closing quote, after the opening one. -/
def chars? : Nat → List Char → Option (List Char × List Char)
  | 0, _ => none
  | _, [] => none
  | fuel + 1, c :: cs =>
      if c = '"' then some ([], cs)
      else if c = '\\' then
        match escape? cs with
        | none => none
        | some (e, rest) => (chars? fuel rest).map fun (text, rest) => (e :: text, rest)
      else if c.toNat < 32 then none
      else (chars? fuel cs).map fun (text, rest) => (c :: text, rest)

/-- A text, after its opening quote. -/
def text? (cs : List Char) : Option (String × List Char) :=
  (chars? (cs.length + 1) cs).map fun (text, rest) => (String.ofList text, rest)

/-! ### Values -/

mutual

/-- A value in a place where containers may nest `room` deep. -/
def value? : Nat → Nat → List Char → Option (Json × List Char)
  | 0, _, _ => none
  | fuel + 1, room, cs =>
      match skipBlanks cs with
      | 'n' :: 'u' :: 'l' :: 'l' :: rest => some (.null, rest)
      | 't' :: 'r' :: 'u' :: 'e' :: rest => some (.bool true, rest)
      | 'f' :: 'a' :: 'l' :: 's' :: 'e' :: rest => some (.bool false, rest)
      | '"' :: rest => (text? rest).map fun (s, rest) => (.str s, rest)
      | '[' :: rest =>
          match room with
          | 0 => none
          | room + 1 =>
              match skipBlanks rest with
              | ']' :: rest => some (.arr [], rest)
              | rest => (items? fuel room rest).map fun (items, rest) => (.arr items, rest)
      | '\x7b' :: rest =>
          match room with
          | 0 => none
          | room + 1 =>
              match skipBlanks rest with
              | '\x7d' :: rest => some (.obj [], rest)
              | rest =>
                  (members? fuel room rest).map fun (members, rest) =>
                    (.obj (Dict.ofList members), rest)
      | rest => (number? rest).map fun (n, rest) => (.num n, rest)

/-- One or more items up to the closing bracket. -/
def items? : Nat → Nat → List Char → Option (List Json × List Char)
  | 0, _, _ => none
  | fuel + 1, room, cs =>
      match value? fuel room cs with
      | none => none
      | some (item, rest) =>
          match skipBlanks rest with
          | ']' :: rest => some ([item], rest)
          | ',' :: rest => (items? fuel room rest).map fun (items, rest) => (item :: items, rest)
          | _ => none

/-- One or more members up to the closing brace, in the order written. -/
def members? : Nat → Nat → List Char → Option (List (String × Json) × List Char)
  | 0, _, _ => none
  | fuel + 1, room, cs =>
      match skipBlanks cs with
      | '"' :: rest =>
          match text? rest with
          | none => none
          | some (key, rest) =>
              match skipBlanks rest with
              | ':' :: rest =>
                  match value? fuel room rest with
                  | none => none
                  | some (value, rest) =>
                      match skipBlanks rest with
                      | '\x7d' :: rest => some ([(key, value)], rest)
                      | ',' :: rest =>
                          (members? fuel room rest).map fun (members, rest) =>
                            ((key, value) :: members, rest)
                      | _ => none
              | _ => none
      | _ => none

end

/-- How deep arrays and objects may nest. -/
def maxDepth : Nat := 127

/-- The value that a JSON text stands for. -/
def ofChars? (cs : List Char) : Option Json :=
  match value? (2 * cs.length + 2) maxDepth cs with
  | none => none
  | some (j, rest) => if (skipBlanks rest).isEmpty then some j else none

/-- The value that a JSON text stands for. -/
def ofText? (text : String) : Option Json := ofChars? text.toList

end VirtualService.Json

/-
  VirtualService/Text/Lossy.lean
  ==============================
  **Bytes as text, come what may.**

  Bytes are read as UTF-8.  Where they are none, each longest beginning of a
  character that breaks off becomes one replacement character.
-/

namespace VirtualService.Lossy

/-- Bytes that may follow a first byte: how many, and the bounds of the first of them. -/
def following? (b : UInt8) : Option (Nat × UInt8 × UInt8) :=
  if 0xc2 ≤ b && b ≤ 0xdf then some (1, 0x80, 0xbf)
  else if b = 0xe0 then some (2, 0xa0, 0xbf)
  else if b = 0xed then some (2, 0x80, 0x9f)
  else if 0xe1 ≤ b && b ≤ 0xef then some (2, 0x80, 0xbf)
  else if b = 0xf0 then some (3, 0x90, 0xbf)
  else if 0xf1 ≤ b && b ≤ 0xf3 then some (3, 0x80, 0xbf)
  else if b = 0xf4 then some (3, 0x80, 0x8f)
  else none

/-- The bytes at the beginning that go on with a character: at most `n`, the first within bounds. -/
def going (n : Nat) (low high : UInt8) : List UInt8 → List UInt8
  | [] => []
  | b :: rest =>
      match n with
      | 0 => []
      | n + 1 => if low ≤ b && b ≤ high then b :: going n 0x80 0xbf rest else []

/-- The code of a first byte and the bytes after it. -/
def code (first : UInt8) (more : List UInt8) : Nat :=
  let head := match more.length with
    | 1 => first.toNat % 32
    | 2 => first.toNat % 16
    | _ => first.toNat % 8
  more.foldl (fun n b => n * 64 + b.toNat % 64) head

/-- The characters of some bytes. -/
def chars : Nat → List UInt8 → List Char
  | 0, _ => []
  | _, [] => []
  | fuel + 1, b :: rest =>
      if b < 0x80 then Char.ofNat b.toNat :: chars fuel rest
      else match following? b with
        | none => '\ufffd' :: chars fuel rest
        | some (n, low, high) =>
            let more := going n low high rest
            let c := if more.length = n then Char.ofNat (code b more) else '\ufffd'
            c :: chars fuel (rest.drop more.length)

/-- The text of some bytes. -/
def text (bytes : List UInt8) : String := String.ofList (chars bytes.length bytes)

end VirtualService.Lossy

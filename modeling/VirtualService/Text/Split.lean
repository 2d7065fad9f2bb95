/-
  VirtualService/Text/Split.lean
  ==============================
  **Cutting text at marks and at its ends.**

  Cutting at every mark gives one piece more than there are marks; cutting at one
  mark gives what stands before and after it.  White space is cut off at either end.
-/

/-! ### Marks -/

namespace VirtualService.Split

/-- The pieces between the marks. -/
def pieces (mark : Char) : List Char → List (List Char)
  | [] => [[]]
  | c :: cs =>
      if c = mark then [] :: pieces mark cs
      else match pieces mark cs with
        | [] => [[c]]
        | piece :: rest => (c :: piece) :: rest

/-- What stands before and after the first mark. -/
def first? (mark : Char) : List Char → Option (List Char × List Char)
  | [] => none
  | c :: cs =>
      if c = mark then some ([], cs)
      else (first? mark cs).map fun (before, after) => (c :: before, after)

/-- What stands before and after the last mark. -/
def last? (mark : Char) : List Char → Option (List Char × List Char)
  | [] => none
  | c :: cs =>
      match last? mark cs with
      | some (before, after) => some (c :: before, after)
      | none => if c = mark then some ([], cs) else none

/-- Whether the second text occurs in the first. -/
def contains (text part : List Char) : Bool :=
  match text with
  | [] => part.isEmpty
  | _ :: rest => part.isPrefixOf text || contains rest part

end VirtualService.Split

/-! ### White space -/

namespace VirtualService.Blank

/-- White space of any kind: the five controls from tab to carriage return, the blank, the next-line
    control, and the blanks and separators beyond ASCII. -/
def isBlank (c : Char) : Bool :=
  let n := c.toNat
  (9 ≤ n && n ≤ 13) || n = 0x20 || n = 0x85 || n = 0xA0 || n = 0x1680 ||
    (0x2000 ≤ n && n ≤ 0x200A) || n = 0x2028 || n = 0x2029 || n = 0x202F || n = 0x205F || n = 0x3000

/-- Characters without the blanks in front. -/
def trimStart (cs : List Char) : List Char := cs.dropWhile isBlank

/-- Characters without the blanks at the end. -/
def trimEnd (cs : List Char) : List Char := (cs.reverse.dropWhile isBlank).reverse

/-- Characters without the blanks at either end. -/
def trim (cs : List Char) : List Char := trimEnd (trimStart cs)

end VirtualService.Blank

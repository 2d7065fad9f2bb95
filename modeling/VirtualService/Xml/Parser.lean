/-
  VirtualService/Xml/Parser.lean
  ==============================
  **Well-formed XML text.**

  One element with white space, comments and processing instructions around it,
  and an XML declaration at the very start or nowhere.  Every prefix must be
  declared, no attribute may be written twice, and of named references only the
  five that need no declaration are known.  Neither line ends nor attribute
  values are normalised.  A document type is not accepted.
-/
import VirtualService.Xml.Document
import VirtualService.Number.Digits

namespace VirtualService.Xml

/-! ### Characters and names -/

def isSpace (c : Char) : Bool := c = ' ' || c = '\t' || c = '\r' || c = '\n'

def skipSpace (cs : List Char) : List Char := cs.dropWhile isSpace

/-- The text after at least one blank. -/
def space? (cs : List Char) : Option (List Char) :=
  match cs with
  | c :: rest => if isSpace c then some (skipSpace rest) else none
  | [] => none

/-- Runs of the code points that may begin a name, the colon apart. -/
def nameStartRuns : List (Nat × Nat) :=
  [(0x41, 0x5A), (0x5F, 0x5F), (0x61, 0x7A), (0xC0, 0xD6), (0xD8, 0xF6), (0xF8, 0x2FF),
   (0x370, 0x37D), (0x37F, 0x1FFF), (0x200C, 0x200D), (0x2070, 0x218F), (0x2C00, 0x2FEF),
   (0x3001, 0xD7FF), (0xF900, 0xFDCF), (0xFDF0, 0xFFFD), (0x10000, 0xEFFFF)]

def isNameStart (c : Char) : Bool :=
  nameStartRuns.any fun (a, b) => a ≤ c.toNat && c.toNat ≤ b

/-- Characters inside a name: those that may begin it, digits, hyphen, point, and joining marks. -/
def isNameChar (c : Char) : Bool :=
  isNameStart c || c = '-' || c = '.' || ('0' ≤ c && c ≤ '9') || c.toNat = 0xB7 ||
    (0x300 ≤ c.toNat && c.toNat ≤ 0x36F) || (0x203F ≤ c.toNat && c.toNat ≤ 0x2040)

/-- A name without a colon. -/
def plainName? (cs : List Char) : Option (String × List Char) :=
  match cs with
  | c :: rest =>
      if isNameStart c then
        some (String.ofList (c :: rest.takeWhile isNameChar), rest.dropWhile isNameChar)
      else none
  | [] => none

/-- A name in which colons are letters. -/
def looseName? (cs : List Char) : Option (String × List Char) :=
  let inside c := isNameChar c || c = ':'
  match cs with
  | c :: rest =>
      if isNameStart c || c = ':' then
        some (String.ofList (c :: rest.takeWhile inside), rest.dropWhile inside)
      else none
  | [] => none

/-- A name as written: a local part with or without a qualifier in front. -/
abbrev WrittenName := Option String × String

def name? (cs : List Char) : Option (WrittenName × List Char) :=
  match plainName? cs with
  | none => none
  | some (first, rest) =>
      match rest with
      | ':' :: more =>
          match plainName? more with
          | some (second, rest) => some ((some first, second), rest)
          | none => some ((none, first), rest)
      | _ => some ((none, first), rest)

/-- The text after a fixed piece of text. -/
def after? : List Char → List Char → Option (List Char)
  | [], cs => some cs
  | p :: ps, c :: cs => if p = c then after? ps cs else none
  | _ :: _, [] => none

/-- The text before the first occurrence of a mark, and the text from the mark on. -/
def upTo? (mark : List Char) : List Char → Option (List Char × List Char)
  | [] => if mark.isEmpty then some ([], []) else none
  | c :: cs =>
      if mark.isPrefixOf (c :: cs) then some ([], c :: cs)
      else (upTo? mark cs).map fun (before, rest) => (c :: before, rest)

/-! ### References -/

/-- The character of a code point in some base; none for what is no character. -/
def charOfDigits? (base : Nat) (digits : List Char) : Option Char :=
  let n := digits.foldl (fun n c => n * base + (Digits.hex? c).getD 0) 0
  if digits.isEmpty then none
  else if n < 0x110000 ∧ ¬ (0xD800 ≤ n ∧ n ≤ 0xDFFF) then some (Char.ofNat n)
  else none

/-- The character of a named reference. -/
def named? (name : String) : Option Char :=
  match name with
  | "lt" => some '<'
  | "gt" => some '>'
  | "amp" => some '&'
  | "apos" => some '\''
  | "quot" => some '"'
  | _ => none

/-- The end of a reference: its semicolon. -/
def closed? (c : Option Char) (rest : List Char) : Option (Char × List Char) :=
  match c, rest with
  | some c, ';' :: rest => some (c, rest)
  | _, _ => none

/-- A reference, after its ampersand. -/
def reference? (cs : List Char) : Option (Char × List Char) :=
  match cs with
  | '#' :: 'x' :: rest =>
      let isHex c := (Digits.hex? c).isSome
      closed? (charOfDigits? 16 (rest.takeWhile isHex)) (rest.dropWhile isHex)
  | '#' :: rest =>
      closed? (charOfDigits? 10 (rest.takeWhile Digits.isDecimal)) (rest.dropWhile Digits.isDecimal)
  | _ =>
      match looseName? cs with
      | some (name, rest) => closed? (named? name) rest
      | none => none

/-! ### Attributes -/

/-- An attribute value up to its closing quote. -/
def value? (quote : Char) : Nat → List Char → Option (List Char × List Char)
  | 0, _ => none
  | _, [] => none
  | fuel + 1, c :: cs =>
      if c = quote then some ([], cs)
      else if c = '<' then none
      else if c = '&' then
        match reference? cs with
        | some (r, rest) => (value? quote fuel rest).map fun (text, rest) => (r :: text, rest)
        | none => none
      else (value? quote fuel cs).map fun (text, rest) => (c :: text, rest)

/-- An equals sign with blanks around it. -/
def equals? (cs : List Char) : Option (List Char) :=
  match skipSpace cs with
  | '=' :: rest => some (skipSpace rest)
  | _ => none

/-- A value in quotes of either kind. -/
def quoted? (cs : List Char) : Option (String × List Char) :=
  match cs with
  | c :: rest =>
      if c = '"' || c = '\'' then
        (value? c (rest.length + 1) rest).map fun (text, rest) => (String.ofList text, rest)
      else none
  | [] => none

/-- How the opening tag of an element ends. -/
inductive TagEnd where
  | open
  | empty
deriving DecidableEq

/-- The attributes of an opening tag, in order, and how the tag ends. -/
def attributes? :
    Nat → List Char → Option (List (WrittenName × String) × TagEnd × List Char)
  | 0, _ => none
  | fuel + 1, cs =>
      match skipSpace cs with
      | '>' :: rest => some ([], .open, rest)
      | '/' :: '>' :: rest => some ([], .empty, rest)
      | _ =>
          match space? cs with
          | none => none
          | some cs =>
              match name? cs with
              | none => none
              | some (name, rest) =>
                  match (equals? rest).bind quoted? with
                  | none => none
                  | some (value, rest) =>
                      (attributes? fuel rest).map fun (more, ending, rest) =>
                        ((name, value) :: more, ending, rest)

/-! ### Namespaces -/

/-- The namespaces in force: the default one, and those of the prefixes. -/
structure Spaces where
  base : Option String
  prefixed : List (String × String)

/-- At the top of a document only the reserved prefix is bound. -/
def Spaces.top : Spaces := ⟨none, [("xml", "http://www.w3.org/XML/1998/namespace")]⟩

/-- No element of the list occurs twice. -/
def allDistinct {α : Type} [BEq α] : List α → Bool
  | [] => true
  | a :: rest => !rest.contains a && allDistinct rest

/-- Take the declarations among the attributes of an element into force. -/
def Spaces.declare? (spaces : Spaces) (attributes : List (WrittenName × String)) : Option Spaces :=
  let bases := attributes.filterMap fun (name, value) =>
    if name = (none, "xmlns") then some value else none
  let bound := attributes.filterMap fun (name, value) =>
    if name.1 = some "xmlns" then some (name.2, value) else none
  if bases.length > 1 || !allDistinct (bound.map Prod.fst) || bound.any (fun b => b.2.isEmpty) then
    none
  else
    let base := match bases with
      | b :: _ => if b.isEmpty then none else some b
      | [] => spaces.base
    some ⟨base, bound ++ spaces.prefixed⟩

/-- The namespace of a prefix. -/
def Spaces.find? (spaces : Spaces) (qualifier : String) : Option String :=
  (spaces.prefixed.find? fun b => b.1 = qualifier).map Prod.snd

/-- The name of an element: without a prefix it is in the default namespace. -/
def Spaces.elementName? (spaces : Spaces) (name : WrittenName) : Option Name :=
  match name with
  | (none, localPart) => some ⟨none, localPart, spaces.base⟩
  | (some q, localPart) => (spaces.find? q).map fun uri => ⟨some q, localPart, some uri⟩

/-- The name of an attribute: without a prefix it is in no namespace. -/
def Spaces.attributeName? (spaces : Spaces) (name : WrittenName) : Option Name :=
  match name with
  | (none, localPart) => some ⟨none, localPart, none⟩
  | (some q, localPart) => (spaces.find? q).map fun uri => ⟨some q, localPart, some uri⟩

/-- Add an attribute; an earlier one with the same expanded name goes. -/
def addAttribute (attributes : List Attribute) (a : Attribute) : List Attribute :=
  attributes.filter (fun b => !(b.name.localPart = a.name.localPart && b.name.space = a.name.space))
    ++ [a]

/-- The attributes of an element, its namespace declarations left out. -/
def Spaces.attributes? (spaces : Spaces) (written : List (WrittenName × String)) :
    Option (List Attribute) :=
  let plain := written.filter fun (name, _) => name.1 ≠ some "xmlns" && name ≠ (none, "xmlns")
  if !allDistinct (plain.map Prod.fst) then none
  else
    plain.foldlM (fun acc (name, value) =>
      (spaces.attributeName? name).map fun name => addAttribute acc ⟨name, value⟩) []

/-! ### Comments, instructions and sections -/

/-- A comment, after its opening mark; two hyphens may only end it. -/
def comment? (cs : List Char) : Option (Node × List Char) :=
  match upTo? ['-', '-'] cs with
  | some (text, rest) =>
      (after? ['-', '-', '>'] rest).map fun rest => (.comment (String.ofList text), rest)
  | none => none

/-- A processing instruction, after its opening mark. -/
def instruction? (cs : List Char) : Option (Node × List Char) :=
  match looseName? cs with
  | none => none
  | some (target, rest) =>
      let reserved := target.toList.map Char.toLower = ['x', 'm', 'l']
      match space? rest with
      | some rest =>
          match upTo? ['?', '>'] rest with
          | some (text, rest) =>
              if reserved then none
              else some (.instruction target (some (String.ofList text)), rest.drop 2)
          | none => none
      | none =>
          match rest with
          | '?' :: '>' :: rest => if reserved then none else some (.instruction target none, rest)
          | _ => none

/-- A marked section of text, after its opening mark. -/
def section? (cs : List Char) : Option (Node × List Char) :=
  (upTo? [']', ']', '>'] cs).map fun (text, rest) => (.text (String.ofList text), rest.drop 3)

/-- A run of characters up to markup, a reference or the end of a section. -/
def characters : List Char → List Char × List Char
  | [] => ([], [])
  | c :: cs =>
      if c = '<' || c = '&' || (c = ']' && [']', '>'].isPrefixOf cs) then ([], c :: cs)
      else
        let (text, rest) := characters cs
        (c :: text, rest)

/-! ### Elements -/

/-- The closing tag of an element, after its opening mark. -/
def closing? (name : WrittenName) (cs : List Char) : Option (List Char) :=
  match name? cs with
  | some (other, rest) =>
      match skipSpace rest with
      | '>' :: rest => if other = name then some rest else none
      | _ => none
  | none => none

mutual

/-- An element, after its opening angle bracket. -/
def element? : Nat → Spaces → List Char → Option (Node × List Char)
  | 0, _, _ => none
  | fuel + 1, spaces, cs =>
      match name? cs with
      | none => none
      | some (written, rest) =>
          match attributes? (rest.length + 1) rest with
          | none => none
          | some (writtenAttributes, ending, rest) =>
              match spaces.declare? writtenAttributes with
              | none => none
              | some spaces =>
                  match spaces.elementName? written, spaces.attributes? writtenAttributes with
                  | some name, some attributes =>
                      match ending with
                      | .empty => some (.element name spaces.prefixed attributes [], rest)
                      | .open =>
                          match content? fuel spaces rest with
                          | none => none
                          | some (children, rest) =>
                              (closing? written rest).map fun rest =>
                                (.element name spaces.prefixed attributes children, rest)
                  | _, _ => none

/-- The content of an element, up to and with the mark that opens its closing tag. -/
def content? : Nat → Spaces → List Char → Option (List Node × List Char)
  | 0, _, _ => none
  | fuel + 1, spaces, cs =>
      let next (step : Option (Node × List Char)) : Option (List Node × List Char) :=
        match step with
        | none => none
        | some (node, rest) =>
            (content? fuel spaces rest).map fun (nodes, rest) => (node :: nodes, rest)
      match cs with
      | [] => none
      | '<' :: '/' :: rest => some ([], rest)
      | '<' :: '!' :: '-' :: '-' :: rest => next (comment? rest)
      | '<' :: '!' :: '[' :: 'C' :: 'D' :: 'A' :: 'T' :: 'A' :: '[' :: rest => next (section? rest)
      | '<' :: '?' :: rest => next (instruction? rest)
      | '<' :: rest => next (element? fuel spaces rest)
      | '&' :: rest =>
          next ((reference? rest).map fun (c, rest) => (.text (String.ofList [c]), rest))
      | _ =>
          match characters cs with
          | ([], _) => none
          | (text, rest) => next (some (.text (String.ofList text), rest))

end

/-! ### Documents -/

/-- A version number, an encoding name or a word, in quotes. -/
def declared? (allowed : List Char → Bool) (cs : List Char) : Option (List Char) :=
  match cs with
  | q :: rest =>
      if q = '"' || q = '\'' then
        let value := rest.takeWhile (· ≠ q)
        match rest.dropWhile (· ≠ q) with
        | _ :: rest => if allowed value then some rest else none
        | [] => none
      else none
  | [] => none

/-- A pseudo-attribute of the XML declaration, with the blanks in front. -/
def declaration? (name : List Char) (allowed : List Char → Bool) (cs : List Char) :
    Option (List Char) :=
  ((space? cs).bind (after? name)).bind fun rest => (equals? rest).bind (declared? allowed)

def isVersion : List Char → Bool
  | '1' :: '.' :: c :: cs => (c :: cs).all Digits.isDecimal
  | _ => false

def isEncoding : List Char → Bool
  | c :: cs => c.isAlpha && cs.all fun c => c.isAlphanum || c = '.' || c = '_' || c = '-'
  | [] => false

def isChoice (value : List Char) : Bool := value = ['y', 'e', 's'] || value = ['n', 'o']

/-- The text after an XML declaration, which may be missing. -/
def afterDeclaration (cs : List Char) : List Char :=
  let whole := do
    let rest ← after? ['<', '?', 'x', 'm', 'l'] cs
    let rest ← declaration? "version".toList isVersion rest
    let rest := (declaration? "encoding".toList isEncoding rest).getD rest
    let rest := (declaration? "standalone".toList isChoice rest).getD rest
    after? ['?', '>'] (skipSpace rest)
  whole.getD cs

/-- What stands at the top of a document; exactly one element must be among it. -/
def top? : Nat → Bool → List Char → Option (List Node)
  | 0, _, _ => none
  | fuel + 1, rooted, cs =>
      let next (rooted : Bool) (step : Option (Node × List Char)) : Option (List Node) :=
        match step with
        | none => none
        | some (node, rest) => (top? fuel rooted rest).map fun nodes => node :: nodes
      match skipSpace cs with
      | [] => if rooted then some [] else none
      | '<' :: '!' :: '-' :: '-' :: rest => next rooted (comment? rest)
      | '<' :: '?' :: rest => next rooted (instruction? rest)
      | '<' :: rest => if rooted then none else next true (element? rest.length Spaces.top rest)
      | _ => none

/-- The document that a text writes. -/
def Document.ofText? (text : String) : Option Document :=
  let cs := afterDeclaration text.toList
  (top? (cs.length + 1) false cs).map Document.mk

end VirtualService.Xml

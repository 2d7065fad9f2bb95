/-
  VirtualService/Regex/Class.lean
  ===============================
  **Character classes by name.**

  The classes of one letter, the classes of ASCII between `[:` and `:]`, and the
  properties, categories and scripts between braces.  Names of properties are
  compared without case, blanks, hyphens and underscores.
-/
import VirtualService.Regex.Syntax
import VirtualService.Text.Property
import VirtualService.Text.Script

namespace VirtualService.Regex

namespace CharClass

/-- The set of several runs of characters. -/
def ofRanges (ranges : List (Char × Char)) : CharClass :=
  .union (ranges.map fun (a, b) => .range a b)

/-- Negate a set if asked to. -/
def negated (negate : Bool) (set : CharClass) : CharClass := if negate then .complement set else set

/-- The class of a letter: digits, white space, word characters. -/
def ofLetter? (letter : Char) : Option CharClass :=
  match letter with
  | 'd' => some (.runs Category.decimalDigit)
  | 's' => some (.runs Property.whiteSpace)
  | 'w' => some (.runs Property.word)
  | _ => none

/-- The same within ASCII. -/
def asciiOfLetter? (letter : Char) : Option CharClass :=
  match letter with
  | 'd' => some (.range '0' '9')
  | 's' => some (ofRanges [('\t', '\r'), (' ', ' ')])
  | 'w' => some (ofRanges [('0', '9'), ('A', 'Z'), ('_', '_'), ('a', 'z')])
  | _ => none

/-- The classes of ASCII by name. -/
def ascii : List (String × List (Char × Char)) := [
  ("alnum", [('0', '9'), ('A', 'Z'), ('a', 'z')]),
  ("alpha", [('A', 'Z'), ('a', 'z')]),
  ("ascii", [('\x00', '\x7f')]),
  ("blank", [('\t', '\t'), (' ', ' ')]),
  ("cntrl", [('\x00', '\x1f'), ('\x7f', '\x7f')]),
  ("digit", [('0', '9')]),
  ("graph", [('!', '~')]),
  ("lower", [('a', 'z')]),
  ("print", [(' ', '~')]),
  ("punct", [('!', '/'), (':', '@'), ('[', '\x60'), ('\x7b', '~')]),
  ("space", [('\t', '\r'), (' ', ' ')]),
  ("upper", [('A', 'Z')]),
  ("word", [('0', '9'), ('A', 'Z'), ('_', '_'), ('a', 'z')]),
  ("xdigit", [('0', '9'), ('A', 'F'), ('a', 'f')])]

/-- A class of ASCII by name. -/
def ofAsciiName? (name : String) : Option CharClass :=
  (ascii.find? fun entry => entry.1 = name).map fun entry => ofRanges entry.2

/-- The form in which names of properties are compared. -/
def looseName (name : List Char) : String :=
  String.ofList ((name.filter fun c =>
    c ≠ ' ' && c ≠ '_' && c ≠ '-' && c.toNat < 128).map Char.toLower)

/-- General categories by their names. -/
def categories : List (List String × CharSet) := [
  (["l", "letter"], Category.letter),
  (["lc", "casedletter"], Category.casedLetter),
  (["lu", "uppercaseletter"], Category.upperLetter),
  (["ll", "lowercaseletter"], Category.lowerLetter),
  (["lt", "titlecaseletter"], Category.titleLetter),
  (["lm", "modifierletter"], Category.modifierLetter),
  (["lo", "otherletter"], Category.otherLetter),
  (["m", "mark", "combiningmark"], Category.mark),
  (["mn", "nonspacingmark"], Category.nonspacingMark),
  (["mc", "spacingmark"], Category.spacingMark),
  (["me", "enclosingmark"], Category.enclosingMark),
  (["n", "number"], Category.number),
  (["nd", "decimalnumber", "digit"], Category.decimalDigit),
  (["nl", "letternumber"], Category.letterNumber),
  (["no", "othernumber"], Category.otherNumber),
  (["p", "punctuation", "punct"], Category.punctuation),
  (["pc", "connectorpunctuation"], Category.connector),
  (["pd", "dashpunctuation"], Category.dash),
  (["ps", "openpunctuation"], Category.opening),
  (["pe", "closepunctuation"], Category.closing),
  (["pi", "initialpunctuation"], Category.initialQuote),
  (["pf", "finalpunctuation"], Category.finalQuote),
  (["po", "otherpunctuation"], Category.otherPunctuation),
  (["s", "symbol"], Category.symbol),
  (["sm", "mathsymbol"], Category.mathSymbol),
  (["sc", "currencysymbol"], Category.currencySymbol),
  (["sk", "modifiersymbol"], Category.modifierSymbol),
  (["so", "othersymbol"], Category.otherSymbol),
  (["z", "separator"], Category.separator),
  (["zs", "spaceseparator"], Category.blank),
  (["zl", "lineseparator"], Category.lineSeparator),
  (["zp", "paragraphseparator"], Category.paragraphSeparator),
  (["c", "other"], Category.other),
  (["cc", "control", "cntrl"], Category.control),
  (["cf", "format"], Category.format),
  (["co", "privateuse"], Category.privateUse),
  (["cn", "unassigned"], Category.unassigned),
  (["any"], ⟨#[(0, 0x10FFFF)]⟩),
  (["ascii"], ⟨#[(0, 0x7F)]⟩),
  (["assigned"], Category.unassigned.complement)]

/-- Other properties by their names. -/
def properties : List (List String × CharSet) := [
  (["alphabetic", "alpha"], Property.alphabetic),
  (["lowercase", "lower"], Property.lowercase),
  (["uppercase", "upper"], Property.uppercase),
  (["whitespace", "wspace", "space"], Property.whiteSpace),
  (["cased"], Property.cased),
  (["caseignorable", "ci"], Property.caseIgnorable),
  (["joincontrol", "joinc"], Property.joinControl),
  (["hexdigit", "hex"], Property.hexDigit),
  (["asciihexdigit", "ahex"], Property.asciiHexDigit),
  (["dash"], Property.dashLike),
  (["math"], Property.math),
  (["ideographic", "ideo"], Property.ideographic),
  (["emoji"], Property.emoji),
  (["extendedpictographic", "extpict"], Property.pictographic)]

/-- The set of a name in a table. -/
def named? (table : List (List String × CharSet)) (name : String) : Option CharClass :=
  (table.find? fun entry => entry.1.contains name).map fun entry => .runs entry.2

/-- A category, a script or a property by its name alone; a leading `is` does not count. -/
def ofName? (name : List Char) : Option CharClass :=
  let loose := looseName name
  let look (n : String) : Option CharClass :=
    (named? properties n).orElse fun _ =>
      (named? categories n).orElse fun _ => named? Script.named n
  match loose.toList with
  | 'i' :: 's' :: rest => (look (String.ofList rest)).orElse fun _ => look loose
  | _ => look loose

/-- A set by the name of a property and its value. -/
def ofPair? (property value : List Char) : Option CharClass :=
  match looseName property with
  | "gc" | "generalcategory" => named? categories (looseName value)
  | "sc" | "script" | "scx" | "scriptextensions" => named? Script.named (looseName value)
  | _ => none

end CharClass

end VirtualService.Regex

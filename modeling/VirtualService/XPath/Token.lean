/-
  VirtualService/XPath/Token.lean
  ===============================
  **XPath text as tokens.**

  Blanks stand between tokens.  A star or one of the words `and`, `or`, `mod` and
  `div` is an operator exactly after something that ends an operand.
-/
import VirtualService.XPath.Syntax
import VirtualService.Xml.Parser

namespace VirtualService.XPath

inductive Token where
  | slash
  | slashes
  | openParen
  | closeParen
  | openBracket
  | closeBracket
  | dot
  | dots
  | at
  | comma
  | colons
  | operator (op : Operator)
  | number (value : Float)
  | text (value : String)
  | name (qualifier : Option String) (localPart : String)
  | star
  | starIn (qualifier : String)
  | variable
deriving Inhabited

/-- The token ends an operand, so that an operator may follow it. -/
def Token.endsOperand : Token → Bool
  | .closeParen => true
  | .closeBracket => true
  | .dot => true
  | .dots => true
  | .number _ => true
  | .text _ => true
  | .name _ _ => true
  | .star => true
  | .starIn _ => true
  | .variable => true
  | _ => false

/-- A number: digits with a point after, before or among them. -/
def numberToken (cs : List Char) : Token × List Char :=
  let whole := cs.takeWhile Digits.isDecimal
  let rest := cs.dropWhile Digits.isDecimal
  let (fraction, rest) := match rest with
    | '.' :: more => (more.takeWhile Digits.isDecimal, more.dropWhile Digits.isDecimal)
    | _ => ([], rest)
  let x := Double.ofDecimal false (Digits.value (whole ++ fraction)) (-(fraction.length : Int))
  (.number x.toFloat, rest)

/-- A name with or without a qualifier, or all names with a qualifier. -/
def nameToken? (cs : List Char) : Option (Token × List Char) :=
  match Xml.plainName? cs with
  | none => none
  | some (first, rest) =>
      match rest with
      | ':' :: ':' :: _ => some (.name none first, rest)
      | ':' :: '*' :: rest => some (.starIn first, rest)
      | ':' :: more =>
          match Xml.plainName? more with
          | some (second, rest) => some (.name (some first) second, rest)
          | none => none
      | _ => some (.name none first, rest)

/-- The operator that a word names. -/
def wordOperator? (name : String) : Option Operator :=
  match name with
  | "and" => some .and
  | "or" => some .or
  | "mod" => some .modulo
  | "div" => some .divide
  | _ => none

/-- The next token of a text that begins with no blank. -/
def nextToken? (afterOperand : Bool) (cs : List Char) : Option (Token × List Char) :=
  match cs with
  | '(' :: rest => some (.openParen, rest)
  | ')' :: rest => some (.closeParen, rest)
  | '[' :: rest => some (.openBracket, rest)
  | ']' :: rest => some (.closeBracket, rest)
  | '@' :: rest => some (.at, rest)
  | ',' :: rest => some (.comma, rest)
  | ':' :: ':' :: rest => some (.colons, rest)
  | '/' :: '/' :: rest => some (.slashes, rest)
  | '/' :: rest => some (.slash, rest)
  | '|' :: rest => some (.operator .union, rest)
  | '+' :: rest => some (.operator .add, rest)
  | '-' :: rest => some (.operator .subtract, rest)
  | '=' :: rest => some (.operator .equal, rest)
  | '!' :: '=' :: rest => some (.operator .unequal, rest)
  | '<' :: '=' :: rest => some (.operator .atMost, rest)
  | '<' :: rest => some (.operator .less, rest)
  | '>' :: '=' :: rest => some (.operator .atLeast, rest)
  | '>' :: rest => some (.operator .greater, rest)
  | '*' :: rest => some (if afterOperand then .operator .multiply else .star, rest)
  | '.' :: '.' :: rest => some (.dots, rest)
  | '$' :: rest =>
      match nameToken? rest with
      | some (.name _ _, rest) => some (.variable, rest)
      | _ => none
  | c :: rest =>
      if c = '"' || c = '\'' then
        match rest.dropWhile (· ≠ c) with
        | _ :: after => some (.text (String.ofList (rest.takeWhile (· ≠ c))), after)
        | [] => none
      else if Digits.isDecimal c then some (numberToken cs)
      else if c = '.' then
        match rest with
        | d :: _ => if Digits.isDecimal d then some (numberToken cs) else some (.dot, rest)
        | [] => some (.dot, rest)
      else
        match nameToken? cs with
        | some (.name none word, rest) =>
            match afterOperand, wordOperator? word with
            | true, some op => some (.operator op, rest)
            | true, none => none
            | false, _ => some (.name none word, rest)
        | other => other
  | [] => none

/-- The tokens of a text. -/
def tokens? : Nat → Bool → List Char → Option (List Token)
  | 0, _, _ => none
  | fuel + 1, afterOperand, cs =>
      match Xml.skipSpace cs with
      | [] => some []
      | cs =>
          match nextToken? afterOperand cs with
          | some (t, rest) => (tokens? fuel t.endsOperand rest).map fun ts => t :: ts
          | none => none

end VirtualService.XPath

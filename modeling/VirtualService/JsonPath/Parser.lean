/-
  VirtualService/JsonPath/Parser.lean
  ===================================
  **Reading JSONPath queries.**

  Blanks may stand between segments and around everything in brackets, but not
  before or after the whole query.  Indices stay within the integers that doubles
  hold exactly.  Functions are checked for the kind of their arguments and of
  their result: `length`, `count` and `value` yield values to compare, `match`
  and `search` are conditions.
-/
import VirtualService.JsonPath.Syntax
import VirtualService.Json.Parser

namespace VirtualService.JsonPath

/-! ### Names, texts and numbers -/

def skip (cs : List Char) : List Char := Json.skipBlanks cs

def isNameStart (c : Char) : Bool := c.isAlpha || c = '_' || c.toNat ≥ 0x80

def isNameChar (c : Char) : Bool := isNameStart c || ('0' ≤ c && c ≤ '9')

/-- A name after a dot. -/
def name? (cs : List Char) : Option (String × List Char) :=
  match cs with
  | c :: rest =>
      if isNameStart c then
        some (String.ofList (c :: rest.takeWhile isNameChar), rest.dropWhile isNameChar)
      else none
  | [] => none

/-- The characters of a text up to its closing quote. -/
def quotedChars? (quote : Char) : Nat → List Char → Option (List Char × List Char)
  | 0, _ => none
  | _, [] => none
  | fuel + 1, c :: cs =>
      if c = quote then some ([], cs)
      else if c = '\\' then
        let escaped : Option (Char × List Char) := match cs with
          | '"' :: rest => if quote = '"' then some ('"', rest) else none
          | '\'' :: rest => if quote = '\'' then some ('\'', rest) else none
          | _ => Json.escape? cs
        match escaped with
        | some (e, rest) =>
            (quotedChars? quote fuel rest).map fun (text, rest) => (e :: text, rest)
        | none => none
      else if c.toNat < 32 then none
      else (quotedChars? quote fuel cs).map fun (text, rest) => (c :: text, rest)

/-- A text in quotes of either kind. -/
def quoted? (cs : List Char) : Option (String × List Char) :=
  match cs with
  | c :: rest =>
      if c = '"' || c = '\'' then
        (quotedChars? c (rest.length + 1) rest).map fun (text, rest) => (String.ofList text, rest)
      else none
  | [] => none

/-- The largest integer of an index. -/
def maxIndex : Nat := 9007199254740991

/-- The digits of an index: no zero in front. -/
def natural? (cs : List Char) : Option (Nat × List Char) :=
  let digits := cs.takeWhile Digits.isDecimal
  let rest := cs.dropWhile Digits.isDecimal
  if digits.isEmpty || (digits.head? = some '0' && digits.length > 1) then none
  else if Digits.value digits ≤ maxIndex then some (Digits.value digits, rest)
  else none

/-- An index; minus zero is none. -/
def integer? (cs : List Char) : Option (Int × List Char) :=
  match cs with
  | '-' :: rest =>
      match natural? rest with
      | some (0, _) => none
      | some (n, rest) => some (-(n : Int), rest)
      | none => none
  | _ => (natural? cs).map fun (n, rest) => ((n : Int), rest)

/-- An index that may be missing; a number out of range is not missing but wrong. -/
def optionalInteger? (cs : List Char) : Option (Option Int × List Char) :=
  match cs with
  | c :: _ =>
      if c = '-' || Digits.isDecimal c then (integer? cs).map fun (i, rest) => (some i, rest)
      else some (none, cs)
  | [] => some (none, cs)

/-- What follows a fixed word. -/
def after? (word : String) (cs : List Char) : Option (List Char) :=
  if word.toList.isPrefixOf cs then some (cs.drop word.length) else none

/-- A word that no letter continues. -/
def keyword? (word : String) (value : Json) (cs : List Char) : Option (Json × List Char) :=
  match after? word cs with
  | some rest =>
      match rest with
      | c :: _ => if isNameChar c then none else some (value, rest)
      | [] => some (value, rest)
  | none => none

/-- A literal: a number, a text, a truth value or null. -/
def literal? (cs : List Char) : Option (Json × List Char) :=
  match cs with
  | [] => none
  | c :: _ =>
      if c = '"' || c = '\'' then (quoted? cs).map fun (s, rest) => (.str s, rest)
      else if c = '-' || Digits.isDecimal c then
        (Json.number? cs).map fun (n, rest) => (.num n, rest)
      else
        ((keyword? "true" (.bool true) cs).orElse fun _ => keyword? "false" (.bool false) cs).orElse
          fun _ => keyword? "null" .null cs

/-- The sign of a comparison. -/
def comparison? (cs : List Char) : Option (Comparison × List Char) :=
  match cs with
  | '=' :: '=' :: rest => some (.equal, rest)
  | '!' :: '=' :: rest => some (.unequal, rest)
  | '<' :: '=' :: rest => some (.atMost, rest)
  | '>' :: '=' :: rest => some (.atLeast, rest)
  | '<' :: rest => some (.less, rest)
  | '>' :: rest => some (.greater, rest)
  | _ => none

/-! ### Function calls -/

/-- The name of a function with its opening parenthesis. -/
def functionName? (cs : List Char) : Option (String × List Char) :=
  let inside (c : Char) := ('a' ≤ c && c ≤ 'z') || c = '_' || Digits.isDecimal c
  match cs with
  | c :: _ =>
      if 'a' ≤ c ∧ c ≤ 'z' then
        match cs.dropWhile inside with
        | '(' :: rest => some (String.ofList (cs.takeWhile inside), rest)
        | _ => none
      else none
  | [] => none

/-- What a call yields. -/
inductive Call where
  | value (operand : Operand)
  | condition (c : Condition)

/-- An argument as a value: a literal, a query for at most one value, or a call that yields one. -/
def asValue? : Operand → Option Operand
  | .query path => if path.isSingular then some (.query path) else none
  | other => some other

/-- A call with arguments of the right number and kind. -/
def call? (name : String) (arguments : List Operand) : Option Call :=
  match name, arguments with
  | "length", [a] => (asValue? a).map fun a => .value (.length a)
  | "count", [.query path] => some (.value (.count path))
  | "value", [.query path] => some (.value (.value path))
  | "match", [a, b] =>
      match asValue? a, asValue? b with
      | some a, some b => some (.condition (.matching true a b))
      | _, _ => none
  | "search", [a, b] =>
      match asValue? a, asValue? b with
      | some a, some b => some (.condition (.matching false a b))
      | _, _ => none
  | _, _ => none

/-! ### Queries -/

mutual

/-- The segments of a query, as far as they go. -/
def segments? : Nat → List Char → Option (List Segment × List Char)
  | 0, _ => none
  | fuel + 1, cs =>
      let more (s : Segment) (rest : List Char) : Option (List Segment × List Char) :=
        (segments? fuel rest).map fun (ss, rest) => (s :: ss, rest)
      match skip cs with
      | '[' :: rest =>
          match selectors? fuel (skip rest) with
          | some (ss, rest) => more (.child ss) rest
          | none => none
      | '.' :: '.' :: '[' :: rest =>
          match selectors? fuel (skip rest) with
          | some (ss, rest) => more (.descendant ss) rest
          | none => none
      | '.' :: '.' :: '*' :: rest => more (.descendant [.wildcard]) rest
      | '.' :: '.' :: rest =>
          match name? rest with
          | some (key, rest) => more (.descendant [.name key]) rest
          | none => none
      | '.' :: '*' :: rest => more (.child [.wildcard]) rest
      | '.' :: rest =>
          match name? rest with
          | some (key, rest) => more (.child [.name key]) rest
          | none => none
      | _ => some ([], cs)

/-- The selectors in brackets, up to and with the closing one. -/
def selectors? : Nat → List Char → Option (List Selector × List Char)
  | 0, _ => none
  | fuel + 1, cs =>
      match selector? fuel cs with
      | none => none
      | some (s, rest) =>
          match skip rest with
          | ']' :: rest => some ([s], rest)
          | ',' :: rest => (selectors? fuel (skip rest)).map fun (ss, rest) => (s :: ss, rest)
          | _ => none

def selector? : Nat → List Char → Option (Selector × List Char)
  | 0, _ => none
  | fuel + 1, cs =>
      match cs with
      | '*' :: rest => some (.wildcard, rest)
      | '?' :: rest => (or? fuel (skip rest)).map fun (c, rest) => (.filter c, rest)
      | '"' :: _ => (quoted? cs).map fun (key, rest) => (.name key, rest)
      | '\'' :: _ => (quoted? cs).map fun (key, rest) => (.name key, rest)
      | _ =>
          match optionalInteger? cs with
          | none => none
          | some (start, rest) =>
              match skip rest with
              | ':' :: rest =>
                  match optionalInteger? (skip rest) with
                  | none => none
                  | some (stop, rest) =>
                      match skip rest with
                      | ':' :: rest =>
                          (optionalInteger? (skip rest)).map fun (step, rest) =>
                            (.slice start stop step, rest)
                      | _ => some (.slice start stop none, rest)
              | _ => start.map fun i => (.index i, rest)

/-- A query, from its first character on. -/
def query? : Nat → List Char → Option (Query × List Char)
  | 0, _ => none
  | fuel + 1, cs =>
      match cs with
      | '$' :: rest => (segments? fuel rest).map fun (ss, rest) => (.mk .root ss, rest)
      | '@' :: rest => (segments? fuel rest).map fun (ss, rest) => (.mk .current ss, rest)
      | _ => none

/-- An argument of a function. -/
def argument? : Nat → List Char → Option (Operand × List Char)
  | 0, _ => none
  | fuel + 1, cs =>
      match query? fuel cs with
      | some (path, rest) => some (.query path, rest)
      | none =>
          match functionCall? fuel cs with
          | some (.value a, rest) => some (a, rest)
          | some (.condition _, _) => none
          | none => (literal? cs).map fun (value, rest) => (.literal value, rest)

/-- The arguments of a function, up to and with its closing parenthesis. -/
def arguments? : Nat → List Char → Option (List Operand × List Char)
  | 0, _ => none
  | fuel + 1, cs =>
      match argument? fuel cs with
      | none => none
      | some (a, rest) =>
          match skip rest with
          | ')' :: rest => some ([a], rest)
          | ',' :: rest => (arguments? fuel (skip rest)).map fun (as, rest) => (a :: as, rest)
          | _ => none

def functionCall? : Nat → List Char → Option (Call × List Char)
  | 0, _ => none
  | fuel + 1, cs =>
      match functionName? cs with
      | none => none
      | some (name, rest) =>
          match arguments? fuel (skip rest) with
          | some (as, rest) => (call? name as).map fun c => (c, rest)
          | none => none

/-- One side of a comparison. -/
def operand? : Nat → List Char → Option (Operand × List Char)
  | 0, _ => none
  | fuel + 1, cs =>
      match argument? fuel cs with
      | some (a, rest) => (asValue? a).map fun a => (a, rest)
      | none => none

/-- Conditions joined by `||`. -/
def or? : Nat → List Char → Option (Condition × List Char)
  | 0, _ => none
  | fuel + 1, cs =>
      match and? fuel cs with
      | none => none
      | some (a, rest) =>
          match skip rest with
          | '|' :: '|' :: more =>
              (or? fuel (skip more)).map fun (b, rest) => (.or a b, rest)
          | _ => some (a, rest)

/-- Conditions joined by `&&`. -/
def and? : Nat → List Char → Option (Condition × List Char)
  | 0, _ => none
  | fuel + 1, cs =>
      match basic? fuel cs with
      | none => none
      | some (a, rest) =>
          match skip rest with
          | '&' :: '&' :: more =>
              (and? fuel (skip more)).map fun (b, rest) => (.and a b, rest)
          | _ => some (a, rest)

/-- A condition without joints: in parentheses, negated, a comparison or a test. -/
def basic? : Nat → List Char → Option (Condition × List Char)
  | 0, _ => none
  | fuel + 1, cs =>
      match cs with
      | '!' :: rest =>
          match skip rest with
          | '(' :: rest => (closed? fuel rest).map fun (c, rest) => (.not c, rest)
          | rest => (test? fuel rest).map fun (c, rest) => (.not c, rest)
      | '(' :: rest => closed? fuel rest
      | _ =>
          match comparing? fuel cs with
          | some result => some result
          | none => test? fuel cs

/-- A condition up to a closing parenthesis. -/
def closed? : Nat → List Char → Option (Condition × List Char)
  | 0, _ => none
  | fuel + 1, cs =>
      match or? fuel (skip cs) with
      | some (c, rest) =>
          match skip rest with
          | ')' :: rest => some (c, rest)
          | _ => none
      | none => none

def comparing? : Nat → List Char → Option (Condition × List Char)
  | 0, _ => none
  | fuel + 1, cs =>
      match operand? fuel cs with
      | none => none
      | some (a, rest) =>
          match comparison? (skip rest) with
          | none => none
          | some (op, rest) =>
              (operand? fuel (skip rest)).map fun (b, rest) => (.compare op a b, rest)

/-- A query that finds something, or a function that is a condition. -/
def test? : Nat → List Char → Option (Condition × List Char)
  | 0, _ => none
  | fuel + 1, cs =>
      match query? fuel cs with
      | some (path, rest) => some (.found path, rest)
      | none =>
          match functionCall? fuel cs with
          | some (.condition c, rest) => some (c, rest)
          | _ => none

end

/-- The query that a text writes; it starts at the root. -/
def Query.ofText? (text : String) : Option Query :=
  let cs := text.toList
  match cs with
  | '$' :: _ =>
      match query? (12 * cs.length + 12) cs with
      | some (q, []) => some q
      | _ => none
  | _ => none

end VirtualService.JsonPath

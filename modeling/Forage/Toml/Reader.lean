/-
**Reading TOML.**

The grammar of TOML 1.0: lines of keys and values, headers, comments; strings of four kinds; arrays
over several lines; tables in braces on one line.  Values and keys lie less than 80 deep inside one
another.

* `Toml.parse?` — the table of a document, if it is well formed and defines no key twice.
-/

import Forage.Toml.Document
import Forage.Toml.Number

set_option relaxedAutoImplicit false
set_option autoImplicit false

namespace Forage.Toml

/-- How deep values and keys may lie inside one another, this number not included. -/
def depthLimit : Nat := 80

----------------------------------------------------------------------------------------------------
-- Blanks, comments and line ends
----------------------------------------------------------------------------------------------------

def isBlankInLine (c : Char) : Bool := c == ' ' || c == '\t'

def dropBlanks (cs : List Char) : List Char := cs.dropWhile isBlankInLine

def isCommentChar (c : Char) : Bool := c == '\t' || (0x20 ≤ c.toNat && c.toNat != 0x7F)

/-- Takes one line end off. -/
def lineEnd? : List Char → Option (List Char)
  | '\n' :: rest => some rest
  | '\x0d' :: '\n' :: rest => some rest
  | _ => none

/-- Takes off what may follow the last value of a line, and the end of the line or of the text. -/
def restOfLine? (cs : List Char) : Option (List Char) :=
  let cs := dropBlanks cs
  let cs := match cs with
    | '#' :: rest => rest.dropWhile isCommentChar
    | cs => cs
  match cs with
  | [] => some []
  | cs => lineEnd? cs

/-- Drops blanks, line ends and comments, as between the values of an array.  `fuel` bounds the
number of pieces. -/
def dropSpace? : Nat → List Char → Option (List Char)
  | 0, _ => none
  | fuel + 1, cs =>
      match dropBlanks cs with
      | '#' :: rest =>
          match lineEnd? (rest.dropWhile isCommentChar) with
          | none => none
          | some rest => dropSpace? fuel rest
      | cs =>
          match lineEnd? cs with
          | none => some cs
          | some rest => dropSpace? fuel rest

----------------------------------------------------------------------------------------------------
-- Strings
----------------------------------------------------------------------------------------------------

/-- Characters that stand for themselves between double quotes. -/
def isBasicChar (c : Char) : Bool :=
  c == '\t' || (0x20 ≤ c.toNat && c.toNat != 0x7F && c != '"' && c != '\\')

/-- Characters that may stand between single quotes. -/
def isLiteralChar (c : Char) : Bool :=
  c == '\t' || (0x20 ≤ c.toNat && c.toNat != 0x7F && c != '\'')

/-- The character of so many hexadecimal digits. -/
def codePoint? (count : Nat) (cs : List Char) : Option (Char × List Char) :=
  let ds := cs.take count
  if ds.length = count && ds.all (isDigitOf 16) then
    let n := numberOf 16 ds
    if h : n.isValidChar then some (Char.ofNatAux n h, cs.drop count) else none
  else none

/-- The character that an escape stands for, its backslash taken. -/
def escape? : List Char → Option (Char × List Char)
  | 'b' :: rest => some ('\x08', rest)
  | 't' :: rest => some ('\t', rest)
  | 'n' :: rest => some ('\n', rest)
  | 'f' :: rest => some ('\x0c', rest)
  | 'r' :: rest => some ('\x0d', rest)
  | '"' :: rest => some ('"', rest)
  | '\\' :: rest => some ('\\', rest)
  | 'u' :: rest => codePoint? 4 rest
  | 'U' :: rest => codePoint? 8 rest
  | _ => none

/-- The rest of a string between double quotes. -/
def basicString? : Nat → List Char → Option (List Char × List Char)
  | 0, _ => none
  | _ + 1, [] => none
  | _ + 1, '"' :: rest => some ([], rest)
  | fuel + 1, '\\' :: rest =>
      match escape? rest with
      | none => none
      | some (c, rest) => (basicString? fuel rest).map fun (cs, after) => (c :: cs, after)
  | fuel + 1, c :: rest =>
      if isBasicChar c then (basicString? fuel rest).map fun (cs, after) => (c :: cs, after)
      else none

/-- The rest of a string between single quotes. -/
def literalString? : List Char → Option (List Char × List Char)
  | [] => none
  | '\'' :: rest => some ([], rest)
  | c :: rest =>
      if isLiteralChar c then (literalString? rest).map fun (cs, after) => (c :: cs, after)
      else none

/-- Drops blanks and line ends after a backslash at the end of a line. -/
def dropLineSpace : List Char → List Char
  | '\x0d' :: '\n' :: rest => dropLineSpace rest
  | c :: rest => if isBlankInLine c || c == '\n' then dropLineSpace rest else c :: rest
  | [] => []

/-- The rest of a string between triple quotes, in which one or two quotes may stand, also at its
end. -/
def multiBasic? : Nat → List Char → Option (List Char × List Char)
  | 0, _ => none
  | _ + 1, '"' :: '"' :: '"' :: '"' :: '"' :: rest => some (['"', '"'], rest)
  | _ + 1, '"' :: '"' :: '"' :: '"' :: rest => some (['"'], rest)
  | _ + 1, '"' :: '"' :: '"' :: rest => some ([], rest)
  | fuel + 1, '"' :: rest => (multiBasic? fuel rest).map fun (cs, after) => ('"' :: cs, after)
  | fuel + 1, '\\' :: rest =>
      match escape? rest with
      | some (c, rest) => (multiBasic? fuel rest).map fun (cs, after) => (c :: cs, after)
      | none =>
          match lineEnd? (dropBlanks rest) with
          | none => none
          | some rest => multiBasic? fuel (dropLineSpace rest)
  | fuel + 1, c :: rest =>
      match lineEnd? (c :: rest) with
      | some rest => (multiBasic? fuel rest).map fun (cs, after) => ('\n' :: cs, after)
      | none =>
          if isBasicChar c then (multiBasic? fuel rest).map fun (cs, after) => (c :: cs, after)
          else none
  | _ + 1, [] => none

/-- The same between triple single quotes. -/
def multiLiteral? : Nat → List Char → Option (List Char × List Char)
  | 0, _ => none
  | _ + 1, '\'' :: '\'' :: '\'' :: '\'' :: '\'' :: rest => some (['\'', '\''], rest)
  | _ + 1, '\'' :: '\'' :: '\'' :: '\'' :: rest => some (['\''], rest)
  | _ + 1, '\'' :: '\'' :: '\'' :: rest => some ([], rest)
  | fuel + 1, '\'' :: rest => (multiLiteral? fuel rest).map fun (cs, after) => ('\'' :: cs, after)
  | fuel + 1, c :: rest =>
      match lineEnd? (c :: rest) with
      | some rest => (multiLiteral? fuel rest).map fun (cs, after) => ('\n' :: cs, after)
      | none =>
          if isLiteralChar c then (multiLiteral? fuel rest).map fun (cs, after) => (c :: cs, after)
          else none
  | _ + 1, [] => none

/-- Drops the line end that may follow the opening of a string of several lines. -/
def dropFirstLineEnd (cs : List Char) : List Char := (lineEnd? cs).getD cs

def string? : List Char → Option (List Char × List Char)
  | '"' :: '"' :: '"' :: rest =>
      let rest := dropFirstLineEnd rest
      multiBasic? (rest.length + 1) rest
  | '\'' :: '\'' :: '\'' :: rest =>
      let rest := dropFirstLineEnd rest
      multiLiteral? (rest.length + 1) rest
  | '"' :: rest => basicString? (rest.length + 1) rest
  | '\'' :: rest => literalString? rest
  | _ => none

----------------------------------------------------------------------------------------------------
-- Keys
----------------------------------------------------------------------------------------------------

/-- Characters of a key without quotes. -/
def isBareChar (c : Char) : Bool := c.isAlphanum || c == '_' || c == '-'

/-- One part of a key. -/
def simpleKey? : List Char → Option (String × List Char)
  | '"' :: rest =>
      (basicString? (rest.length + 1) rest).map fun (cs, after) => (String.ofList cs, after)
  | '\'' :: rest => (literalString? rest).map fun (cs, after) => (String.ofList cs, after)
  | cs =>
      match cs.takeWhile isBareChar with
      | [] => none
      | name => some (String.ofList name, cs.dropWhile isBareChar)

/-- The parts of a dotted key, blanks around each of them. -/
def dottedKey? : Nat → List Char → Option (List String × List Char)
  | 0, _ => none
  | fuel + 1, cs =>
      match simpleKey? (dropBlanks cs) with
      | none => none
      | some (key, rest) =>
          match dropBlanks rest with
          | '.' :: rest => (dottedKey? fuel rest).map fun (keys, after) => (key :: keys, after)
          | rest => some ([key], rest)

/-- A key: fewer parts than the limit. -/
def key? (cs : List Char) : Option (List String × List Char) :=
  match dottedKey? depthLimit cs with
  | none => none
  | some (keys, after) => if keys.length < depthLimit then some (keys, after) else none

----------------------------------------------------------------------------------------------------
-- Values
----------------------------------------------------------------------------------------------------

/-- A number or a time. -/
def numeric? (cs : List Char) : Option (Value × List Char) :=
  match time? cs with
  | some after => some (.time, after)
  | none =>
      match float? cs with
      | some after => some (.float, after)
      | none => (integer? cs).map fun (n, after) => (.integer n, after)

mutual

/-- A value, `depth` values around it. -/
def value? : Nat → Nat → List Char → Option (Value × List Char)
  | 0, _, _ => none
  | fuel + 1, depth, cs =>
      match cs with
      | [] => none
      | '"' :: _ => (string? cs).map fun (s, after) => (.string (String.ofList s), after)
      | '\'' :: _ => (string? cs).map fun (s, after) => (.string (String.ofList s), after)
      | '[' :: rest =>
          if depth + 1 < depthLimit then
            (items? fuel (depth + 1) rest).map fun (vs, after) => (.array vs, after)
          else none
      | '\x7b' :: rest =>
          if depth + 1 < depthLimit then
            match dropBlanks rest with
            | '\x7d' :: after => some (.table .inline [], after)
            | rest =>
                match pairs? fuel (depth + 1) rest with
                | none => none
                | some (kvs, after) => (inlineTable? [] kvs).map fun t => (t, after)
          else none
      | 't' :: 'r' :: 'u' :: 'e' :: after => some (.boolean true, after)
      | 'f' :: 'a' :: 'l' :: 's' :: 'e' :: after => some (.boolean false, after)
      | _ => numeric? cs

/-- The values of an array up to its closing bracket. -/
def items? : Nat → Nat → List Char → Option (List Value × List Char)
  | 0, _, _ => none
  | fuel + 1, depth, cs =>
      match dropSpace? (cs.length + 1) cs with
      | none => none
      | some (']' :: after) => some ([], after)
      | some cs =>
          match value? fuel depth cs with
          | none => none
          | some (v, rest) =>
              match dropSpace? (rest.length + 1) rest with
              | some (',' :: rest) =>
                  (items? fuel depth rest).map fun (vs, after) => (v :: vs, after)
              | some (']' :: after) => some ([v], after)
              | _ => none

/-- The keys and values of a table in braces up to its closing brace. -/
def pairs? : Nat → Nat → List Char → Option (List (List String × Value) × List Char)
  | 0, _, _ => none
  | fuel + 1, depth, cs =>
      match key? cs with
      | some (key, '=' :: rest) =>
          match value? fuel depth (dropBlanks rest) with
          | none => none
          | some (v, rest) =>
              match dropBlanks rest with
              | ',' :: rest =>
                  (pairs? fuel depth rest).map fun (kvs, after) => ((key, v) :: kvs, after)
              | '\x7d' :: after => some ([(key, v)], after)
              | _ => none
      | _ => none

end

----------------------------------------------------------------------------------------------------
-- Documents
----------------------------------------------------------------------------------------------------

/-- Reads one line, blanks taken off, into a document. -/
def line? (d : Draft) (cs : List Char) : Option (Draft × List Char) :=
  match cs with
  | '[' :: '[' :: rest =>
      match key? rest with
      | some (path, ']' :: ']' :: rest) =>
          match d.appendTable? path, restOfLine? rest with
          | some d, some rest => some (d, rest)
          | _, _ => none
      | _ => none
  | '[' :: rest =>
      match key? rest with
      | some (path, ']' :: rest) =>
          match d.openTable? path, restOfLine? rest with
          | some d, some rest => some (d, rest)
          | _, _ => none
      | _ => none
  | cs =>
      match restOfLine? cs with
      | some rest => some (d, rest)
      | none =>
          match key? cs with
          | some (path, '=' :: rest) =>
              match value? (rest.length + 1) 0 (dropBlanks rest) with
              | none => none
              | some (v, rest) =>
                  match d.insert? path v, restOfLine? rest with
                  | some d, some rest => some (d, rest)
                  | _, _ => none
          | _ => none

def lines? : Nat → Draft → List Char → Option Draft
  | 0, _, _ => none
  | fuel + 1, d, cs =>
      match dropBlanks cs with
      | [] => some d
      | cs =>
          match line? d cs with
          | none => none
          | some (d, rest) => lines? fuel d rest

/-- Takes off the mark that may stand before a text. -/
def dropMark : List Char → List Char
  | [] => []
  | c :: rest => if c.toNat = 0xFEFF then rest else c :: rest

def parse? (text : String) : Option Value :=
  let cs := dropMark text.toList
  (lines? (cs.length + 1) .empty cs).map fun d => .table .header d.entries

end Forage.Toml

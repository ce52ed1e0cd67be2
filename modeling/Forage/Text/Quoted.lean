/-
**Quoted text for messages.**

A text stands between double quotes.  A quote, a backslash, a tab, the two line ends and the null
character have escapes of two characters; any other character that could not be seen is written as
its code point in lowercase hexadecimal between braces.
-/

import Forage.Text.Quoted.Table

set_option relaxedAutoImplicit false
set_option autoImplicit false

namespace Forage.Text

def hexDigits (n : Nat) : List Char := Nat.toDigits 16 n

/-- One character of a quoted text. -/
def quoteChar (c : Char) : List Char :=
  match c with
  | '\x00' => ['\\', '0']
  | '\t' => ['\\', 't']
  | '\n' => ['\\', 'n']
  | '\x0d' => ['\\', 'r']
  | '"' => ['\\', '"']
  | '\\' => ['\\', '\\']
  | c => if isShown c then [c] else ['\\', 'u', '\x7b'] ++ hexDigits c.toNat ++ ['\x7d']

/-- A text between double quotes, with escapes for all that could not be seen. -/
def quote (s : String) : String :=
  String.ofList (['"'] ++ s.toList.flatMap quoteChar ++ ['"'])

end Forage.Text

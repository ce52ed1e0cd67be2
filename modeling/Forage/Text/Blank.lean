/-
**Blank characters and trimming.**

A character is blank when it has the Unicode property `White_Space`: the six ASCII blanks, the two
of Latin-1, and the spaces and separators beyond.  Lines of an ignore file and interpreter
directives are trimmed of exactly these.

* `Text.isBlank` — the property;
* `Text.trim` — a text without the blanks at its two ends.
-/

set_option relaxedAutoImplicit false
set_option autoImplicit false

namespace Forage.Text

/-- The Unicode property `White_Space`. -/
def isBlank (c : Char) : Bool :=
  let n := c.toNat
  (9 ≤ n && n ≤ 13) || n == 0x20 || n == 0x85 || n == 0xA0 || n == 0x1680 ||
    (0x2000 ≤ n && n ≤ 0x200A) || n == 0x2028 || n == 0x2029 || n == 0x202F || n == 0x205F ||
    n == 0x3000

/-- Removes the characters of a class from the end of a list. -/
def dropTail {α : Type} (p : α → Bool) (l : List α) : List α :=
  (l.reverse.dropWhile p).reverse

/-- Removes the blanks at both ends. -/
def trimChars (cs : List Char) : List Char :=
  dropTail isBlank (cs.dropWhile isBlank)

def trim (s : String) : String :=
  String.ofList (trimChars s.toList)

end Forage.Text

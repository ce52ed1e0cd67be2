/-
**What the beginning of a file tells.**

Only the first 512 bytes count.  A file is binary if they hold a null byte, or if more than three in
ten of them are control characters other than the tab and the two line ends.  A script names its
interpreter in a first line that begins with `#!`.

* `Content.isBinary` — whether some bytes look binary;
* `Content.directive?` — the lowercased interpreter directive of a script.
-/

import Forage.Text.Blank
import Forage.Text.Lowercase
import Forage.Text.Utf8

set_option relaxedAutoImplicit false
set_option autoImplicit false

namespace Forage.Content

/-- How many leading bytes are looked at. -/
def sniffLength : Nat := 512

/-- Control characters other than the tab and the two line ends. -/
def isControl (b : UInt8) : Bool := b < 32 && b != 9 && b != 10 && b != 13

/-- Whether some bytes look binary: a null byte, or more than three control characters in ten. -/
def isBinary (bytes : Bytes) : Bool :=
  let sample := bytes.take sniffLength
  sample.contains 0 || decide (3 * sample.length < 10 * sample.countP isControl)

def isAsciiBlank (b : UInt8) : Bool := b == 32 || b == 9 || b == 10 || b == 12 || b == 13

def firstLine (bytes : Bytes) : Bytes := bytes.takeWhile (· != 10)

/-- What follows `#!` on the first line, trimmed and lowercased. -/
def directive? (bytes : Bytes) : Option String :=
  match Text.dropTail isAsciiBlank ((firstLine bytes).dropWhile isAsciiBlank) with
  | 35 :: 33 :: rest =>
      some (String.ofList (Text.lowerChars (Text.trimChars (Text.decodeLossy rest))))
  | _ => none

end Forage.Content

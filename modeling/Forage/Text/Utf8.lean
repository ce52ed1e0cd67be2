/-
**Reading bytes as UTF-8 without ever failing.**

A well-formed sequence becomes its character.  Where the bytes stop being well formed, the longest
part that could still have begun a character becomes one replacement character, and reading goes on
after it.

* `Text.decodeLossy` — the characters of a list of bytes;
* `Text.decode?` — the text of bytes that are well formed throughout;
* `Text.encode` — the bytes of a text.
-/

set_option relaxedAutoImplicit false
set_option autoImplicit false

namespace Forage

/-- The contents of a file. -/
abbrev Bytes := List UInt8

namespace Text

/-- What stands for bytes that are no character. -/
def replacement : Char := Char.ofNat 0xFFFD

/-- How a sequence of several bytes goes on after its first byte. -/
structure Utf8Lead where
  /-- The bits that the first byte contributes. -/
  bits : Nat
  /-- How many bytes follow. -/
  more : Nat
  /-- The bounds of the second byte; later ones lie between `0x80` and `0xBF`. -/
  low : Nat
  high : Nat

/-- The first bytes of sequences.  Overlong forms, surrogates and code points beyond `0x10FFFF` are
kept out by the bounds on the second byte. -/
def utf8Lead? (b : UInt8) : Option Utf8Lead :=
  let n := b.toNat
  if 0xC2 ≤ n && n ≤ 0xDF then some ⟨n - 0xC0, 1, 0x80, 0xBF⟩
  else if n == 0xE0 then some ⟨0, 2, 0xA0, 0xBF⟩
  else if n == 0xED then some ⟨0xD, 2, 0x80, 0x9F⟩
  else if 0xE1 ≤ n && n ≤ 0xEF then some ⟨n - 0xE0, 2, 0x80, 0xBF⟩
  else if n == 0xF0 then some ⟨0, 3, 0x90, 0xBF⟩
  else if 0xF1 ≤ n && n ≤ 0xF3 then some ⟨n - 0xF0, 3, 0x80, 0xBF⟩
  else if n == 0xF4 then some ⟨4, 3, 0x80, 0x8F⟩
  else none

/-- Takes the bytes that follow a first byte.  The answer holds the code point, or nothing if the
sequence breaks off, and how many bytes belong to what was read. -/
def utf8Tail (value more low high : Nat) : Bytes → Option Nat × Nat
  | [] => (if more == 0 then some value else none, 0)
  | b :: rest =>
      match more with
      | 0 => (some value, 0)
      | more + 1 =>
          if low ≤ b.toNat && b.toNat ≤ high then
            let (r, taken) := utf8Tail (value * 64 + (b.toNat - 0x80)) more 0x80 0xBF rest
            (r, taken + 1)
          else (none, 0)

/-- Reads on, `skip` bytes belonging to the character before. -/
def decodeFrom (skip : Nat) : Bytes → List Char
  | [] => []
  | b :: rest =>
      match skip with
      | skip + 1 => decodeFrom skip rest
      | 0 =>
          if b.toNat < 0x80 then Char.ofNat b.toNat :: decodeFrom 0 rest
          else
            match utf8Lead? b with
            | none => replacement :: decodeFrom 0 rest
            | some lead =>
                match utf8Tail lead.bits lead.more lead.low lead.high rest with
                | (some n, taken) => Char.ofNat n :: decodeFrom taken rest
                | (none, taken) => replacement :: decodeFrom taken rest

/-- The characters of some bytes, with a replacement for each part that is no character. -/
def decodeLossy (bs : Bytes) : List Char := decodeFrom 0 bs

/-- The text of some bytes, with a replacement for each part that is no character. -/
def ofBytesLossy (bs : Bytes) : String := String.ofList (decodeLossy bs)

def encode (s : String) : Bytes := s.toUTF8.toList

/-- The text of bytes that are well formed throughout. -/
def decode? (bs : Bytes) : Option String :=
  let s := ofBytesLossy bs
  if encode s == bs then some s else none

end Text

end Forage

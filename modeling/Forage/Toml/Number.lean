/-
**Numbers and times of TOML.**

Integers have values; of floats and times only their form matters, and of a float that it can be
held: one too large is refused, and so is a day that its month has not.

* `Toml.integer?` — a decimal, hexadecimal, octal or binary integer of 64 bits with a sign;
* `Toml.float?` — the text after a float;
* `Toml.time?` — the text after a date, a time of day, or both.
-/

set_option relaxedAutoImplicit false
set_option autoImplicit false

namespace Forage.Toml

----------------------------------------------------------------------------------------------------
-- Integers
----------------------------------------------------------------------------------------------------

def digitValue (c : Char) : Nat :=
  if c.isDigit then c.toNat - 48 else if c.isLower then c.toNat - 87 else c.toNat - 55

/-- Whether a character is a digit of a base of at most sixteen. -/
def isDigitOf (base : Nat) (c : Char) : Bool :=
  (c.isDigit || ('a' ≤ c && c ≤ 'f') || ('A' ≤ c && c ≤ 'F')) && digitValue c < base

/-- Digits between which single underscores may stand, and the text after them. -/
def moreDigits (base : Nat) : List Char → List Char × List Char
  | [] => ([], [])
  | '_' :: c :: rest =>
      if isDigitOf base c then
        let (ds, after) := moreDigits base rest
        (c :: ds, after)
      else ([], '_' :: c :: rest)
  | c :: rest =>
      if isDigitOf base c then
        let (ds, after) := moreDigits base rest
        (c :: ds, after)
      else ([], c :: rest)

/-- At least one digit, with underscores in between. -/
def digits? (base : Nat) : List Char → Option (List Char × List Char)
  | [] => none
  | c :: rest =>
      if isDigitOf base c then
        let (ds, after) := moreDigits base rest
        some (c :: ds, after)
      else none

def numberOf (base : Nat) (ds : List Char) : Nat :=
  ds.foldl (fun n c => n * base + digitValue c) 0

def sign : List Char → Bool × List Char
  | '-' :: rest => (true, rest)
  | '+' :: rest => (false, rest)
  | rest => (false, rest)

/-- The digits of a decimal integer, which begins with a zero only if it is one. -/
def decimal? : List Char → Option (List Char × List Char)
  | '0' :: rest => some (['0'], rest)
  | cs => digits? 10 cs

/-- The largest integer of 64 bits with a sign. -/
def maxInteger : Nat := 0x7FFFFFFFFFFFFFFF

/-- An integer of another base than ten. -/
def based? (base : Nat) (cs : List Char) : Option (Int × List Char) :=
  match digits? base cs with
  | none => none
  | some (ds, after) =>
      let n := numberOf base ds
      if n ≤ maxInteger then some (Int.ofNat n, after) else none

/-- An integer of 64 bits with a sign. -/
def integer? (cs : List Char) : Option (Int × List Char) :=
  match cs with
  | '0' :: 'x' :: rest => based? 16 rest
  | '0' :: 'o' :: rest => based? 8 rest
  | '0' :: 'b' :: rest => based? 2 rest
  | cs =>
      let (negative, rest) := sign cs
      match decimal? rest with
      | none => none
      | some (ds, after) =>
          let n := numberOf 10 ds
          if negative then if n ≤ maxInteger + 1 then some (-Int.ofNat n, after) else none
          else if n ≤ maxInteger then some (Int.ofNat n, after) else none

----------------------------------------------------------------------------------------------------
-- Floats
----------------------------------------------------------------------------------------------------

/-- An exponent: its sign, its digits and the text after it. -/
def exponent? : List Char → Option (Bool × List Char × List Char)
  | c :: rest =>
      if c == 'e' || c == 'E' then
        let (negative, rest) := sign rest
        (digits? 10 rest).map fun (ds, after) => (negative, ds, after)
      else none
  | [] => none

/-- The number of some digits, turned round if it is negative. -/
def signed (negative : Bool) (digits : List Char) : Int :=
  if negative then -Int.ofNat (numberOf 10 digits) else Int.ofNat (numberOf 10 digits)

/-- A mantissa from here on rounds to more than the largest number that can be held. -/
def tooLarge (mantissa : List Char) (places : Nat) (exponent : Int) : Bool :=
  let m := numberOf 10 mantissa
  let e := exponent - Int.ofNat places
  if m = 0 then false
  else if e + Int.ofNat mantissa.length < 300 then false
  else if e > 400 then true
  else
    let limit := Nat.pow 2 1024 - Nat.pow 2 970
    if 0 ≤ e then limit ≤ m * Nat.pow 10 e.toNat else limit * Nat.pow 10 (-e).toNat ≤ m

/-- The text after a float: an integer with a fraction, an exponent or both, or one of the two words
for what is no number. -/
def float? (cs : List Char) : Option (List Char) :=
  let (negative, rest) := sign cs
  match rest with
  | 'i' :: 'n' :: 'f' :: after => some after
  | 'n' :: 'a' :: 'n' :: after => some after
  | _ =>
      match decimal? rest with
      | none => none
      | some (whole, '.' :: rest) =>
          match digits? 10 rest with
          | none => none
          | some (fraction, rest) =>
              let (e, after) :=
                match exponent? rest with
                | none => (0, rest)
                | some (down, ds, after) =>
                    (signed down ds, after)
              if !negative && tooLarge (whole ++ fraction) fraction.length e then none
              else some after
      | some (whole, rest) =>
          match exponent? rest with
          | none => none
          | some (down, ds, after) =>
              let e := signed down ds
              if !negative && tooLarge whole 0 e then none else some after

----------------------------------------------------------------------------------------------------
-- Dates and times
----------------------------------------------------------------------------------------------------

/-- A number of two digits within bounds. -/
def twoDigits? (low high : Nat) : List Char → Option (Nat × List Char)
  | a :: b :: rest =>
      if a.isDigit && b.isDigit then
        let n := numberOf 10 [a, b]
        if low ≤ n && n ≤ high then some (n, rest) else none
      else none
  | _ => none

def daysOf (year month : Nat) : Nat :=
  if month = 2 then
    if year % 4 = 0 && (year % 100 != 0 || year % 400 = 0) then 29 else 28
  else if month = 4 || month = 6 || month = 9 || month = 11 then 30
  else 31

/-- The text after a date. -/
def date? : List Char → Option (List Char)
  | a :: b :: c :: d :: '-' :: rest =>
      if [a, b, c, d].all Char.isDigit then
        match twoDigits? 1 12 rest with
        | some (month, '-' :: rest) =>
            match twoDigits? 1 31 rest with
            | some (day, after) =>
                if day ≤ daysOf (numberOf 10 [a, b, c, d]) month then some after else none
            | none => none
        | _ => none
      else none
  | _ => none

/-- The text after a time of day. -/
def clock? (cs : List Char) : Option (List Char) :=
  match twoDigits? 0 23 cs with
  | some (_, ':' :: rest) =>
      match twoDigits? 0 59 rest with
      | some (_, ':' :: rest) =>
          match twoDigits? 0 60 rest with
          | some (_, '.' :: c :: after) =>
              if c.isDigit then some (after.dropWhile Char.isDigit) else none
          | some (_, ['.']) => none
          | some (_, after) => some after
          | none => none
      | _ => none
  | _ => none

/-- The text after a distance from Greenwich, which need not be there. -/
def offset? : List Char → Option (List Char)
  | 'Z' :: rest => some rest
  | 'z' :: rest => some rest
  | c :: rest =>
      if c == '+' || c == '-' then
        match twoDigits? 0 23 rest with
        | some (_, ':' :: rest) => (twoDigits? 0 59 rest).map Prod.snd
        | _ => none
      else some (c :: rest)
  | [] => some []

/-- The text after a date, a time of day, or both. -/
def time? (cs : List Char) : Option (List Char) :=
  match date? cs with
  | some (c :: rest) =>
      if c == 'T' || c == 't' || c == ' ' then
        match clock? rest with
        | some after => offset? after
        | none => some (c :: rest)
      else some (c :: rest)
  | some [] => some []
  | none => clock? cs

end Forage.Toml

/-
**Unicode properties by name.**

A regular expression may name a class of characters: by a property that a character has or has not,
by a general category or a script, or by a property and its value.  Blanks, underscores, dashes, the
case of letters and a leading `is` do not count in names.

* `Property.named?` — the characters that a name alone stands for;
* `Property.valued?` — the characters that a property and a value stand for together;
* `Property.digits`, `Property.wordCharacters` — the classes that have short names of their own.
-/

import Forage.Regex.Property.Age
import Forage.Regex.Property.Segmentation

set_option relaxedAutoImplicit false
set_option autoImplicit false

namespace Forage.Regex.Property

/-- The form of a name that is compared. -/
def canonical (name : List Char) : List Char :=
  let (isPrefixed, rest) :=
    match name with
    | a :: b :: rest =>
        if (a == 'i' || a == 'I') && (b == 's' || b == 'S') then (true, rest) else (false, name)
    | _ => (false, name)
  let kept := (rest.filter fun c => c.toNat < 0x80 && c != ' ' && c != '_' && c != '-').map
    Char.toLower
  if isPrefixed && kept == ['c'] then ['i', 's', 'c'] else kept

/-- The characters that a name alone stands for. -/
def named? (name : List Char) : Option CodeSet :=
  let n := String.ofList (canonical name)
  match Binary.named? n with
  | some s => some s
  | none =>
      match Category.named? n with
      | some s => some s
      | none => Script.named? n

/-- The characters that a property and a value stand for together. -/
def valued? (property value : List Char) : Option CodeSet :=
  let v := String.ofList (canonical value)
  match String.ofList (canonical property) with
  | "gc" => Category.named? v
  | "generalcategory" => Category.named? v
  | "sc" => Script.named? v
  | "script" => Script.named? v
  | "scx" => Script.extended? v
  | "scriptextensions" => Script.extended? v
  | "age" => Age.upTo? v
  | "gcb" => Segmentation.grapheme? v
  | "graphemeclusterbreak" => Segmentation.grapheme? v
  | "wb" => Segmentation.word? v
  | "wordbreak" => Segmentation.word? v
  | "sb" => Segmentation.sentence? v
  | "sentencebreak" => Segmentation.sentence? v
  | _ => none

/-- Decimal digits of all scripts. -/
def digits : CodeSet := Category.decimalNumber.set

/-- Letters, marks, digits and connectors: what words are made of. -/
def wordCharacters : CodeSet :=
  .unionAll
    [Binary.alphabetic, Category.setOf Category.marks, digits, Category.connectorPunctuation.set,
      Binary.joinControl]

def blanks : CodeSet := Binary.whiteSpace

end Forage.Regex.Property

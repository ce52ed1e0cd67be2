/-
**Where text divides.**

Three properties say how a character behaves where text is divided into characters as a reader sees
them, into words, and into sentences.  Most of their values follow from categories and from other
properties.

* `Segmentation.grapheme?`, `word?`, `sentence?` — the characters of a value by its name.
-/

import Forage.Regex.Property.Binary
import Forage.Regex.Property.Script

set_option relaxedAutoImplicit false
set_option autoImplicit false

namespace Forage.Regex.Segmentation

/-- The characters of a value, by the names of the value. -/
def find? (name : String) (values : List (List String × CodeSet)) : Option CodeSet :=
  (values.find? fun row => row.1.contains name).map fun row => row.2

/-- The characters of a script of which the name is known. -/
def script (name : String) : CodeSet := (Script.named? name).getD .empty

/-- Marks that belong to the character before them. -/
def dependent : CodeSet := Binary.graphemeExtend.union Category.spacingMark.set

def carriageReturn : CodeSet := .single 0xD

def lineFeed : CodeSet := .single 0xA

/-- The joiner of two characters. -/
def joiner : CodeSet := .single 0x200D

----------------------------------------------------------------------------------------------------
-- Characters as a reader sees them
----------------------------------------------------------------------------------------------------

/-- Controls and what is not shown. -/
def graphemeControl : CodeSet :=
  (CodeSet.unionAll
    [Category.setOf [.control, .format, .lineSeparator, .paragraphSeparator],
      Category.unassigned.inter Binary.defaultIgnorable]).diff
    (.unionAll
      [carriageReturn, lineFeed, joiner, Binary.prependedMark, Binary.graphemeExtend])

/-- Marks that follow their character and take room. -/
def graphemeSpacing : CodeSet :=
  ((Category.spacingMark.set.diff Binary.graphemeExtend).diff
    (.ofTable [
      "102B-102C 1038 1062-1064 1067-106D 1083 1087-108C 108F 109A-109C 1A61 1A63-1A64 AA7B AA7D",
      "1171E 11720-11721"])).union
    (.ofTable ["E33 EB3"])

/-- Marks that precede their character. -/
def graphemePrepend : CodeSet := .ofTable [
  "600-605 6DD 70F 890-891 8E2 D4E 110BD 110CD 111C2-111C3 113D1 1193F 11941 11A3A 11A84-11A89",
  "11D46 11F02"]

/-- Hangul syllables without a final consonant: every 28th. -/
def openSyllables : CodeSet :=
  ⟨(List.range 399).map fun i => (0xAC00 + 28 * i, 0xAC00 + 28 * i)⟩

/-- The values of the division into characters. -/
def graphemeValues : List (List String × CodeSet) := [
  (["cr"], carriageReturn),
  (["lf"], lineFeed),
  (["cn", "control"], graphemeControl),
  (["ex", "extend"], Binary.graphemeExtend.union Binary.emojiModifier),
  (["l"], .ofTable ["1100-115F A960-A97C"]),
  (["v"], .ofTable ["1160-11A7 D7B0-D7C6 16D63 16D67-16D6A"]),
  (["t"], .ofTable ["11A8-11FF D7CB-D7FB"]),
  (["lv"], openSyllables),
  (["lvt"], (CodeSet.range 0xAC00 0xD7A3).diff openSyllables),
  (["pp", "prepend"], graphemePrepend),
  (["ri", "regionalindicator"], Binary.regionalIndicator),
  (["sm", "spacingmark"], graphemeSpacing),
  (["zwj"], joiner)]

/-- The characters of a value of the division into characters. -/
def grapheme? (name : String) : Option CodeSet := find? name graphemeValues

----------------------------------------------------------------------------------------------------
-- Words
----------------------------------------------------------------------------------------------------

def hebrewLetter : CodeSet := (script "hebrew").inter Category.otherLetter.set

/-- Katakana with its marks. -/
def katakana : CodeSet :=
  (script "katakana").union (.ofTable ["3031-3035 309B-309C 30A0 30FC FF70"])

/-- Scripts whose words are not divided by their letters. -/
def undivided : CodeSet :=
  .unionAll
    (["hiragana", "thai", "lao", "myanmar", "khmer", "taile", "newtailue", "taitham", "taiviet",
      "ahom"].map script)

/-- Marks within a word. -/
def wordExtend : CodeSet := dependent.union Binary.emojiModifier

/-- Letters of words. -/
def wordLetter : CodeSet :=
  (Binary.alphabetic.diff
    (.unionAll [wordExtend, Binary.ideographic, katakana, hebrewLetter, undivided])).union
    (.ofTable [
      "2C2-2C5 2D2-2D7 2DE-2DF 2E5-2EB 2ED 2EF-2FF 55A-55C 55E 58A 5F3 A708-A716 A720-A721",
      "A789-A78A AB5B"])

/-- The values of the division into words. -/
def wordValues : List (List String × CodeSet) := [
  (["aletter", "le"], wordLetter),
  (["cr"], carriageReturn),
  (["doublequote", "dq"], .single 0x22),
  (["ex", "extend"], wordExtend.diff joiner),
  (["extendnumlet"], .ofTable ["5F 202F 203F-2040 2054 FE33-FE34 FE4D-FE4F FF3F"]),
  (["fo", "format"], Category.format.set.diff (dependent.union (.range 0x200B 0x200D))),
  (["hebrewletter", "hl"], hebrewLetter),
  (["ka", "katakana"], katakana),
  (["lf"], lineFeed),
  (["mb", "midnumlet"], .ofTable ["2E 2018-2019 2024 FE52 FF07 FF0E"]),
  (["midletter", "ml"], .ofTable ["3A B7 387 55F 5F4 2027 FE13 FE55 FF1A"]),
  (["midnum", "mn"],
    .ofTable ["2C 3B 37E 589 60C-60D 66C 7F8 2044 FE10 FE14 FE50 FE54 FF0C FF1B"]),
  (["newline", "nl"], .ofTable ["B-C 85 2028-2029"]),
  (["nu", "numeric"], Category.decimalNumber.set.union (.single 0x66B)),
  (["regionalindicator", "ri"], Binary.regionalIndicator),
  (["singlequote", "sq"], .single 0x27),
  (["wsegspace"], .ofTable ["20 1680 2000-2006 2008-200A 205F 3000"]),
  (["zwj"], joiner)]

/-- The characters of a value of the division into words. -/
def word? (name : String) : Option CodeSet := find? name wordValues

----------------------------------------------------------------------------------------------------
-- Sentences
----------------------------------------------------------------------------------------------------

/-- Marks within a sentence. -/
def sentenceExtend : CodeSet := dependent.union joiner

/-- Ends of paragraphs. -/
def paragraphEnd : CodeSet := .ofTable ["85 2028-2029"]

/-- Full stops, which may end a sentence. -/
def fullStop : CodeSet := .ofTable ["2E 2024 FE52 FF0E"]

/-- Georgian letters, which count as letters without case here. -/
def georgian : CodeSet := .ofTable ["10D0-10FA 10FD-10FF 1C90-1CBA 1CBD-1CBF"]

/-- Lowercase letters of sentences. -/
def sentenceLower : CodeSet := (Binary.lowercase.diff Binary.graphemeExtend).diff georgian

/-- Letters that may begin a sentence. -/
def sentenceUpper : CodeSet :=
  (Binary.uppercase.union Category.titlecaseLetter.set).diff georgian

/-- Letters without case. -/
def sentenceLetter : CodeSet :=
  ((Binary.alphabetic.diff (.unionAll [Binary.cased, sentenceExtend])).union georgian).union
    (.single 0x5F3)

/-- The values of the division into sentences. -/
def sentenceValues : List (List String × CodeSet) := [
  (["at", "aterm"], fullStop),
  (["cl", "close"],
    ((Category.setOf
      [.openPunctuation, .closePunctuation, .initialPunctuation, .finalPunctuation]).union
      (Binary.quotationMark.diff (.ofTable ["FF02 FF07"]))).union
      (.ofTable ["275B-2760 2E00-2E01 2E06-2E08 2E0B 1F676-1F678"])),
  (["cr"], carriageReturn),
  (["ex", "extend"], sentenceExtend),
  (["fo", "format"], Category.format.set.diff sentenceExtend),
  (["le", "oletter"], sentenceLetter),
  (["lf"], lineFeed),
  (["lo", "lower"], sentenceLower),
  (["nu", "numeric"], Category.decimalNumber.set.union (.range 0x66B 0x66C)),
  (["sc", "scontinue"],
    .ofTable [
      "2C-2D 3A 55D 60C-60D 7F8 1802 1808 2013-2014 3001 FE10-FE11 FE13 FE31-FE32 FE50-FE51 FE55",
      "FE58 FE63 FF0C-FF0D FF1A FF64"]),
  (["se", "sep"], paragraphEnd),
  (["sp"], Binary.whiteSpace.diff (.unionAll [carriageReturn, lineFeed, paragraphEnd])),
  (["st", "sterm"], Binary.sentenceTerminal.diff fullStop),
  (["up", "upper"], sentenceUpper)]

/-- The characters of a value of the division into sentences. -/
def sentence? (name : String) : Option CodeSet := find? name sentenceValues

end Forage.Regex.Segmentation

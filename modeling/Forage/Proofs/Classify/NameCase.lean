/-
**Classification does not see the case of ASCII letters in names.**

A name is looked at in three ways: its end from the last dot on, in lowercase, is its extension; all
of it, in lowercase, is compared with names and globs; and only its first character tells whether it
is hidden.  Lowercase is that of Unicode, where what becomes of a letter may hang on the letters
around it.  Cutting a name at its last dot and turning its ASCII letters small can be done in either
order, and lowercase does not show which case those letters had.  So none of the three ways does.

Main definitions:

* `Classifier.SameButCase` — two files of the same kind, size and beginning, whose names differ at
  most in the case of ASCII letters.

Main results:

* `Extension.ofName_congr` — such names have the same extension;
* `Filters.admitsName_congr`, `Classifier.byName?_congr` — they are admitted alike, and tell the same
  language;
* `Classifier.sameButCase_alike` — **such files are classified and admitted alike**.
-/

import Forage.Proofs.Classify.Detectors
import Forage.Proofs.Text.LetterCase

set_option relaxedAutoImplicit false
set_option autoImplicit false

namespace Forage

/-! ### Extensions -/

namespace Extension

/-- Turning letters small makes no dot and takes none away. -/
theorem toLower_bne_dot (c : Char) : (c.toLower != '.') = (c != '.') :=
  Text.eq_toLower_of_letters (f := fun c => c != '.') (by decide) c

theorem fromLast_map_toLower (cs : List Char) :
    fromLast '.' (cs.map Char.toLower) = (fromLast '.' cs).map Char.toLower := by
  have hdots : (fun c : Char => c != '.') ∘ Char.toLower = fun c => c != '.' :=
    funext toLower_bne_dot
  have htail : ((cs.map Char.toLower).reverse.takeWhile (· != '.')).reverse =
      (cs.reverse.takeWhile (· != '.')).reverse.map Char.toLower := by
    rw [← List.map_reverse, List.takeWhile_map, hdots, List.map_reverse]
  simp only [fromLast, htail, List.length_map]
  split <;> rfl

/-- An extension does not show the case of ASCII letters. -/
theorem ofName_foldAscii (name : String) : ofName (Text.foldAscii name) = ofName name := by
  have hchars : Text.lowerChars ((fromLast '.' name.toList).map Char.toLower) =
      Text.lowerChars (fromLast '.' name.toList) :=
    Text.lowerFrom_map_toLower [] _
  rw [ofName, ofName, Text.foldAscii, String.toList_ofList, fromLast_map_toLower, hchars]

theorem ofName_congr {name name' : String} (h : Text.foldAscii name = Text.foldAscii name') :
    ofName name = ofName name' := by
  rw [← ofName_foldAscii name, h, ofName_foldAscii]

end Extension

/-! ### Names -/

/-- The first character of a name shows whether it is a dot, whatever the case of letters. -/
theorem Text.head?_foldAscii_bne_dot (name : String) :
    ((Text.foldAscii name).toList.head? != some '.') = (name.toList.head? != some '.') := by
  rw [Text.foldAscii, String.toList_ofList]
  cases name.toList with
  | nil => rfl
  | cons c rest => exact Extension.toLower_bne_dot c

theorem Registry.byName?_congr (r : Registry) {name name' : String}
    (h : Text.foldAscii name = Text.foldAscii name') : r.byName? name = r.byName? name' := by
  rw [byName?, byName?, Text.lowercase_congr h]

/-- The first step of the policy does not see the case of ASCII letters. -/
theorem Filters.admitsName_congr (f : Filters) {name name' : String} {info info' : Info}
    (h : Text.foldAscii name = Text.foldAscii name') (hsize : info.size = info'.size) :
    f.admitsName name info = f.admitsName name' info' := by
  have hhidden : (name.toList.head? != some '.') = (name'.toList.head? != some '.') := by
    rw [← Text.head?_foldAscii_bne_dot, h, Text.head?_foldAscii_bne_dot]
  rw [admitsName, admitsName, hsize, hhidden, Extension.ofName_congr h]

namespace Classifier

/-- What a name tells is told by every name that differs from it in the case of ASCII letters. -/
theorem byName?_congr (r : Registry) {name name' : String}
    (h : Text.foldAscii name = Text.foldAscii name') : byName? r name = byName? r name' := by
  simp only [byName?, Extension.ofName_congr h, r.byName?_congr h]

/-! ### Files -/

/-- Two files of the same kind, size and beginning, whose names differ at most in the case of ASCII
letters. -/
structure SameButCase (fs fs' : FileSystem) (path path' : Path) (info info' : Info) : Prop where
  name : Text.foldAscii (baseName path) = Text.foldAscii (baseName path')
  kind : info.kind = info'.kind
  size : info.size = info'.size
  beginning : info.isFile = true → fs.beginning? path = fs'.beginning? path'

namespace SameButCase

variable {fs fs' : FileSystem} {path path' : Path} {info info' : Info}

theorem isFile_eq (h : SameButCase fs fs' path path' info info') : info.isFile = info'.isFile := by
  rw [Info.isFile, Info.isFile, h.kind]

/-- The same is seen of both files, if any of them is looked into. -/
theorem head?_eq (h : SameButCase fs fs' path path' info info') (c : Classifier) :
    c.head? fs path info = c.head? fs' path' info' := by
  rw [Classifier.head?_eq, Classifier.head?_eq, looksInto, looksInto, ← h.isFile_eq,
    byName?_congr c.registry h.name]
  cases hfile : info.isFile with
  | false => rfl
  | true => rw [h.beginning hfile]

theorem detect_eq (h : SameButCase fs fs' path path' info info') (c : Classifier) :
    c.detect fs path info = c.detect fs' path' info' := by
  simp only [detect, h.head?_eq c, byName?_congr c.registry h.name, Extension.ofName_congr h.name]

theorem shouldInclude_eq (h : SameButCase fs fs' path path' info info') (c : Classifier) :
    c.shouldInclude fs path info = c.shouldInclude fs' path' info' := by
  rw [shouldInclude, shouldInclude, h.detect_eq c, c.filters.admitsName_congr h.name h.size]

end SameButCase

/-- **Files that differ in the case of ASCII letters of their names are classified alike.**  Whatever
languages and policy there are, the extension index, names and globs, the MIME types and the
extensions of the policy tell the same of both names; so the same is found out about both files, and
both are admitted or none is. -/
theorem sameButCase_alike (c : Classifier) {fs fs' : FileSystem} {path path' : Path}
    {info info' : Info} (h : SameButCase fs fs' path path' info info') :
    let ext := Extension.ofName (baseName path)
    let ext' := Extension.ofName (baseName path')
    c.registry.byExtension? ext = c.registry.byExtension? ext' ∧
      c.registry.byName? (baseName path) = c.registry.byName? (baseName path') ∧
      MimeType.ofExtension? ext = MimeType.ofExtension? ext' ∧
      c.filters.admitsExtension ext = c.filters.admitsExtension ext' ∧
      c.filters.admitsName (baseName path) info = c.filters.admitsName (baseName path') info' ∧
      c.detect fs path info = c.detect fs' path' info' ∧
      c.shouldInclude fs path info = c.shouldInclude fs' path' info' := by
  have hext : Extension.ofName (baseName path) = Extension.ofName (baseName path') :=
    Extension.ofName_congr h.name
  dsimp only
  rw [hext]
  exact ⟨rfl, c.registry.byName?_congr h.name, rfl, rfl, c.filters.admitsName_congr h.name h.size,
    h.detect_eq c, h.shouldInclude_eq c⟩

/-- Two files in one directory, with the same contents. -/
def twins (name name' : String) (bytes : Bytes) : FileTree :=
  (oneFile name bytes).put ⟨[.root, .name name'], .file bytes, 0, [], []⟩

/-- A classifier that knows one language by its extension and another by a glob with a range, and
that admits some extensions only. -/
def ranging : Classifier :=
  (pythonic.addLanguage ⟨"Make", [], ["[M-R]ake?ile*"], [], []⟩).modifyFilters fun f =>
    (f.includeExtension "PY").includeExtension ".Mk"

/-- A name with a sigma at the end of a word, and one that only a glob with a range tells. -/
theorem sameButCase_alike_samples :
    let greek := (twins "ΟΔΟΣ.PY" "ΟΔΟΣ.py" [97]).fileSystem
    let making := (twins "MAKEFILE.mk" "Makefile.MK" [97]).fileSystem
    SameButCase greek greek ⟨"/ΟΔΟΣ.PY"⟩ ⟨"/ΟΔΟΣ.py"⟩ (.ofFile "ΟΔΟΣ.PY" 1) (.ofFile "ΟΔΟΣ.py" 1) ∧
      ranging.detect greek ⟨"/ΟΔΟΣ.PY"⟩ (.ofFile "ΟΔΟΣ.PY" 1) =
        ranging.detect greek ⟨"/ΟΔΟΣ.py"⟩ (.ofFile "ΟΔΟΣ.py" 1) ∧
      ranging.shouldInclude greek ⟨"/ΟΔΟΣ.PY"⟩ (.ofFile "ΟΔΟΣ.PY" 1) =
        ranging.shouldInclude greek ⟨"/ΟΔΟΣ.py"⟩ (.ofFile "ΟΔΟΣ.py" 1) ∧
      (ranging.detect making ⟨"/MAKEFILE.mk"⟩ (.ofFile "MAKEFILE.mk" 1)).found.map Prod.snd =
        some .pattern ∧
      ranging.detect making ⟨"/MAKEFILE.mk"⟩ (.ofFile "MAKEFILE.mk" 1) =
        ranging.detect making ⟨"/Makefile.MK"⟩ (.ofFile "Makefile.MK" 1) := by
  dsimp only
  have hgreek : SameButCase (twins "ΟΔΟΣ.PY" "ΟΔΟΣ.py" [97]).fileSystem
      (twins "ΟΔΟΣ.PY" "ΟΔΟΣ.py" [97]).fileSystem ⟨"/ΟΔΟΣ.PY"⟩ ⟨"/ΟΔΟΣ.py"⟩
      (.ofFile "ΟΔΟΣ.PY" 1) (.ofFile "ΟΔΟΣ.py" 1) :=
    ⟨by decide +kernel, rfl, rfl, fun _ => by decide +kernel⟩
  have hmaking : SameButCase (twins "MAKEFILE.mk" "Makefile.MK" [97]).fileSystem
      (twins "MAKEFILE.mk" "Makefile.MK" [97]).fileSystem ⟨"/MAKEFILE.mk"⟩ ⟨"/Makefile.MK"⟩
      (.ofFile "MAKEFILE.mk" 1) (.ofFile "Makefile.MK" 1) :=
    ⟨by decide +kernel, rfl, rfl, fun _ => by decide +kernel⟩
  obtain ⟨-, -, -, -, -, hdetect, hinclude⟩ := sameButCase_alike ranging hgreek
  obtain ⟨-, -, -, -, -, hglob, -⟩ := sameButCase_alike ranging hmaking
  exact ⟨hgreek, hdetect, hinclude, by decide +kernel, hglob⟩

end Classifier

end Forage

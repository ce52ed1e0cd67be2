/-
**The detectors keep out of each other's way.**

Two things are found out about a file: which language it is in, and whether it looks binary.  What
the name of the file tells comes before what its contents tell, so where the name tells a language
the contents cannot change it.  In the other direction the contents decide alone: whether the file
looks binary does not hang on any language.  They meet in one place, the first line of a script, which
counts only where the name tells nothing and the file does not look binary.

Main definitions:

* `FileSystem.beginning?`, `FileSystem.HeadOfContents` — the first bytes of a file, and what they
  have to do with its contents;
* `Classifier.NameTells` — the extension, the name or the MIME type tells a language.

Main results:

* `Classifier.detect_congr` — what detection depends on;
* `Classifier.binary_detect` — what looking binary depends on;
* `Classifier.found_shebang_iff` — when the first line tells the language;
* `Classifier.detectors_apart` — **what follows for two contents, two registries and two files**.
-/

import Forage.Classify.Classifier
import Forage.Disk
import Forage.FileTree

set_option relaxedAutoImplicit false
set_option autoImplicit false

namespace Forage

/-! ### The beginning of a file -/

/-- The beginning of a file, if it can be read. -/
def FileSystem.beginning? (fs : FileSystem) (path : Path) : Option Bytes :=
  (fs.head path Content.sniffLength).toOption

/-- The first bytes of a file are those of its contents, and they can be read if the contents can. -/
def FileSystem.HeadOfContents (fs : FileSystem) (path : Path) : Prop :=
  ∀ limit ≠ 0, fs.head path limit = (fs.read path).map (List.take limit)

theorem FileSystem.beginning?_of_read {fs : FileSystem} {path : Path}
    (h : fs.HeadOfContents path) {bytes : Bytes} (hread : fs.read path = .ok bytes) :
    fs.beginning? path = some (bytes.take Content.sniffLength) := by
  rw [beginning?, h _ (by decide), hread]
  rfl

theorem FileTree.headOfContents (t : FileTree) (path : Path) : t.fileSystem.HeadOfContents path := by
  intro limit _
  have hhead : t.fileSystem.head path limit = t.head path limit := rfl
  have hread : t.fileSystem.read path = t.read path := rfl
  rw [hhead, hread, head]
  cases t.read path <;> rfl

theorem Disk.headOfContents (d : Disk) (path : Path) : d.fileSystem.HeadOfContents path := by
  intro limit hlimit
  have hhead : d.fileSystem.head path limit = atPath path (d.head path limit) := rfl
  have hread : d.fileSystem.read path = atPath path (d.read path) := rfl
  have hdisk : d.head path limit = (d.read path).map (List.take limit) := by
    rw [head]
    split
    · next hdirectory => rw [if_neg hlimit, read, hdirectory]; rfl
    · cases d.read path <;> rfl
  rw [hhead, hread, hdisk]
  cases d.read path <;> rfl

namespace Classifier

/-! ### What a name tells -/

/-- The extension of a name, the name itself or the MIME type of its extension tells a language. -/
def NameTells (r : Registry) (name : String) : Prop :=
  (∃ l, r.byExtension? (Extension.ofName name) = some l) ∨ (∃ l, r.byName? name = some l) ∨
    ∃ mime l, MimeType.ofExtension? (Extension.ofName name) = some mime ∧ r.byMime? mime = some l

theorem isSome_byName?_iff {r : Registry} {name : String} :
    (byName? r name).isSome = true ↔ NameTells r name := by
  unfold byName? NameTells
  dsimp only
  split
  · next l hext => simp [hext]
  · next hext =>
      split
      · next l hname => simp [hname]
      · next hname =>
          split
          · next hmime => simp [hext, hname, hmime]
          · next mime hmime => simp [hext, hname, hmime, Option.isSome_iff_exists]

theorem byName?_eq_none_iff {r : Registry} {name : String} :
    byName? r name = none ↔ ¬ NameTells r name := by
  rw [← isSome_byName?_iff, Bool.not_eq_true, Option.isSome_eq_false_iff, Option.isNone_iff_eq_none]

/-- What a name tells is not told by the first line. -/
theorem ne_shebang_of_byName? {r : Registry} {name : String} {l : Language} {d : Detection}
    (h : byName? r name = some (l, d)) : d ≠ .shebang := by
  unfold byName? at h
  dsimp only at h
  split at h
  · cases h
    decide
  · split at h
    · cases h
      decide
    · split at h
      · cases h
      · obtain ⟨l', -, heq⟩ := Option.map_eq_some_iff.1 h
        cases heq
        decide

/-! ### What detection depends on -/

variable {c d : Classifier} {fs fs' : FileSystem} {path : Path} {info : Info}

theorem head?_eq (c : Classifier) (fs : FileSystem) (path : Path) (info : Info) :
    c.head? fs path info = if c.looksInto path info then fs.beginning? path else none := by
  rw [head?, FileSystem.beginning?]
  cases fs.head path Content.sniffLength <;> rfl

/-- **Detection depends on the registry, on whether files are looked into for binary content, and, for
a regular file, on its beginning.** -/
theorem detect_congr (hregistry : c.registry = d.registry)
    (hbinary : c.filters.binaryDetection = d.filters.binaryDetection)
    (hbeginning : info.isFile = true → fs.beginning? path = fs'.beginning? path) :
    c.detect fs path info = d.detect fs' path info := by
  have hhead : c.head? fs path info = d.head? fs' path info := by
    rw [head?_eq, head?_eq, looksInto, looksInto, hregistry, hbinary]
    cases hfile : info.isFile with
    | false => rfl
    | true => rw [hbeginning hfile]
  simp only [detect, hhead, hregistry, hbinary]

/-- **Whether a file looks binary is told by its beginning alone**, if it is a regular file and files
are looked into for that. -/
theorem binary_detect (c : Classifier) (fs : FileSystem) (path : Path) (info : Info) :
    (c.detect fs path info).binary =
      (c.filters.binaryDetection && info.isFile &&
        (fs.beginning? path).any Content.isBinary) := by
  have hbinary : (c.detect fs path info).binary =
      (c.filters.binaryDetection && (c.head? fs path info).any Content.isBinary) := rfl
  rw [hbinary, head?_eq, looksInto]
  cases c.filters.binaryDetection <;> cases info.isFile <;> simp

theorem mime_detect (c : Classifier) (fs : FileSystem) (path : Path) (info : Info) :
    (c.detect fs path info).mime = MimeType.ofExtension? (Extension.ofName (baseName path)) := by
  simp only [detect]

/-- What the name tells is found, whatever the contents are. -/
theorem found_of_byName? {found : Language × Detection}
    (h : byName? c.registry (baseName path) = some found) (fs : FileSystem) :
    (c.detect fs path info).found = some found := by
  simp only [detect, h]

/-- **When the first line tells the language**: the name tells none, and the file is a regular one
that can be read, does not look binary and names in its first line an interpreter of the language. -/
theorem found_shebang_iff {l : Language} :
    (c.detect fs path info).found = some (l, .shebang) ↔
      ¬ NameTells c.registry (baseName path) ∧ info.isFile = true ∧
        (c.detect fs path info).binary = false ∧ ∃ bytes directive,
          fs.beginning? path = some bytes ∧ Content.directive? bytes = some directive ∧
            c.registry.byDirective? directive = some l := by
  cases hname : byName? c.registry (baseName path) with
  | some found =>
      have htells : NameTells c.registry (baseName path) := isSome_byName?_iff.1 (by simp [hname])
      rw [found_of_byName? hname, Option.some_inj]
      constructor
      · rintro rfl
        exact absurd rfl (ne_shebang_of_byName? hname)
      · exact fun h => absurd htells h.1
  | none =>
      have hlooks : c.looksInto path info = info.isFile := by simp [looksInto, hname]
      have hfound : (c.detect fs path info).found =
          byHead? c.registry (if info.isFile then fs.beginning? path else none)
            (c.detect fs path info).binary := by
        rw [← hlooks, ← head?_eq]
        simp only [detect, hname]
      rw [hfound, and_iff_right (byName?_eq_none_iff.1 hname), byHead?]
      cases info.isFile with
      | false => simp
      | true =>
          cases hbytes : fs.beginning? path with
          | none => simp
          | some bytes =>
              cases hdirective : Content.directive? bytes with
              | none => simp [hdirective]
              | some directive =>
                  cases (c.detect fs path info).binary <;> simp [hdirective]

/-! ### Two contents, two registries, two files -/

/-- **The detectors keep out of each other's way.**  If the extension, the name or the MIME type tells
a language, the language, what it was found by, how sure it is and the MIME type are the same whatever
the contents are and whether or not they can be read.  Whether a file looks binary and its MIME type
are the same for every registry.  Contents that begin with the same 512 bytes are not told apart, and
contents do not matter for what is no regular file.  The first line tells nothing of a file that looks
binary or cannot be read, and nothing where the name tells a language. -/
theorem detectors_apart (c : Classifier) (path : Path) (info : Info) :
    (NameTells c.registry (baseName path) → ∃ l d, d ≠ Detection.shebang ∧ ∀ fs,
      (c.detect fs path info).found = some (l, d) ∧
        (c.detect fs path info).confidence = d.confidence ∧
        (c.detect fs path info).mime = MimeType.ofExtension? (Extension.ofName (baseName path))) ∧
    (∀ registry fs,
      let other := { c with registry }
      (other.detect fs path info).binary = (c.detect fs path info).binary ∧
        (other.detect fs path info).text = (c.detect fs path info).text ∧
        (other.detect fs path info).mime = (c.detect fs path info).mime) ∧
    (∀ (fs fs' : FileSystem) (x y : Bytes), fs.HeadOfContents path → fs'.HeadOfContents path →
      fs.read path = .ok x → fs'.read path = .ok y → x.take 512 = y.take 512 →
        c.detect fs path info = c.detect fs' path info) ∧
    (info.isFile = false → ∀ fs fs', c.detect fs path info = c.detect fs' path info) ∧
    (∀ (fs : FileSystem) (l : Language),
      ((c.detect fs path info).binary = true ∨
          ∃ fault, fs.head path Content.sniffLength = .error fault) →
        (c.detect fs path info).found ≠ some (l, .shebang)) ∧
    (∀ (fs : FileSystem) (l : Language), (c.detect fs path info).found = some (l, .shebang) →
      ¬ NameTells c.registry (baseName path)) := by
  refine ⟨fun htells => ?_, fun registry fs => ?_, fun fs fs' x y hfs hfs' hx hy htake => ?_,
    fun hfile fs fs' => ?_, fun fs l hunread hfound => ?_, fun fs l hfound => ?_⟩
  · obtain ⟨⟨l, d⟩, hname⟩ := Option.isSome_iff_exists.1 (isSome_byName?_iff.2 htells)
    refine ⟨l, d, ne_shebang_of_byName? hname, fun fs => ?_⟩
    have hfound : (c.detect fs path info).found = some (l, d) := found_of_byName? hname fs
    refine ⟨hfound, ?_, mime_detect c fs path info⟩
    rw [FileType.confidence, hfound]
  · have hbinary : (Classifier.detect fs path info { c with registry }).binary =
        (c.detect fs path info).binary := by
      rw [binary_detect, binary_detect]
    exact ⟨hbinary, congrArg Bool.not hbinary, by rw [mime_detect, mime_detect]⟩
  · refine detect_congr rfl rfl fun _ => ?_
    rw [FileSystem.beginning?_of_read hfs hx, FileSystem.beginning?_of_read hfs' hy]
    exact congrArg some htake
  · exact detect_congr rfl rfl fun h => absurd h (by simp [hfile])
  · obtain ⟨-, -, hbinary, bytes, -, hbytes, -⟩ := found_shebang_iff.1 hfound
    rcases hunread with hlooks | ⟨fault, hfault⟩
    · simp [hlooks] at hbinary
    · simp [FileSystem.beginning?, hfault, Except.toOption] at hbytes
  · exact (found_shebang_iff.1 hfound).1

def oneFile (name : String) (bytes : Bytes) : FileTree :=
  FileTree.empty.put ⟨[.root, .name name], .file bytes, 0, [], []⟩

/-- A classifier that knows one language, by an extension and an interpreter. -/
def pythonic : Classifier :=
  ⟨Registry.empty.add ⟨"Python", [".py"], [], [], ["python"]⟩, .initial⟩

/-- A name that tells a language, two contents that differ after 512 bytes, a directory, a file that
looks binary, and a script that nothing but its first line tells. -/
theorem detectors_apart_samples :
    (∃ l, ∀ fs, (pythonic.detect fs ⟨"/a.py"⟩ (.ofFile "a.py" 0)).found = some (l, .extension)) ∧
      pythonic.detect (oneFile "run" (List.replicate 512 97 ++ [0])).fileSystem ⟨"/run"⟩
          (.ofFile "run" 0) =
        pythonic.detect (oneFile "run" (List.replicate 512 97 ++ [98])).fileSystem ⟨"/run"⟩
          (.ofFile "run" 0) ∧
      (∀ fs fs', pythonic.detect fs ⟨"/run"⟩ (.ofDirectory "run") =
        pythonic.detect fs' ⟨"/run"⟩ (.ofDirectory "run")) ∧
      (∀ l, (pythonic.detect (oneFile "run" [0]).fileSystem ⟨"/run"⟩ (.ofFile "run" 0)).found ≠
        some (l, .shebang)) ∧
      (∃ l, (pythonic.detect (oneFile "run" "#!/usr/bin/python".toUTF8.toList).fileSystem ⟨"/run"⟩
          (.ofFile "run" 0)).found = some (l, .shebang)) ∧
      ¬ NameTells pythonic.registry (baseName ⟨"/run"⟩) := by
  have htells : NameTells pythonic.registry (baseName ⟨"/a.py"⟩) :=
    isSome_byName?_iff.1 (by decide +kernel)
  obtain ⟨hname, -⟩ := detectors_apart pythonic ⟨"/a.py"⟩ (.ofFile "a.py" 0)
  obtain ⟨-, -, hcontents, -, hunread, hscript⟩ := detectors_apart pythonic ⟨"/run"⟩ (.ofFile "run" 0)
  obtain ⟨-, -, -, hdirectory, -⟩ := detectors_apart pythonic ⟨"/run"⟩ (.ofDirectory "run")
  have hextension : ((pythonic.detect FileTree.empty.fileSystem ⟨"/a.py"⟩
      (.ofFile "a.py" 0)).found.map Prod.snd) = some .extension := by decide +kernel
  have hshebang : ((pythonic.detect (oneFile "run" "#!/usr/bin/python".toUTF8.toList).fileSystem
      ⟨"/run"⟩ (.ofFile "run" 0)).found.map Prod.snd) = some .shebang := by decide +kernel
  have hread (bytes : Bytes) : (oneFile "run" bytes).fileSystem.read ⟨"/run"⟩ = .ok bytes := rfl
  obtain ⟨⟨l, d⟩, hfound, rfl⟩ := Option.map_eq_some_iff.1 hshebang
  refine ⟨?_, ?_, hdirectory rfl, fun l => hunread _ l (Or.inl ?_), ⟨l, hfound⟩, hscript _ l hfound⟩
  · obtain ⟨l, d, -, htold⟩ := hname htells
    rw [(htold _).1] at hextension
    obtain rfl : d = .extension := by simpa using hextension
    exact ⟨l, fun fs => (htold fs).1⟩
  · refine hcontents _ _ _ _ (FileTree.headOfContents _ _) (FileTree.headOfContents _ _)
      (hread _) (hread _) ?_
    rw [List.take_left' List.length_replicate, List.take_left' List.length_replicate]
  · decide +kernel

end Classifier

end Forage

/-
**The files of the ignore chain.**

Two files are looked for in a directory and in each directory above it, and one more for the whole
user.  Which of them are loaded, and with which rules, hangs on the few calls that loading makes,
and on nothing else.

The directories on the way up are all different, and so no file of theirs is loaded twice.  The file
for the whole user is found on its own, and may be one of theirs: then it is loaded in both places.

Main definitions:

* `RuleFile.text?`, `Engine.texts` — the texts that the rules come from;
* `Call.Agrees` — two filesystems answer a call alike;
* `Engine.loadedChain`, `Engine.loadedGlobal` — the files that are loaded.

Main results:

* `Engine.chain_eq_map` — the rules that are loaded are those of the texts;
* `Engine.load_of_agrees` — **loading hangs on nothing but the calls that it makes**;
* `Engine.noneTwice_chainPaths` — the places on the way up are all different;
* `Engine.sources_of_load` — **no file is loaded twice, unless the global file is one of the
  chain**.
-/

import Forage.FileTree
import Forage.Ignore.Engine
import Forage.Proofs.Path.Ancestors

set_option relaxedAutoImplicit false
set_option autoImplicit false

namespace Forage

/-! ### The texts of the rules -/

/-- The text of a rule file, if its path leads to a regular file that can be read. -/
def RuleFile.text? (fs : FileSystem) (path : Path) : Option (Path × String) :=
  if fs.isRegularFile path then
    match fs.read path with
    | .ok bytes => some (path, Text.ofBytesLossy bytes)
    | .error _ => none
  else none

/-- The texts that are loaded for a directory, each with the path of its file, in order. -/
def Engine.texts (fs : FileSystem) (env : Environment) (choice : GlobalFile.Choice) (start : Path) :
    List (Path × String) :=
  (chainPaths start).filterMap (RuleFile.text? fs) ++
    ((GlobalFile.first? fs (GlobalFile.places env choice)).bind (RuleFile.text? fs)).toList

theorem RuleFile.load?_eq_map (fs : FileSystem) (path : Path) :
    load? fs path = (text? fs path).map fun file => parse file.1.text file.2 := by
  unfold load? text?
  split
  · cases fs.read path <;> rfl
  · rfl

/-- The rules that are loaded for a directory come from the texts that are loaded for it. -/
theorem Engine.chain_eq_map (fs : FileSystem) (env : Environment) (choice : GlobalFile.Choice)
    (start : Path) :
    chain fs env choice start =
      (texts fs env choice start).map fun file => RuleFile.parse file.1.text file.2 := by
  have hload : RuleFile.load? fs = fun path =>
      (RuleFile.text? fs path).map fun file => RuleFile.parse file.1.text file.2 :=
    funext (RuleFile.load?_eq_map fs)
  rw [chain, texts, hload, List.map_append, List.map_filterMap, ← Option.toList_map]
  congr 2
  cases GlobalFile.first? fs (GlobalFile.places env choice) <;> rfl

/-! ### What loading hangs on -/

/-- Two filesystems answer a call alike. -/
def Call.Agrees (fs fs' : FileSystem) (c : Call) : Prop :=
  match c.kind with
  | .stat => fs'.stat c.path = fs.stat c.path
  | .follow => fs'.follow c.path = fs.follow c.path
  | .list => fs'.list c.path = fs.list c.path
  | .read => fs'.read c.path = fs.read c.path

section Agrees

variable {fs fs' : FileSystem}

theorem FileSystem.isRegularFile_of_agrees {path : Path}
    (h : Call.Agrees fs fs' ⟨.follow, path⟩) : fs'.isRegularFile path = fs.isRegularFile path := by
  have h : fs'.follow path = fs.follow path := h
  rw [isRegularFile, isRegularFile, h]

theorem RuleFile.load?_of_agrees {path : Path} (h : ∀ c ∈ loadCalls fs path, c.Agrees fs fs') :
    load? fs' path = load? fs path := by
  have hfollow : Call.Agrees fs fs' ⟨.follow, path⟩ := by
    refine h _ ?_
    unfold loadCalls
    split <;> simp
  unfold load?
  rw [FileSystem.isRegularFile_of_agrees hfollow]
  split
  · next hregular =>
      have hread : fs'.read path = fs.read path :=
        h ⟨.read, path⟩ (by rw [loadCalls, if_pos hregular]; simp)
      rw [hread]
  · rfl

theorem GlobalFile.first?_of_agrees {places : List Path}
    (h : ∀ path ∈ looked fs places, Call.Agrees fs fs' ⟨.follow, path⟩) :
    first? fs' places = first? fs places := by
  induction places with
  | nil => rfl
  | cons p places ih =>
      have hp : fs'.isRegularFile p = fs.isRegularFile p := by
        refine FileSystem.isRegularFile_of_agrees (h p ?_)
        unfold looked
        split <;> simp
      cases hregular : fs.isRegularFile p with
      | true => simp [first?, hp, hregular]
      | false =>
          rw [looked, hregular] at h
          have hmore := ih fun path hpath => h path (by simpa using Or.inr hpath)
          simpa [first?, hp, hregular] using hmore

namespace Engine

/-- **Loading hangs on nothing but the calls that it makes.**  Whatever else differs between two
filesystems, other paths, their failures and contents, and the contents of what is no regular file,
changes nothing. -/
theorem load_of_agrees {e : Engine} {env : Environment} {start : Path}
    (h : ∀ c ∈ e.loadCalls fs env start, c.Agrees fs fs') :
    e.load fs' env start = e.load fs env start := by
  have hstart : fs'.follow start = fs.follow start :=
    h ⟨.follow, start⟩ (by simp [loadCalls])
  rw [load, load, hstart]
  cases hfollow : fs.follow start with
  | error fault => rfl
  | ok info =>
      simp only [loadCalls, hfollow, List.forall_mem_cons, List.forall_mem_append] at h
      obtain ⟨-, ⟨hchain, hlooked⟩, hglobal⟩ := h
      have hfirst : GlobalFile.first? fs' (GlobalFile.places env e.globalFile) =
          GlobalFile.first? fs (GlobalFile.places env e.globalFile) :=
        GlobalFile.first?_of_agrees fun path hpath => hlooked _ (List.mem_map_of_mem hpath)
      have hfiles : (chainPaths start).filterMap (RuleFile.load? fs') =
          (chainPaths start).filterMap (RuleFile.load? fs) :=
        List.filterMap_congr fun path hpath =>
          RuleFile.load?_of_agrees fun c hc => hchain c (List.mem_flatMap.2 ⟨path, hpath, hc⟩)
      have hlast : (GlobalFile.first? fs (GlobalFile.places env e.globalFile)).bind
            (RuleFile.load? fs') =
          (GlobalFile.first? fs (GlobalFile.places env e.globalFile)).bind (RuleFile.load? fs) := by
        cases hg : GlobalFile.first? fs (GlobalFile.places env e.globalFile) with
        | none => rfl
        | some g =>
            rw [hg] at hglobal
            exact RuleFile.load?_of_agrees (by simpa using hglobal)
      simp only [chain, hfirst, hfiles, hlast]

end Engine

end Agrees

/-! ### Files that are loaded -/

/-- No path comes twice, however it is spelled. -/
def Path.NoneTwice (paths : List Path) : Prop := paths.Pairwise fun p q => p.same q = false

theorem Path.NoneTwice.nodup_texts {paths : List Path} (h : NoneTwice paths) :
    (paths.map Path.text).Nodup := by
  refine List.pairwise_map.2 (h.imp ?_)
  rintro ⟨s⟩ ⟨t⟩ hdiffer rfl
  simp [same] at hdiffer

theorem Path.same_of_same {p q r : Path} (h : p.same r = true) (h' : q.same r = true) :
    p.same q = true := by
  simp only [same, beq_iff_eq] at h h' ⊢
  rw [h, h']

namespace Engine

/-- The ignore files of a directory and of those above it that are loaded, in order. -/
def loadedChain (fs : FileSystem) (start : Path) : List Path :=
  (chainPaths start).filter fun path => (RuleFile.load? fs path).isSome

/-- The global ignore file that is loaded, if there is one. -/
def loadedGlobal (fs : FileSystem) (env : Environment) (choice : GlobalFile.Choice) : Option Path :=
  (GlobalFile.first? fs (GlobalFile.places env choice)).filter fun path =>
    (RuleFile.load? fs path).isSome

theorem source_of_load? {fs : FileSystem} {path : Path} {file : RuleFile}
    (h : RuleFile.load? fs path = some file) : file.source = path.text := by
  rw [RuleFile.load?_eq_map, Option.map_eq_some_iff] at h
  obtain ⟨⟨path', text⟩, htext, rfl⟩ := h
  unfold RuleFile.text? at htext
  split at htext
  · split at htext
    · cases htext
      rfl
    · cases htext
  · cases htext

theorem map_source_filterMap (fs : FileSystem) (paths : List Path) :
    (paths.filterMap (RuleFile.load? fs)).map RuleFile.source =
      (paths.filter fun path => (RuleFile.load? fs path).isSome).map Path.text := by
  induction paths with
  | nil => rfl
  | cons path paths ih =>
      cases hload : RuleFile.load? fs path with
      | none => simp [hload, ih]
      | some file => simp [hload, ih, source_of_load? hload]

/-- The places on the way up are all different. -/
theorem noneTwice_chainPaths (start : Path) : Path.NoneTwice (chainPaths start) := by
  have hcomponents {dir : Path} {name : String} (hname : name ∈ fileNames) :
      (dir.join name).components = dir.components ++ [.name name] := by
    have hsimple : ∀ n ∈ [name], Path.IsSimple n := by
      have hall : ∀ n ∈ fileNames, Path.IsSimple n := by decide
      simpa using hall name hname
    exact Path.components_below hsimple dir
  rw [Path.NoneTwice, chainPaths, List.pairwise_flatMap]
  constructor
  · -- two names in one directory
    intro dir _
    rw [List.pairwise_map]
    have hnames : fileNames.Nodup := by decide
    refine hnames.imp_of_mem fun {a b} ha hb hab => ?_
    simp [Path.same, hcomponents ha, hcomponents hb, hab]
  · -- two directories
    refine (Path.climbs_ancestors start).pairwise_length.imp ?_
    intro dir above hshorter path hpath path' hpath'
    obtain ⟨name, hname, rfl⟩ := List.mem_map.1 hpath
    obtain ⟨name', hname', rfl⟩ := List.mem_map.1 hpath'
    simp only [Path.same, hcomponents hname, hcomponents hname', beq_eq_false_iff_ne]
    intro heq
    have := congrArg List.length heq
    simp only [List.length_append, List.length_singleton] at this
    omega

/-- Among paths none of which comes twice, at most one is the same as a given one. -/
theorem countP_same_le_one {paths : List Path} (h : Path.NoneTwice paths) (path : Path) :
    paths.countP (·.same path) ≤ 1 := by
  induction paths with
  | nil => simp
  | cons p paths ih =>
      obtain ⟨hp, hpaths⟩ := List.pairwise_cons.1 h
      rw [List.countP_cons]
      cases hsame : p.same path with
      | false => simpa using ih hpaths
      | true =>
          have hnone : paths.countP (·.same path) = 0 := by
            rw [List.countP_eq_zero]
            intro q hq hqsame
            have := Path.same_of_same hsame hqsame
            rw [hp q hq] at this
            cases this
          simp [hnone]

theorem noneTwice_append_toList {paths : List Path} (h : Path.NoneTwice paths)
    (last : Option Path) : Path.NoneTwice (paths ++ last.toList) ↔
      ∀ g ∈ last, ∀ p ∈ paths, p.same g = false := by
  have hiff : Path.NoneTwice (paths ++ last.toList) ↔
      ∀ p ∈ paths, ∀ g ∈ last.toList, p.same g = false := by
    have hlast : last.toList.Pairwise fun p q => p.same q = false := by cases last <;> simp
    rw [Path.NoneTwice, List.pairwise_append]
    exact ⟨fun hall => hall.2.2, fun hall => ⟨h, hlast, hall⟩⟩
  rw [hiff]
  cases last <;> simp

/-- What is loaded for a directory, file by file. -/
theorem sources_eq_map {fs : FileSystem} {env : Environment} {start : Path} {e e' : Engine}
    (h : e.load fs env start = .ok e') :
    e'.sources =
      (loadedChain fs start ++ (loadedGlobal fs env e.globalFile).toList).map Path.text := by
  have hlast : ((GlobalFile.first? fs (GlobalFile.places env e.globalFile)).bind
      (RuleFile.load? fs)).toList =
        (loadedGlobal fs env e.globalFile).toList.filterMap (RuleFile.load? fs) := by
    unfold loadedGlobal
    cases GlobalFile.first? fs (GlobalFile.places env e.globalFile) with
    | none => rfl
    | some g => cases hload : RuleFile.load? fs g <;> simp [hload, Option.filter]
  have hkept : ((loadedGlobal fs env e.globalFile).toList.filter fun path =>
      (RuleFile.load? fs path).isSome) = (loadedGlobal fs env e.globalFile).toList := by
    rw [List.filter_eq_self]
    intro g hg
    exact (Option.filter_eq_some_iff.1 (Option.mem_toList.1 hg)).2
  unfold load at h
  split at h
  · cases h
  · cases h
    rw [sources, withFiles, Engine.chain, List.map_append, map_source_filterMap, hlast,
      map_source_filterMap, hkept, List.map_append]
    rfl

/-- **No ignore file is loaded twice, unless the global file is one of the chain.**  What is loaded
is a chain of files, none of which comes twice, and behind it the global file.  So no path is listed
twice exactly if the global file is none of the chain; otherwise it alone is listed twice, once in
its place in the chain and once at the end. -/
theorem sources_of_load {fs : FileSystem} {env : Environment} {start : Path} {e e' : Engine}
    (h : e.load fs env start = .ok e') :
    let chain := loadedChain fs start
    let last := loadedGlobal fs env e.globalFile
    e'.sources = (chain ++ last.toList).map Path.text ∧
      Path.NoneTwice chain ∧
      (Path.NoneTwice (chain ++ last.toList) ↔ ∀ g ∈ last, ∀ p ∈ chain, p.same g = false) ∧
      ((∀ g ∈ last, ∀ p ∈ chain, p.same g = false) → e'.sources.Nodup) ∧
      ∀ path, 1 < (chain ++ last.toList).countP (·.same path) →
        (∃ g ∈ last, g.same path = true) ∧ chain.countP (·.same path) = 1 := by
  intro chain last
  have hchain : Path.NoneTwice chain := (noneTwice_chainPaths start).filter _
  have hsources : e'.sources = (chain ++ last.toList).map Path.text := sources_eq_map h
  refine ⟨hsources, hchain, noneTwice_append_toList hchain last, fun hnone => ?_, ?_⟩
  · rw [hsources]
    exact ((noneTwice_append_toList hchain last).2 hnone).nodup_texts
  · intro path htwice
    have hone := countP_same_le_one hchain path
    rw [List.countP_append] at htwice
    -- the second occurrence can only be the last file
    have hlast : 0 < last.toList.countP (·.same path) := by omega
    obtain ⟨g, hg, hsame⟩ := List.countP_pos_iff.1 hlast
    have hlength : last.toList.length ≤ 1 := Option.length_toList_le
    have hle := List.countP_le_length (p := (·.same path)) (l := last.toList)
    exact ⟨⟨g, Option.mem_toList.1 hg, hsame⟩, by omega⟩

/-- A home directory with an ignore file. -/
def homeTree : FileTree :=
  FileTree.empty.put
    ⟨[.root, .name "home", .name "u", .name ".gitignore"], .file [], 0, [], []⟩

/-- The surroundings of the user whose home that is. -/
def homeEnvironment : Environment := ⟨some ⟨"/home/u"⟩, none⟩

/-- The ignore file of a home directory is loaded there as an ignore file of the directory and again
as the global file; from a directory elsewhere it is loaded once. -/
theorem sources_of_load_home :
    (∃ e', (empty .discover).load homeTree.fileSystem homeEnvironment ⟨"/home/u"⟩ = .ok e' ∧
      e'.sources = ["/home/u/.gitignore", "/home/u/.gitignore"]) ∧
    ∃ e', (empty .discover).load homeTree.fileSystem homeEnvironment ⟨"/home"⟩ = .ok e' ∧
      e'.sources = ["/home/u/.gitignore"] ∧ e'.sources.Nodup := by
  have hhome : (empty .discover).load homeTree.fileSystem homeEnvironment ⟨"/home/u"⟩ =
      .ok ((empty .discover).withFiles
        (chain homeTree.fileSystem homeEnvironment .discover ⟨"/home/u"⟩)) := rfl
  have habove : (empty .discover).load homeTree.fileSystem homeEnvironment ⟨"/home"⟩ =
      .ok ((empty .discover).withFiles
        (chain homeTree.fileSystem homeEnvironment .discover ⟨"/home"⟩)) := rfl
  refine ⟨⟨_, hhome, ?_⟩, ⟨_, habove, ?_, (sources_of_load habove).2.2.2.1 ?_⟩⟩
  · rw [(sources_of_load hhome).1]
    decide +kernel
  · rw [(sources_of_load habove).1]
    decide +kernel
  · decide +kernel

/-- So a file may be loaded twice. -/
theorem not_forall_nodup_sources : ¬ ∀ (fs : FileSystem) (env : Environment) (start : Path)
    (e e' : Engine), e.load fs env start = .ok e' → e'.sources.Nodup := by
  intro h
  have hload : (empty .discover).load homeTree.fileSystem homeEnvironment ⟨"/home/u"⟩ =
      .ok ((empty .discover).withFiles
        (chain homeTree.fileSystem homeEnvironment .discover ⟨"/home/u"⟩)) := rfl
  have hnodup := h _ _ _ _ _ hload
  rw [sources_eq_map hload] at hnodup
  revert hnodup
  decide +kernel

end Engine

end Forage

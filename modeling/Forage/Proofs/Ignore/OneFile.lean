/-
**Many files of rules as one.**

A rule decides by its sign and by what it speaks of, and not by where it was written.  So files of
rules that are tried one after another decide as one file that holds the lines of all, in the same
order.  That file may leave out every line that gives no rule.

Main definitions:

* `Rule.bare` — a rule without the place where it was written;
* `RuleFile.joinLines` — texts one after another, each on lines of its own;
* `RuleFile.cleaned` — a text without the lines that give no rule;
* `Engine.holding` — an engine with some files of rules;
* `Engine.answers` — what an engine answers to questions, one after another.

Main results:

* `RuleFile.map_bare_parse_joinLines` — the rules of texts that are put together;
* `Engine.answers_eq_of_bare` — **engines answer alike if their rules differ at most in where they
  were written**;
* `Engine.ignores_of_last` — the last rule that speaks of a path decides;
* `Engine.load_as_one_file` — **the ignore files of a directory and above decide as one file**.
-/

import Forage.Proofs.Ignore.Chain
import Forage.Proofs.Walk.Setup

set_option relaxedAutoImplicit false
set_option autoImplicit false

namespace Forage

/-! ### Rules without their place -/

namespace Rule

/-- A rule without the place where it was written. -/
def bare (r : Rule) : Rule := { r with source := "", line := 0 }

theorem coversFrom_bare (r : Rule) (isDir first : Bool) (segments : List (List Char)) :
    r.bare.coversFrom isDir first segments = r.coversFrom isDir first segments := by
  induction segments generalizing first with
  | nil => rfl
  | cons s more ih =>
      cases more with
      | nil => rfl
      | cons t more =>
          have hne : t :: more ≠ [] := List.cons_ne_nil t more
          rw [coversFrom.eq_3 r.bare isDir first s _ hne, coversFrom.eq_3 r isDir first s _ hne, ih]
          rfl

/-- What a rule speaks of does not hang on where it was written. -/
theorem covers_bare (r : Rule) (path : String) (isDir : Bool) :
    r.bare.covers path isDir = r.covers path isDir := by
  have hfloating : r.bare.coversFloating path.toList isDir =
      r.coversFloating path.toList isDir := by
    rw [coversFloating, coversFloating, coversFrom_bare]
    rfl
  rw [covers, covers, hfloating]
  rfl

/-- Where a pattern was written shows only in the place of its rule. -/
theorem map_bare_parse (pattern source : String) (line : Nat) :
    (parse pattern source line).map bare = parse pattern "" 0 :=
  map_placed_parse pattern source "" line 0

end Rule

namespace RuleFile

theorem map_bare_ruleOfLine? (source : String) (line : Nat) (text : List Char) :
    (ruleOfLine? source line text).map Rule.bare = ruleOfLine? "" 0 text := by
  unfold ruleOfLine?
  split
  · rfl
  · rfl
  · rw [← Rule.map_bare_parse _ source line]
    cases Rule.parse (String.ofList (Text.trimChars text)) source line <;> rfl

/-- The rules of some lines are those of each line, wherever the lines stand. -/
theorem map_bare_rulesFrom (source : String) (line : Nat) (lines : List (List Char)) :
    (rulesFrom source line lines).map Rule.bare = lines.filterMap (ruleOfLine? "" 0) := by
  induction lines generalizing line with
  | nil => rfl
  | cons text lines ih =>
      rw [rulesFrom, List.map_append, ih, ← Option.toList_map, map_bare_ruleOfLine?]
      cases h : ruleOfLine? "" 0 text with
      | none => simp [h]
      | some rule => simp [h]

theorem map_bare_parse (source content : String) :
    (parse source content).rules.map Rule.bare =
      (Text.splitOn '\n' content.toList).filterMap (ruleOfLine? "" 0) :=
  map_bare_rulesFrom source 1 _

/-- An empty line gives no rule. -/
theorem filterMap_ruleOfLine?_splitOn_nil :
    (Text.splitOn '\n' []).filterMap (ruleOfLine? "" 0) = [] := by
  decide

/-- Texts one after another, with a line feed between each two. -/
def joinLines (texts : List String) : String :=
  String.ofList (Text.joinWith '\n' (texts.map String.toList))

/-- The rules of texts that are put together are those of each text. -/
theorem map_bare_parse_joinLines (source : String) (texts : List String) :
    (parse source (joinLines texts)).rules.map Rule.bare =
      texts.flatMap fun text =>
        (Text.splitOn '\n' text.toList).filterMap (ruleOfLine? "" 0) := by
  rw [map_bare_parse, joinLines, String.toList_ofList]
  by_cases hnil : texts = []
  · subst hnil
    exact filterMap_ruleOfLine?_splitOn_nil
  · rw [Text.splitOn_joinWith_eq_flatMap (by simpa using hnil), List.flatMap_map,
      List.filterMap_flatMap]

/-- A text without the lines that give no rule: blank ones, comments and those that are refused. -/
def cleaned (text : String) : String :=
  String.ofList (Text.joinWith '\n'
    ((Text.splitOn '\n' text.toList).filter fun line => (ruleOfLine? "" 0 line).isSome))

/-- Lines that give no rule may be left out. -/
theorem filterMap_ruleOfLine?_cleaned (text : String) :
    (Text.splitOn '\n' (cleaned text).toList).filterMap (ruleOfLine? "" 0) =
      (Text.splitOn '\n' text.toList).filterMap (ruleOfLine? "" 0) := by
  have hkept (lines : List (List Char)) :
      (lines.filter fun line => (ruleOfLine? "" 0 line).isSome).filterMap (ruleOfLine? "" 0) =
        lines.filterMap (ruleOfLine? "" 0) := by
    induction lines with
    | nil => rfl
    | cons line lines ih => cases h : ruleOfLine? "" 0 line <;> simp [h, ih]
  rw [← hkept (Text.splitOn '\n' text.toList), cleaned, String.toList_ofList]
  by_cases hnil : (Text.splitOn '\n' text.toList).filter
      (fun line => (ruleOfLine? "" 0 line).isSome) = []
  · rw [hnil]
    exact filterMap_ruleOfLine?_splitOn_nil
  · rw [Text.splitOn_joinWith hnil fun line hline =>
      Text.not_mem_of_mem_splitOn (List.mem_filter.1 hline).1]

end RuleFile

/-! ### Questions -/

namespace Engine

/-- An engine that holds some files of rules. -/
def holding (files : List RuleFile) : Engine := (empty .disabled).withFiles files

/-- What an engine answers to questions, one after another. -/
def answers (e : Engine) (questions : List (String × Bool)) : List EngineAnswer :=
  (e.run (questions.map fun q => .query q.1 q.2)).1

theorem lastMatch_map_bare (rules : List Rule) (path : String) (isDir : Bool) :
    lastMatch (rules.map Rule.bare) path isDir = lastMatch rules path isDir := by
  simp only [lastMatch, List.foldl_map, Rule.covers_bare]
  rfl

/-- A question changes neither the rules nor the switch, and leaves a coherent cache coherent. -/
theorem Coherent.shouldIgnore {e : Engine} (h : e.Coherent) (path : String) (isDir : Bool) :
    (e.shouldIgnore path isDir).2.Coherent ∧ (e.shouldIgnore path isDir).2.files = e.files ∧
      (e.shouldIgnore path isDir).2.enabled = e.enabled := by
  unfold Engine.shouldIgnore
  split
  · next henabled =>
      split
      · exact ⟨h, rfl, rfl⟩
      · exact ⟨h.remember henabled path isDir, files_remember .., enabled_remember ..⟩
  · exact ⟨h, rfl, rfl⟩

/-- An engine with a coherent cache answers each question by its rules. -/
theorem answers_of_coherent {e : Engine} (h : e.Coherent) (questions : List (String × Bool)) :
    e.answers questions = questions.map fun q => .decision (e.ignores q.1 q.2) := by
  induction questions generalizing e with
  | nil => rfl
  | cons q questions ih =>
      obtain ⟨hcoherent, hfiles, henabled⟩ := h.shouldIgnore q.1 q.2
      have hrest := ih hcoherent
      simp only [ignores, hfiles, henabled] at hrest
      simp only [answers, List.map_cons, run, operate] at hrest ⊢
      rw [hrest, shouldIgnore_fst h]
      rfl

theorem coherent_withFiles (e : Engine) (files : List RuleFile) : (e.withFiles files).Coherent :=
  coherent_of_invalidate rfl

theorem coherent_holding (files : List RuleFile) : (holding files).Coherent :=
  coherent_withFiles _ files

/-- **Engines answer alike if their rules differ at most in where they were written.** -/
theorem answers_eq_of_bare {e e' : Engine} (h : e.Coherent) (h' : e'.Coherent)
    (henabled : e.enabled = e'.enabled)
    (hrules : (rulesOf e.files).map Rule.bare = (rulesOf e'.files).map Rule.bare)
    (questions : List (String × Bool)) : e.answers questions = e'.answers questions := by
  have hignores (path : String) (isDir : Bool) : e.ignores path isDir = e'.ignores path isDir := by
    rw [ignores, ignores, henabled, ← lastMatch_map_bare, hrules, lastMatch_map_bare]
  simp only [answers_of_coherent h, answers_of_coherent h', hignores]

/-- Rules that do not speak of a path do not matter where they come last. -/
theorem lastMatch_append_of_silent {rules after : List Rule} {path : String} {isDir : Bool}
    (h : ∀ rule ∈ after, rule.covers path isDir = false) :
    lastMatch (rules ++ after) path isDir = lastMatch rules path isDir := by
  induction after using List.reverseRecOn with
  | nil => rw [List.append_nil]
  | append_singleton after rule ih =>
      have hrule : rule.covers path isDir = false := h rule (by simp)
      rw [← List.append_assoc, lastMatch_append_singleton, hrule, if_neg Bool.false_ne_true,
        ih fun later hlater => h later (List.mem_append_left _ hlater)]

/-- **The last rule that speaks of a path decides.** -/
theorem ignores_of_last {e : Engine} (henabled : e.enabled = true) {before after : List Rule}
    {rule : Rule} (hrules : rulesOf e.files = before ++ rule :: after) {path : String}
    {isDir : Bool} (hcovers : rule.covers path isDir = true)
    (hlast : ∀ later ∈ after, later.covers path isDir = false) :
    e.ignores path isDir = !rule.negated := by
  rw [ignores, henabled, Bool.true_and, hrules, List.append_cons,
    lastMatch_append_of_silent hlast, lastMatch_append_singleton, if_pos hcovers]

/-! ### The files of a directory and above -/

/-- The rules of some texts, each under the path of its file. -/
def rulesOfTexts (files : List (Path × String)) : List Rule :=
  files.flatMap fun file => (RuleFile.parse file.1.text file.2).rules

/-- The rules of some texts are those of the texts put together. -/
theorem map_bare_rulesOfTexts (files : List (Path × String)) (source : String) :
    (rulesOfTexts files).map Rule.bare =
      (RuleFile.parse source (RuleFile.joinLines (files.map Prod.snd))).rules.map Rule.bare := by
  rw [rulesOfTexts, List.map_flatMap, RuleFile.map_bare_parse_joinLines, List.flatMap_map]
  simp only [RuleFile.map_bare_parse]

/-- Lines that give no rule may be left out of all texts. -/
theorem map_bare_joinLines_cleaned (files : List (Path × String)) (source : String) :
    (RuleFile.parse source
        (RuleFile.joinLines (files.map fun file => RuleFile.cleaned file.2))).rules.map Rule.bare =
      (RuleFile.parse source (RuleFile.joinLines (files.map Prod.snd))).rules.map Rule.bare := by
  simp only [RuleFile.map_bare_parse_joinLines, List.flatMap_map,
    RuleFile.filterMap_ruleOfLine?_cleaned]

theorem rulesOf_chain (fs : FileSystem) (env : Environment) (choice : GlobalFile.Choice)
    (start : Path) :
    rulesOf (chain fs env choice start) = rulesOfTexts (texts fs env choice start) := by
  rw [chain_eq_map, rulesOf, List.flatMap_map]
  rfl

/-- **The ignore files of a directory and above decide as one file.**  If the start is there,
loading succeeds, and the engine answers every question as one that holds the texts of all files put
together as a single file: for the start and for each directory above it one after another the two
ignore files, where they are regular files that can be read, and last the first regular file among
the global places.  Lines that give no rule may be left out, and nothing matters of the filesystem
but the calls that loading makes.  A walk goes by these rules and then by those of its tags and
patterns, and of all these rules the last one that speaks of a path decides. -/
theorem load_as_one_file {fs : FileSystem} {env : Environment} {start : Path} {e : Engine}
    {info : Info} (hstart : fs.follow start = .ok info) (henabled : e.enabled = true) :
    ∃ dirs loaded, start.Climbs dirs ∧ e.load fs env start = .ok loaded ∧
      let files :=
        (dirs.flatMap fun dir => [dir.join ".gitignore", dir.join ".rgignore"]).filterMap
            (RuleFile.text? fs) ++
          (((GlobalFile.places env e.globalFile).find? fs.isRegularFile).bind
            (RuleFile.text? fs)).toList
      let joined := RuleFile.joinLines (files.map Prod.snd)
      let cleaned := RuleFile.joinLines (files.map fun file => RuleFile.cleaned file.2)
      (∀ source questions,
        loaded.answers questions = (holding [RuleFile.parse source joined]).answers questions) ∧
      (∀ source questions,
        loaded.answers questions = (holding [RuleFile.parse source cleaned]).answers questions) ∧
      (∀ fs', (∀ c ∈ e.loadCalls fs env start, c.Agrees fs fs') →
        e.load fs' env start = .ok loaded) ∧
      ∀ (w : Walker) (root : Path) (info' : Info) (engine : Engine), w.engine = e →
        w.Ready fs env root start info' engine →
          (w.plan fs start engine).ignores = engine.ignores ∧
          ∃ rules, List.Forall₂ Gives w.config.added rules ∧
            (∀ source questions, engine.answers questions =
              (holding [RuleFile.parse source joined, ⟨customSource, rules⟩]).answers questions) ∧
            ∀ before rule after path isDir,
              rulesOfTexts files ++ rules = before ++ rule :: after →
                rule.covers path isDir = true →
                  (∀ later ∈ after, later.covers path isDir = false) →
                    engine.ignores path isDir = !rule.negated := by
  have hload : e.load fs env start = .ok (e.withFiles (chain fs env e.globalFile start)) := by
    rw [load, hstart]
  refine ⟨start.ancestors, _, start.climbs_ancestors, hload, ?_⟩
  intro files joined cleaned
  have hrules : rulesOf (chain fs env e.globalFile start) = rulesOfTexts files :=
    rulesOf_chain fs env e.globalFile start
  have hjoined (source : String) :
      (rulesOf (chain fs env e.globalFile start)).map Rule.bare =
        (RuleFile.parse source joined).rules.map Rule.bare := by
    rw [hrules]
    exact map_bare_rulesOfTexts files source
  refine ⟨fun source => ?_, fun source => ?_, fun fs' h => (load_of_agrees h).trans hload, ?_⟩
  · refine answers_eq_of_bare (coherent_withFiles _ _) (coherent_holding _) henabled ?_
    simpa [rulesOf, holding, withFiles] using hjoined source
  · refine answers_eq_of_bare (coherent_withFiles _ _) (coherent_holding _) henabled ?_
    have hcleaned := (hjoined source).trans (map_bare_joinLines_cleaned files source).symm
    simpa [rulesOf, holding, withFiles] using hcleaned
  · rintro w root info' engine rfl ready
    obtain ⟨loaded, rules, hloaded, hgives, hextends⟩ := ready.adds
    rw [hload] at hloaded
    cases hloaded
    refine ⟨rfl, rules, hgives, fun source => ?_, fun before rule after path isDir hsplit => ?_⟩
    · refine answers_eq_of_bare (hextends.coherent (coherent_withFiles _ _))
        (coherent_holding _) (hextends.enabled.trans henabled) ?_
      have hall : (rulesOf engine.files).map Rule.bare =
          (RuleFile.parse source joined).rules.map Rule.bare ++ rules.map Rule.bare := by
        rw [hextends.rules, List.map_append, ← hjoined source]
        rfl
      simpa [rulesOf, holding, withFiles] using hall
    · have hall : rulesOf engine.files = before ++ rule :: after := by
        rw [hextends.rules, ← hsplit, ← hrules]
        rfl
      exact ignores_of_last (hextends.enabled.trans henabled) hall

/-- A directory with an ignore file whose first line is refused. -/
def drawer : FileTree :=
  FileTree.empty.put
    ⟨[.root, .name "p", .name ".gitignore"], .file "[z-a]\na".toUTF8.toList, 0, [], []⟩

/-- A walker that takes back in what that file leaves out. -/
def forgiving : Walker :=
  .ofConfig { WalkConfig.initial with patterns := ["!a"] } (empty .disabled) ⟨.empty, .initial⟩

/-- The refused line is passed over; the pattern of the walker comes after the file and overrides
it. -/
theorem load_as_one_file_drawer :
    ∃ loaded, (empty .disabled).load drawer.fileSystem ⟨none, none⟩ ⟨"/p"⟩ = .ok loaded ∧
      loaded.answers [("a", false)] = [.decision true] ∧
      ∃ engine, forgiving.Ready drawer.fileSystem ⟨none, none⟩ ⟨"/p"⟩ ⟨"/p"⟩ (.ofDirectory "p")
          engine ∧ engine.ignores "a" false = false := by
  have hstart : drawer.fileSystem.follow ⟨"/p"⟩ = .ok (.ofDirectory "p") := rfl
  obtain ⟨dirs, loaded, hclimbs, hload, hfile, -, -, hwalk⟩ :=
    @load_as_one_file _ ⟨none, none⟩ _ (empty .disabled) _ hstart rfl
  obtain rfl := hclimbs.unique (Path.climbs_ancestors ⟨"/p"⟩)
  refine ⟨loaded, hload, ?_, ?_⟩
  · rw [hfile "", answers_of_coherent (coherent_holding _)]
    decide +kernel
  · let steps := Walker.engineSteps drawer.fileSystem ⟨none, none⟩ ⟨"/p"⟩ forgiving.config
    have hprepared : (Walker.runSteps forgiving.engine steps).2 = none := by
      rw [Walker.snd_runSteps_engineSteps]
      decide +kernel
    have ready : forgiving.Ready drawer.fileSystem ⟨none, none⟩ ⟨"/p"⟩ ⟨"/p"⟩ (.ofDirectory "p")
        (Walker.runSteps forgiving.engine steps).1 := ⟨rfl, rfl, Prod.ext rfl hprepared⟩
    obtain ⟨-, rules, hgives, -, hlast⟩ := hwalk _ _ _ _ rfl ready
    have hadded : forgiving.config.added = ["!a"] := rfl
    rw [hadded] at hgives
    obtain ⟨rule, rest, ⟨line, hrule⟩, hnone, rfl⟩ := List.forall₂_cons_left_iff.1 hgives
    obtain rfl := List.forall₂_nil_left_iff.1 hnone
    -- what the rule says does not hang on its line
    have hsays : ((Rule.parse "!a" "" 0).toOption.map fun r => (r.negated, r.covers "a" false)) =
        some (true, true) := by decide +kernel
    rw [← Rule.map_bare_parse "!a" customSource line, hrule] at hsays
    obtain ⟨hnegated, hcovers⟩ := Prod.mk.inj (Option.some.inj hsays)
    rw [Rule.covers_bare] at hcovers
    have hignores := hlast _ rule [] "a" false rfl hcovers (by simp)
    refine ⟨_, ready, ?_⟩
    rw [hignores]
    exact congrArg _ hnegated

end Engine

end Forage

/-
**The cache among many readers and writers.**

An engine that is on is asked by many at once while others change its rules.  A reader takes note of
the version, looks into the cache, asks the rules and keeps their decision; a writer changes the
rules and then empties the cache.  Each of these is one step, and between any two of them anybody
else may take any number of steps.  So a reader may keep a decision that it made for rules which
were replaced meanwhile, or for rules whose writer has not emptied the cache yet.

What saves the cache is that a writer empties it after its change and moves it to a new version.
Where no writer is halfway, nothing was changed since the cache was emptied last, so that whatever
was decided under the present version was decided by the present rules.  The version is a word of
64 bits, and a reader could mistake an old version for the present one after 2^64 rounds.

Main definitions:

* `Task`, `Task.step` — a reader or a writer, by what it does next;
* `Crowd`, `Crowd.run` — readers and writers around an engine, who take turns in any order;
* `Crowd.Sound` — the invariant: it speaks of the version, of the decisions in the cache and of
  those that readers still carry.

Main results:

* `Crowd.run_reader`, `Crowd.run_writer` — without others between, the steps are `shouldIgnore` and
  `withFiles`;
* `Crowd.Sound.turn`, `Crowd.Sound.run` — **no turn and no run breaks the invariant**;
* `Crowd.cache_never_stale` — what is in the cache is the decision of the present rules.
-/

import Mathlib.Algebra.Group.Nat.Defs
import Forage.Proofs.Ignore.Uncached

set_option relaxedAutoImplicit false
set_option autoImplicit false

namespace Forage

/-! ### Readers and writers -/

/-- A reader or a writer of an engine that is on, by what it does next. -/
inductive Task where
  /-- A reader that takes note of the version. -/
  | asks (key : DecisionKey)
  /-- A reader that looks into the cache. -/
  | looks (key : DecisionKey) (version : UInt64)
  /-- A reader that found nothing there and asks the rules. -/
  | decides (key : DecisionKey) (version : UInt64)
  /-- A reader that keeps a decision. -/
  | keeps (key : DecisionKey) (version : UInt64) (ignored : Bool)
  /-- A reader that has its answer. -/
  | answered (key : DecisionKey) (ignored : Bool)
  /-- A writer that changes the rules. -/
  | edits (edit : List RuleFile → List RuleFile)
  /-- A writer that has changed the rules and empties the cache. -/
  | empties
  /-- A writer that has emptied the cache. -/
  | settled

namespace Task

/-- The decision of the rules of an engine as they are. -/
def decision (e : Engine) (key : DecisionKey) : Bool :=
  Engine.lastMatch (Engine.rulesOf e.files) key.1 key.2

/-- One step: the engine after it, and what is left to do. -/
def step (e : Engine) : Task → Engine × Task
  | asks key => (e, looks key e.cache.version)
  | looks key version =>
      match e.cache.get? key version with
      | some ignored => (e, answered key ignored)
      | none => (e, decides key version)
  | decides key version => (e, keeps key version (decision e key))
  | keeps key version ignored =>
      ({ e with cache := e.cache.insert key version ignored }, answered key ignored)
  | answered key ignored => (e, answered key ignored)
  | edits edit => ({ e with files := edit e.files }, empties)
  | empties => ({ e with cache := e.cache.invalidate }, settled)
  | settled => (e, settled)

/-- A reader or a writer that has not begun. -/
def isNew : Task → Bool
  | asks _ => true
  | edits _ => true
  | _ => false

/-- A writer between its change of the rules and its emptying of the cache. -/
def isHalfway : Task → Bool
  | empties => true
  | _ => false

/-- A writer that has emptied the cache. -/
def isSettled : Task → Bool
  | settled => true
  | _ => false

/-- The version that a reader has taken note of and still goes by. -/
def version? : Task → Option UInt64
  | looks _ version => some version
  | decides _ version => some version
  | keeps _ version _ => some version
  | _ => none

/-- Who has not begun has not emptied the cache and goes by no version. -/
theorem of_isNew {t : Task} (h : t.isNew = true) : t.isSettled = false ∧ t.version? = none := by
  cases t with
  | asks key => exact ⟨rfl, rfl⟩
  | edits edit => exact ⟨rfl, rfl⟩
  | _ => cases h

end Task

/-- Readers and writers around one engine. -/
structure Crowd where
  engine : Engine
  tasks : List Task

namespace Crowd

/-- The crowd after one of its members has taken a step. -/
def turn (s : Crowd) (i : Nat) : Crowd :=
  match s.tasks[i]? with
  | none => s
  | some t => ⟨(t.step s.engine).1, s.tasks.set i (t.step s.engine).2⟩

/-- The crowd after its members have taken steps in a given order. -/
def run (s : Crowd) (order : List Nat) : Crowd := order.foldl turn s

/-- How often the cache was emptied. -/
def rounds (s : Crowd) : Nat := s.tasks.countP Task.isSettled

/-- How many writers are halfway. -/
def halfway (s : Crowd) : Nat := s.tasks.countP Task.isHalfway

/-! ### One alone -/

/-- A reader whom nobody disturbs asks the engine. -/
theorem run_reader {e : Engine} (henabled : e.enabled = true) (path : String) (isDir : Bool) :
    run ⟨e, [.asks (path, isDir)]⟩ [0, 0, 0, 0] =
      ⟨(e.shouldIgnore path isDir).2, [.answered (path, isDir) (e.shouldIgnore path isDir).1]⟩ := by
  rw [Engine.shouldIgnore, if_pos henabled]
  cases hget : e.cache.get? (path, isDir) e.cache.version with
  | some ignored => simp [run, turn, Task.step, hget]
  | none => simp [run, turn, Task.step, hget, Engine.remember, henabled, Task.decision]

/-- A writer whom nobody disturbs gives the engine other files. -/
theorem run_writer (e : Engine) (edit : List RuleFile → List RuleFile) :
    run ⟨e, [.edits edit]⟩ [0, 0] = ⟨e.withFiles (edit e.files), [.settled]⟩ := rfl

/-! ### The invariant -/

/-- What holds of a crowd at any time.  The decisions in the cache and those that readers carry are
spoken of only where no writer is halfway. -/
structure Sound (s : Crowd) : Prop where
  /-- The version counts the rounds. -/
  version : s.engine.cache.version.toNat = s.rounds
  /-- Readers go by versions that the cache has had. -/
  seen : ∀ t ∈ s.tasks, ∀ version, t.version? = some version → version.toNat ≤ s.rounds
  /-- What is in the cache was stored under the present version. -/
  stored : ∀ (key : DecisionKey) (version : UInt64) (ignored : Bool),
    s.engine.cache.entries[key]? = some (version, ignored) → version = s.engine.cache.version
  /-- What is in the cache is the decision of the present rules. -/
  kept : s.halfway = 0 → ∀ (key : DecisionKey) (version : UInt64) (ignored : Bool),
    s.engine.cache.entries[key]? = some (version, ignored) → ignored = Task.decision s.engine key
  /-- What is about to be kept under the present version is the decision of the present rules. -/
  carried : s.halfway = 0 → ∀ (key : DecisionKey) (ignored : Bool),
    .keeps key s.engine.cache.version ignored ∈ s.tasks → ignored = Task.decision s.engine key

/-- At the start nothing is in the cache and nobody is halfway. -/
theorem sound_of_new {e : Engine} {tasks : List Task} (hcache : e.cache = .empty)
    (hnew : ∀ t ∈ tasks, t.isNew = true) : Sound ⟨e, tasks⟩ := by
  have hempty (key : DecisionKey) : e.cache.entries[key]? = none := by
    simp [hcache, DecisionCache.empty]
  have hrounds : rounds ⟨e, tasks⟩ = 0 :=
    List.countP_eq_zero.2 fun t ht => by simp [(Task.of_isNew (hnew t ht)).1]
  refine ⟨?_, ?_, ?_, ?_, ?_⟩
  · rw [hrounds, hcache]
    rfl
  · intro t ht version hversion
    rw [(Task.of_isNew (hnew t ht)).2] at hversion
    cases hversion
  · intro key version ignored hentry
    rw [hempty] at hentry
    cases hentry
  · intro _ key version ignored hentry
    rw [hempty] at hentry
    cases hentry
  · intro _ key ignored hmem
    cases hnew _ hmem

/-! ### One turn -/

variable {s : Crowd} {i : Nat} {t u : Task} {e : Engine}

/-- Who has taken a step counts for what he is then. -/
theorem countP_set (p : Task → Bool) (h : s.tasks[i]? = some t) (u : Task) :
    (s.tasks.set i u).countP p + (if p t then 1 else 0) =
      s.tasks.countP p + (if p u then 1 else 0) := by
  obtain ⟨hi, rfl⟩ := List.getElem?_eq_some_iff.1 h
  have hpos : p s.tasks[i] = true → 0 < s.tasks.countP p :=
    fun hp => List.countP_pos_iff.2 ⟨_, List.getElem_mem hi, hp⟩
  rw [List.countP_set hi]
  split
  · next hp =>
      have := hpos hp
      omega
  · omega

/-- A step that leaves the engine as it is, and nobody more halfway or settled, keeps the invariant
if the version that is gone by and the decision that is carried afterwards are right. -/
theorem Sound.of_quiet (h : Sound s) (hget : s.tasks[i]? = some t)
    (hsettled : u.isSettled = t.isSettled) (hhalfway : u.isHalfway = t.isHalfway)
    (hseen : ∀ version, u.version? = some version → version.toNat ≤ s.rounds)
    (hcarried : ∀ key ignored, u = .keeps key s.engine.cache.version ignored →
      s.halfway = 0 → ignored = Task.decision s.engine key) :
    Sound ⟨s.engine, s.tasks.set i u⟩ := by
  have hrounds : rounds ⟨s.engine, s.tasks.set i u⟩ = s.rounds := by
    have := countP_set Task.isSettled hget u
    rw [hsettled] at this
    exact Nat.add_right_cancel this
  have hcount : halfway ⟨s.engine, s.tasks.set i u⟩ = s.halfway := by
    have := countP_set Task.isHalfway hget u
    rw [hhalfway] at this
    exact Nat.add_right_cancel this
  refine ⟨?_, ?_, h.stored, ?_, ?_⟩
  · rw [hrounds]
    exact h.version
  · intro t' ht' version hversion
    rw [hrounds]
    rcases List.mem_or_eq_of_mem_set ht' with ht' | rfl
    · exact h.seen t' ht' version hversion
    · exact hseen version hversion
  · rw [hcount]
    exact h.kept
  · rw [hcount]
    intro hnone key ignored hmem
    rcases List.mem_or_eq_of_mem_set hmem with hmem | heq
    · exact h.carried hnone key ignored hmem
    · exact hcarried key ignored heq.symm hnone

/-- So does a step after which no version is gone by. -/
theorem Sound.of_silent (h : Sound s) (hget : s.tasks[i]? = some t)
    (hsettled : u.isSettled = t.isSettled) (hhalfway : u.isHalfway = t.isHalfway)
    (hsilent : u.version? = none) : Sound ⟨s.engine, s.tasks.set i u⟩ := by
  refine h.of_quiet hget hsettled hhalfway ?_ ?_
  · intro version hversion
    rw [hsilent] at hversion
    cases hversion
  · rintro key ignored rfl
    cases hsilent

/-- Keeping a decision under the present version puts in the cache what a reader carried; under an
old one it does nothing. -/
theorem Sound.of_keeps (h : Sound s) {key : DecisionKey} {version : UInt64} {ignored : Bool}
    (hget : s.tasks[i]? = some (.keeps key version ignored)) :
    Sound ⟨{ s.engine with cache := s.engine.cache.insert key version ignored },
      s.tasks.set i (.answered key ignored)⟩ := by
  have hquiet : Sound ⟨s.engine, s.tasks.set i (.answered key ignored)⟩ :=
    h.of_silent hget rfl rfl rfl
  by_cases hversion : s.engine.cache.version = version
  · subst hversion
    rw [DecisionCache.insert, if_pos rfl]
    have hmem := List.mem_of_getElem? hget
    have hcount := countP_set Task.isHalfway hget (.answered key ignored)
    have hentry (key' : DecisionKey) :
        (s.engine.cache.entries.insert key (s.engine.cache.version, ignored))[key']? =
          if key = key' then some (s.engine.cache.version, ignored)
          else s.engine.cache.entries[key']? := by
      simp only [Std.HashMap.getElem?_insert, beq_iff_eq]
    refine ⟨hquiet.version, hquiet.seen, ?_, ?_, hquiet.carried⟩
    · intro key' version' ignored' hstored
      rw [hentry] at hstored
      split at hstored
      · cases hstored
        rfl
      · exact h.stored key' version' ignored' hstored
    · intro hnone key' version' ignored' hstored
      have hnone' : s.halfway = 0 :=
        Nat.add_right_cancel (hcount.symm.trans (congrArg (· + _) hnone))
      rw [hentry] at hstored
      split at hstored
      · next hkey =>
          cases hstored
          subst hkey
          exact h.carried hnone' key ignored hmem
      · exact h.kept hnone' key' version' ignored' hstored
  · rw [DecisionCache.insert, if_neg hversion]
    exact hquiet

/-- A change of the rules leaves a writer halfway, so that nothing is said of the decisions. -/
theorem Sound.of_edits (h : Sound s) {edit : List RuleFile → List RuleFile}
    (hget : s.tasks[i]? = some (.edits edit)) :
    Sound ⟨{ s.engine with files := edit s.engine.files }, s.tasks.set i .empties⟩ := by
  have hrounds : (s.tasks.set i .empties).countP Task.isSettled = s.rounds :=
    Nat.add_right_cancel (countP_set Task.isSettled hget .empties)
  have hhalfway : (s.tasks.set i .empties).countP Task.isHalfway = s.halfway + 1 :=
    countP_set Task.isHalfway hget .empties
  refine ⟨h.version.trans hrounds.symm, ?_, h.stored, ?_, ?_⟩
  · intro t ht version hversion
    rw [rounds, hrounds]
    rcases List.mem_or_eq_of_mem_set ht with ht | rfl
    · exact h.seen t ht version hversion
    · cases hversion
  · intro hnone
    rw [halfway, hhalfway] at hnone
    omega
  · intro hnone
    rw [halfway, hhalfway] at hnone
    omega

/-- Emptying the cache moves it to a version that no reader has seen yet, as long as the word for it
does not overflow. -/
theorem Sound.of_empties (h : Sound s) (hget : s.tasks[i]? = some .empties)
    (hbound : s.rounds + 1 < 2 ^ 64) :
    Sound ⟨{ s.engine with cache := s.engine.cache.invalidate }, s.tasks.set i .settled⟩ := by
  have hrounds : (s.tasks.set i .settled).countP Task.isSettled = s.rounds + 1 :=
    countP_set Task.isSettled hget .settled
  have hversion : (s.engine.cache.version + 1).toNat = s.rounds + 1 := by
    rw [UInt64.toNat_add, h.version]
    exact Nat.mod_eq_of_lt hbound
  have hempty (key : DecisionKey) : s.engine.cache.invalidate.entries[key]? = none := by
    simp [DecisionCache.invalidate]
  refine ⟨hversion.trans hrounds.symm, ?_, ?_, ?_, ?_⟩
  · intro t ht version hseen
    rw [rounds, hrounds]
    rcases List.mem_or_eq_of_mem_set ht with ht | rfl
    · exact Nat.le_succ_of_le (h.seen t ht version hseen)
    · cases hseen
  · intro key version ignored hentry
    rw [hempty] at hentry
    cases hentry
  · intro _ key version ignored hentry
    rw [hempty] at hentry
    cases hentry
  · intro _ key ignored hmem
    -- whoever carries a decision has seen an older version than the one the cache has now
    rcases List.mem_or_eq_of_mem_set hmem with hmem | heq
    · have hold : (s.engine.cache.version + 1).toNat ≤ s.rounds := h.seen _ hmem _ rfl
      omega
    · cases heq

/-- No turn takes a round back. -/
theorem rounds_le_turn (s : Crowd) (i : Nat) : s.rounds ≤ (s.turn i).rounds := by
  rw [turn]
  split
  · exact Nat.le_refl _
  · next t hget =>
      have hcount := countP_set Task.isSettled hget (t.step s.engine).2
      have hstep : t.isSettled = true → (t.step s.engine).2.isSettled = true := by
        cases t with
        | settled => exact fun h => h
        | _ => exact fun h => nomatch h
      change s.tasks.countP Task.isSettled ≤
        (s.tasks.set i (t.step s.engine).2).countP Task.isSettled
      by_cases hsettled : t.isSettled = true
      · rw [if_pos hsettled, if_pos (hstep hsettled)] at hcount
        omega
      · rw [if_neg hsettled] at hcount
        omega

/-- **No turn breaks the invariant**, as long as the word for the version does not overflow. -/
theorem Sound.turn (h : Sound s) (i : Nat) (hbound : (s.turn i).rounds < 2 ^ 64) :
    Sound (s.turn i) := by
  rw [Crowd.turn] at hbound ⊢
  split
  · exact h
  · next t hget =>
      have hmem : t ∈ s.tasks := List.mem_of_getElem? hget
      simp only [hget] at hbound
      cases t with
      | asks key =>
          refine h.of_quiet hget rfl rfl ?_ ?_
          · rintro version ⟨⟩
            exact Nat.le_of_eq h.version
          · rintro key' ignored ⟨⟩
      | looks key version =>
          have hseen : version.toNat ≤ s.rounds := h.seen _ hmem version rfl
          simp only [Task.step]
          split
          · exact h.of_silent hget rfl rfl rfl
          · refine h.of_quiet hget rfl rfl ?_ ?_
            · rintro _ ⟨⟩
              exact hseen
            · rintro key' ignored ⟨⟩
      | decides key version =>
          refine h.of_quiet hget rfl rfl ?_ ?_
          · rintro _ ⟨⟩
            exact h.seen _ hmem version rfl
          · rintro key' ignored ⟨⟩ _
            rfl
      | keeps key version ignored => exact h.of_keeps hget
      | answered key ignored => exact h.of_silent hget rfl rfl rfl
      | edits edit => exact h.of_edits hget
      | empties =>
          have hrounds : (s.tasks.set i .settled).countP Task.isSettled = s.rounds + 1 :=
            countP_set Task.isSettled hget .settled
          exact h.of_empties hget (hrounds ▸ hbound)
      | settled => exact h.of_silent hget rfl rfl rfl

/-- **No run breaks the invariant**, as long as the word for the version does not overflow. -/
theorem Sound.run (h : Sound s) (order : List Nat) (hbound : (s.run order).rounds < 2 ^ 64) :
    Sound (s.run order) := by
  have hrounds (order : List Nat) (s : Crowd) : s.rounds ≤ (s.run order).rounds := by
    induction order generalizing s with
    | nil => exact Nat.le_refl _
    | cons i order ih => exact (s.rounds_le_turn i).trans (ih (s.turn i))
  induction order generalizing s with
  | nil => exact h
  | cons i order ih =>
      have hturn : (s.turn i).rounds < 2 ^ 64 := Nat.lt_of_le_of_lt (hrounds order _) hbound
      exact ih (h.turn i hturn) hbound

/-! ### What the cache gives out -/

/-- Where no writer is halfway, a decision from the cache is that of the present rules. -/
theorem Sound.decision_eq (h : Sound s) (hnone : ∀ t ∈ s.tasks, t.isHalfway = false)
    {path : String} {isDir ignored : Bool}
    (hget : s.engine.cache.get? (path, isDir) s.engine.cache.version = some ignored) :
    ignored = PlainEngine.decision (Engine.rulesOf s.engine.files) path isDir := by
  have hhalfway : s.halfway = 0 := List.countP_eq_zero.2 fun t ht => by simp [hnone t ht]
  unfold DecisionCache.get? at hget
  split at hget
  · cases hget
  · next version ignored' hentry =>
      split at hget
      · cases hget
        rw [Engine.decision_eq_lastMatch]
        exact h.kept hhalfway (path, isDir) version ignored hentry
      · cases hget

/-- **The cache is never stale.**  Whatever readers and writers there are around a new engine and in
whatever order they take their steps: while the cache was emptied fewer than 2^64 times, what is in
it was stored under the present version; and where no writer is between its change of the rules and
its emptying of the cache, each decision that the cache gives out under the present version is that
of the last of the present rules that speaks of the path. -/
theorem cache_never_stale {e : Engine} {tasks : List Task} (hcache : e.cache = .empty)
    (hnew : ∀ t ∈ tasks, t.isNew = true) (order : List Nat)
    (hbound : (run ⟨e, tasks⟩ order).rounds < 2 ^ 64) :
    let s := run ⟨e, tasks⟩ order
    (∀ (key : DecisionKey) (version : UInt64) (ignored : Bool),
      s.engine.cache.entries[key]? = some (version, ignored) →
        version = s.engine.cache.version) ∧
    ((∀ t ∈ s.tasks, t.isHalfway = false) →
      ∀ (path : String) (isDir ignored : Bool),
        s.engine.cache.get? (path, isDir) s.engine.cache.version = some ignored →
          ignored = PlainEngine.decision (Engine.rulesOf s.engine.files) path isDir) := by
  intro s
  have hsound : Sound s := (sound_of_new hcache hnew).run order hbound
  exact ⟨hsound.stored, fun hnone _ _ _ hget => hsound.decision_eq hnone hget⟩

/-! ### Three in a crowd -/

/-- A file with a rule for one path. -/
def sampleFile : RuleFile := ⟨Engine.customSource, [Engine.letterRule]⟩

/-- Two readers of that path, and a writer who adds the file. -/
def sampleTasks : List Task :=
  [.asks ("a", false), .edits (· ++ [sampleFile]), .asks ("a", false)]

/-- The first reader decides before the file is added and keeps the decision afterwards; the second
one comes when all is over. -/
def sampleOrder : List Nat := [0, 0, 0, 1, 0, 1, 2, 2, 2, 2]

/-- What the three leave behind. -/
def sampleEnd : Crowd :=
  { engine :=
      { files := [sampleFile]
        cache := ⟨1, (∅ : Std.HashMap DecisionKey (UInt64 × Bool)).insert ("a", false) (1, true)⟩
        enabled := true
        globalFile := .disabled }
    tasks := [.answered ("a", false) false, .settled, .answered ("a", false) true] }

theorem run_sample : run ⟨.empty .disabled, sampleTasks⟩ sampleOrder = sampleEnd := by
  have hbefore : Engine.lastMatch (Engine.rulesOf []) "a" false = false := rfl
  have hafter : Engine.lastMatch (Engine.rulesOf [sampleFile]) "a" false = true := rfl
  simp [run, sampleOrder, sampleTasks, turn, Task.step, DecisionCache.get?, DecisionCache.insert,
    DecisionCache.invalidate, Engine.empty, DecisionCache.empty, Task.decision, hbefore, hafter,
    sampleEnd]

/-- In the end the cache gives out the decision of the new rule. -/
theorem cache_never_stale_sample :
    let s := run ⟨.empty .disabled, sampleTasks⟩ sampleOrder
    s.rounds < 2 ^ 64 ∧ s.engine.cache.get? ("a", false) s.engine.cache.version = some true ∧
      true = PlainEngine.decision (Engine.rulesOf s.engine.files) "a" false := by
  intro s
  have hs : s = sampleEnd := run_sample
  have hrounds : s.rounds < 2 ^ 64 := by
    rw [hs]
    decide
  have hget : s.engine.cache.get? ("a", false) s.engine.cache.version = some true := by
    simp [hs, sampleEnd, DecisionCache.get?]
  have hnone : ∀ t ∈ s.tasks, t.isHalfway = false := by
    rw [hs]
    decide
  exact ⟨hrounds, hget,
    (cache_never_stale rfl (by decide) sampleOrder hrounds).2 hnone "a" false true hget⟩

end Crowd

end Forage

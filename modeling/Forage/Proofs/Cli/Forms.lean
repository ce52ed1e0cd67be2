/-
**What a command line may consist of.**

There are options that take a value, written behind an equals sign; switches, which take none; and one
root, which does not begin with a dash.  A command line that is run consists of these and says what
its forms say together: an option that may be repeated collects its values in order, of one that may
not the last value counts, and a switch is on if it is there at all.

The reading is laxer than that in one place.  An argument is cut at its equals sign before anybody asks
which option it is, and the options that take no value never look whether there was one.  So
`--hidden=false` is read as `--hidden`.

Main definitions:

* `IsCount` — texts that stand for a count of 64 bits;
* `ValuedOption`, `Switch`, `CliForm` — the options and the forms of an argument;
* `CliForm.SpelledBy` — a form and an argument that is read as it;
* `Arguments.ofForms` — what forms ask for together.

Main results:

* `readCount_eq_ok_iff` — which texts are read as counts;
* `CliRequest.add_eq_ok_iff` — what one argument more can do;
* `CliRequest.parse_eq_run_iff` — which command lines are run, and what they ask for;
* `CliRequest.parse_forms` — forms that are written down are read as they are meant;
* `CliRequest.accepted_forms` — **a command line that is run has these forms, unless a switch carries a
  value, and then the value says nothing**.
-/

import Mathlib.Data.List.Forall2
import Mathlib.Data.List.TakeDrop
import Mathlib.Data.List.TakeWhile
import Forage.Cli.Arguments

set_option relaxedAutoImplicit false
set_option autoImplicit false

namespace Forage

/-! ### Counts -/

/-- Digits, perhaps behind a plus sign, that stand for a number of 64 bits. -/
def IsCount (text : String) (n : UInt64) : Prop :=
  ∃ digits, digits ≠ [] ∧ (∀ c ∈ digits, c.isDigit = true) ∧
    Nat.ofDigitChars 10 digits 0 = n.toNat ∧
      (text.toList = digits ∨ text.toList = '+' :: digits)

/-- More digits do not make a number smaller. -/
theorem le_ofDigitChars (digits : List Char) (start : Nat) :
    start ≤ Nat.ofDigitChars 10 digits start := by
  have hpos : 0 < 10 ^ digits.length := Nat.pow_pos (by decide)
  rw [Nat.ofDigitChars_eq_ofDigitChars_zero]
  calc start ≤ 10 ^ digits.length * start := Nat.le_mul_of_pos_left start hpos
    _ ≤ 10 ^ digits.length * start + Nat.ofDigitChars 10 digits 0 := Nat.le_add_right _ _

theorem readDigits_eq_ok_iff {digits : List Char} {start : Nat} {n : UInt64}
    (hstart : start < UInt64.size) :
    readDigits start digits = .ok n ↔
      (∀ c ∈ digits, c.isDigit = true) ∧ Nat.ofDigitChars 10 digits start = n.toNat := by
  induction digits generalizing start with
  | nil =>
      have hmod : start % 2 ^ 64 = start := Nat.mod_eq_of_lt hstart
      rw [readDigits, Except.ok.injEq, UInt64.ofNat_eq_iff_mod_eq_toNat, hmod]
      simp
  | cons c rest ih =>
      rw [readDigits, List.forall_mem_cons, Nat.ofDigitChars_cons, Nat.mul_comm 10]
      cases hc : c.isDigit with
      | false => simp
      | true =>
          dsimp only
          rw [if_pos rfl]
          split
          · next hsmall => rw [ih hsmall]; simp
          · next hlarge =>
              -- what is too large already stays so, and `n` is not
              have hgrows := le_ofDigitChars rest (start * 10 + (c.toNat - '0'.toNat))
              have hn := n.toNat_lt_size
              constructor
              · intro h
                cases h
              · intro h
                omega

/-- **The texts of counts.** -/
theorem readCount_eq_ok_iff {text : String} {n : UInt64} :
    readCount text = .ok n ↔ IsCount text n := by
  have hplus : '+'.isDigit = false := by decide
  have hdigits (digits : List Char) := @readDigits_eq_ok_iff digits 0 n (by decide)
  unfold readCount IsCount
  split
  · next hnil => simp [hnil]
  · next hsign =>
      simp only [hsign, reduceCtorEq, false_iff, not_exists, not_and, not_or]
      rintro digits hne hall -
      refine ⟨?_, fun h => hne (List.cons.inj h).2.symm⟩
      rintro rfl
      simp at hall
  · next digits hne hsign =>
      rw [hdigits, hsign]
      constructor
      · rintro ⟨hall, hvalue⟩
        exact ⟨digits, hne, hall, hvalue, Or.inr rfl⟩
      · rintro ⟨ds, -, hall, hvalue, rfl | h⟩
        · simp at hall
        · obtain rfl : digits = ds := (List.cons.inj h).2
          exact ⟨hall, hvalue⟩
  · next hne _ hnosign =>
      rw [hdigits]
      constructor
      · rintro ⟨hall, hvalue⟩
        exact ⟨_, hne, hall, hvalue, Or.inl rfl⟩
      · rintro ⟨ds, -, hall, hvalue, rfl | h⟩
        · exact ⟨hall, hvalue⟩
        · exact absurd h (hnosign ds)

/-! ### Options and forms -/

/-- The options that take a value. -/
inductive ValuedOption where
  | config
  | maxDepth
  | type
  | excludeType
  | ext
  | ignore
  | common
deriving DecidableEq, Repr

/-- The options that take no value and do not end the reading. -/
inductive Switch where
  | hidden
  | noIgnore
  | stats
  | languages
deriving DecidableEq, Repr

namespace ValuedOption

def name : ValuedOption → String
  | config => "--config"
  | maxDepth => "--max-depth"
  | type => "--type"
  | excludeType => "--exclude-type"
  | ext => "--ext"
  | ignore => "--ignore"
  | common => "--common"

def flag : ValuedOption → CliFlag
  | config => .config
  | maxDepth => .maxDepth
  | type => .type
  | excludeType => .excludeType
  | ext => .ext
  | ignore => .ignore
  | common => .common

end ValuedOption

namespace Switch

def name : Switch → String
  | hidden => "--hidden"
  | noIgnore => "--no-ignore"
  | stats => "--stats"
  | languages => "--languages"

def flag : Switch → CliFlag
  | hidden => .hidden
  | noIgnore => .noIgnore
  | stats => .stats
  | languages => .languages

end Switch

inductive CliForm where
  | valued (option : ValuedOption) (value : String)
  | switch (switch : Switch)
  | root (text : String)
deriving DecidableEq, Repr

namespace CliForm

def text : CliForm → String
  | valued o value => o.name ++ "=" ++ value
  | switch s => s.name
  | root text => text

/-- The value of the depth is a count, and a root does not begin with a dash. -/
def IsSound : CliForm → Prop
  | valued .maxDepth value => ∃ n, IsCount value n
  | valued _ _ => True
  | switch _ => True
  | root text => text.toList.head? ≠ some '-'

/-- A form is written as an argument: as it should be, or, if it is a switch, with a value behind it
that says nothing. -/
inductive SpelledBy : CliForm → String → Prop
  | exactly (f : CliForm) : SpelledBy f f.text
  | laxly (s : Switch) (value : String) : SpelledBy (switch s) (s.name ++ "=" ++ value)

def values (o : ValuedOption) (forms : List CliForm) : List String :=
  forms.filterMap fun
    | valued o' value => if o' = o then some value else none
    | _ => none

def roots (forms : List CliForm) : List String :=
  forms.filterMap fun
    | root text => some text
    | _ => none

@[simp] theorem values_nil (o : ValuedOption) : values o [] = [] := rfl

@[simp] theorem roots_nil : roots [] = [] := rfl

@[simp] theorem values_append (o : ValuedOption) (forms others : List CliForm) :
    values o (forms ++ others) = values o forms ++ values o others :=
  List.filterMap_append

@[simp] theorem roots_append (forms others : List CliForm) :
    roots (forms ++ others) = roots forms ++ roots others :=
  List.filterMap_append

@[simp] theorem values_valued (o o' : ValuedOption) (value : String) :
    values o [valued o' value] = if o' = o then [value] else [] := by
  unfold values
  split <;> simp [*]

@[simp] theorem values_switch (o : ValuedOption) (s : Switch) : values o [switch s] = [] := rfl

@[simp] theorem values_root (o : ValuedOption) (text : String) : values o [root text] = [] := rfl

@[simp] theorem roots_valued (o : ValuedOption) (value : String) : roots [valued o value] = [] := rfl

@[simp] theorem roots_switch (s : Switch) : roots [switch s] = [] := rfl

@[simp] theorem roots_root (text : String) : roots [root text] = [text] := rfl

end CliForm

/-- What a command line may consist of: every form is sound, and there is at most one root. -/
structure IsCommandLine (forms : List CliForm) : Prop where
  sound : ∀ f ∈ forms, f.IsSound
  oneRoot : (CliForm.roots forms).length ≤ 1

open CliForm in
/-- What forms ask for together: of the options that may be repeated all values, of the others the last
one, and every switch that is among them. -/
def Arguments.ofForms (forms : List CliForm) : Arguments where
  root := (roots forms).head?.map Path.mk
  config := (values .config forms).getLast?.map Path.mk
  maxDepth := (values .maxDepth forms).getLast?.bind fun v => (readCount v).toOption
  hidden := forms.contains (.switch .hidden)
  noIgnore := forms.contains (.switch .noIgnore)
  types := values .type forms
  excludeTypes := values .excludeType forms
  extensions := values .ext forms
  ignores := values .ignore forms
  common := values .common forms
  stats := forms.contains (.switch .stats)
  languages := forms.contains (.switch .languages)

/-! ### Reading one argument -/

/-- A name of an option that is cut off at an equals sign behind it. -/
def IsLongName (name : String) : Prop := ∃ rest, name.toList = '-' :: '-' :: rest ∧ '=' ∉ rest

theorem ValuedOption.isLongName_name (o : ValuedOption) : IsLongName o.name := by
  cases o <;> exact ⟨_, rfl, by decide⟩

theorem Switch.isLongName_name (s : Switch) : IsLongName s.name := by
  cases s <;> exact ⟨_, rfl, by decide⟩

/-- An argument is taken whole, or it is a long name with a value behind an equals sign. -/
theorem splitOption_cases (text : String) :
    splitOption text = (text, none) ∨
      ∃ name value, splitOption text = (name, some value) ∧ IsLongName name ∧
        text = name ++ "=" ++ value := by
  unfold splitOption
  dsimp only
  split
  · next name value hspan =>
      rw [List.span_eq_takeWhile_dropWhile, Prod.mk.injEq] at hspan
      have hname : '=' ∉ name := by
        intro hmem
        have hbefore : '=' ∈ text.toList.takeWhile (· != '=') := by simp [hspan.1, hmem]
        simpa using List.mem_takeWhile_imp hbefore
      have hparts := List.takeWhile_append_dropWhile (p := (· != '=')) (l := text.toList)
      rw [hspan.1, hspan.2] at hparts
      refine Or.inr ⟨_, _, rfl, ⟨name, String.toList_ofList, hname⟩, String.toList_inj.1 ?_⟩
      simpa using hparts.symm
  · exact Or.inl rfl

theorem splitOption_value {name : String} (h : IsLongName name) (value : String) :
    splitOption (name ++ "=" ++ value) = (name, some value) := by
  obtain ⟨rest, hname, hrest⟩ := h
  have hspan : (name ++ "=" ++ value).toList.span (· != '=') =
      ('-' :: '-' :: rest, '=' :: value.toList) := by
    have hall : ∀ c ∈ '-' :: '-' :: rest, (c != '=') = true := by
      intro c hc
      rw [List.mem_cons, List.mem_cons] at hc
      rcases hc with rfl | rfl | hc
      · decide
      · decide
      · exact bne_iff_ne.2 fun h => hrest (h ▸ hc)
    rw [List.span_eq_takeWhile_dropWhile, String.toList_append, String.toList_append, hname,
      List.append_assoc, List.takeWhile_append_of_pos hall, List.dropWhile_append_of_pos hall]
    simp
  simp only [splitOption, hspan]
  rw [← hname, String.ofList_toList, String.ofList_toList]

/-- What does not begin with two dashes, or has no equals sign, is not cut. -/
theorem splitOption_whole {text : String}
    (h : text.toList.head? ≠ some '-' ∨ '=' ∉ text.toList) :
    splitOption text = (text, none) := by
  rcases splitOption_cases text with hwhole | ⟨name, value, -, ⟨rest, hname, -⟩, rfl⟩
  · exact hwhole
  · simp [hname] at h

namespace CliFlag

/-- Asking for help or for the version ends the reading. -/
def EndsReading (flag : CliFlag) : Prop := flag = .help ∨ flag = .version

theorem ofName?_valued (o : ValuedOption) : ofName? o.name = some o.flag := by
  cases o <;> decide

theorem ofName?_switch (s : Switch) : ofName? s.name = some s.flag := by
  cases s <;> decide

/-- The options: two that end the reading, those with a value and the switches. -/
theorem cases_of_ofName? {name : String} {flag : CliFlag} (h : ofName? name = some flag) :
    flag.EndsReading ∨ (∃ o : ValuedOption, name = o.name ∧ flag = o.flag) ∨
      ∃ s : Switch, name = s.name ∧ flag = s.flag := by
  obtain ⟨before, after, htable, -⟩ := List.lookup_eq_some_iff.1 h
  have hentry : (name, flag) ∈ before ++ (name, flag) :: after := by simp
  rw [← htable] at hentry
  simp only [List.mem_cons, List.not_mem_nil, or_false, Prod.mk.injEq] at hentry
  rcases hentry with ⟨-, rfl⟩ | ⟨-, rfl⟩ | ⟨-, rfl⟩ | ⟨-, rfl⟩ | hentry
  · exact Or.inl (Or.inl rfl)
  · exact Or.inl (Or.inl rfl)
  · exact Or.inl (Or.inr rfl)
  · exact Or.inl (Or.inr rfl)
  · refine Or.inr ?_
    rcases hentry with h | h | h | h | h | h | h | h | h | h | h
    · exact Or.inl ⟨.config, h⟩
    · exact Or.inl ⟨.maxDepth, h⟩
    · exact Or.inr ⟨.hidden, h⟩
    · exact Or.inr ⟨.noIgnore, h⟩
    · exact Or.inl ⟨.type, h⟩
    · exact Or.inl ⟨.excludeType, h⟩
    · exact Or.inl ⟨.ext, h⟩
    · exact Or.inl ⟨.ignore, h⟩
    · exact Or.inl ⟨.common, h⟩
    · exact Or.inr ⟨.stats, h⟩
    · exact Or.inr ⟨.languages, h⟩

/-- Every option begins with a dash. -/
theorem head?_of_ofName? {name : String} {flag : CliFlag} (h : ofName? name = some flag) :
    name.toList.head? = some '-' := by
  obtain ⟨before, after, htable, -⟩ := List.lookup_eq_some_iff.1 h
  have hall : ∀ entry ∈ before ++ (name, flag) :: after, entry.1.toList.head? = some '-' := by
    rw [← htable]
    decide
  exact hall (name, flag) (by simp)

theorem not_endsReading_valued (o : ValuedOption) : ¬ o.flag.EndsReading := by
  cases o <;> simp [EndsReading, ValuedOption.flag]

theorem not_endsReading_switch (s : Switch) : ¬ s.flag.EndsReading := by
  cases s <;> simp [EndsReading, Switch.flag]

end CliFlag

namespace CliWord

def EndsReading : CliWord → Prop
  | option flag _ _ => flag.EndsReading
  | unknown _ | root _ => False

theorem ofText_value {name : String} {flag : CliFlag} (h : IsLongName name)
    (hflag : CliFlag.ofName? name = some flag) (value : String) :
    ofText (name ++ "=" ++ value) = .option flag name (some value) := by
  simp only [ofText, splitOption_value h, hflag]

theorem ofText_bare {name : String} {flag : CliFlag} (h : IsLongName name)
    (hflag : CliFlag.ofName? name = some flag) : ofText name = .option flag name none := by
  obtain ⟨rest, hname, hrest⟩ := h
  have hequals : '=' ∉ name.toList := by simp [hname, hrest]
  simp only [ofText, splitOption_whole (Or.inr hequals), hflag]

theorem ofText_root {text : String} (h : text.toList.head? ≠ some '-') :
    ofText text = .root ⟨text⟩ := by
  have hname : CliFlag.ofName? text = none :=
    Option.eq_none_iff_forall_ne_some.2 fun flag hflag => h (CliFlag.head?_of_ofName? hflag)
  simp only [ofText, splitOption_whole (Or.inl h), hname, if_neg h]

theorem ofText_valued (o : ValuedOption) (value : String) :
    ofText (o.name ++ "=" ++ value) = .option o.flag o.name (some value) :=
  ofText_value o.isLongName_name (CliFlag.ofName?_valued o) value

theorem ofText_switch (s : Switch) : ofText s.name = .option s.flag s.name none :=
  ofText_bare s.isLongName_name (CliFlag.ofName?_switch s)

theorem ofText_switch_value (s : Switch) (value : String) :
    ofText (s.name ++ "=" ++ value) = .option s.flag s.name (some value) :=
  ofText_value s.isLongName_name (CliFlag.ofName?_switch s) value

/-- What an argument can be. -/
theorem ofText_cases (text : String) :
    (∃ flag name, CliFlag.ofName? name = some flag ∧
      ((ofText text = .option flag name none ∧ text = name) ∨
        ∃ value, ofText text = .option flag name (some value) ∧ text = name ++ "=" ++ value)) ∨
      (∃ name, ofText text = .unknown name) ∨
        (ofText text = .root ⟨text⟩ ∧ text.toList.head? ≠ some '-') := by
  rcases splitOption_cases text with hsplit | ⟨name, value, hsplit, ⟨rest, hname, -⟩, htext⟩
  · cases hflag : CliFlag.ofName? text with
    | some flag => exact Or.inl ⟨flag, text, hflag, Or.inl ⟨by simp only [ofText, hsplit, hflag], rfl⟩⟩
    | none =>
        by_cases hdash : text.toList.head? = some '-'
        · exact Or.inr (Or.inl ⟨text, by simp only [ofText, hsplit, hflag, if_pos hdash]⟩)
        · exact Or.inr (Or.inr ⟨ofText_root hdash, hdash⟩)
  · cases hflag : CliFlag.ofName? name with
    | some flag =>
        exact Or.inl ⟨flag, name, hflag, Or.inr ⟨value, by simp only [ofText, hsplit, hflag], htext⟩⟩
    | none =>
        have hdash : name.toList.head? = some '-' := by rw [hname, List.head?_cons]
        exact Or.inr (Or.inl ⟨name, by simp only [ofText, hsplit, hflag, if_pos hdash]⟩)

end CliWord

/-! ### One argument more -/

namespace Arguments

open CliForm

variable {done : List CliForm} {a : Arguments}

/-- An option with a value adds it. -/
theorem addFlag_valued {o : ValuedOption} {value : String} (h : (valued o value).IsSound)
    (name : String) :
    (ofForms done).addFlag o.flag name (some value) = .ok (ofForms (done ++ [valued o value])) := by
  cases o with
  | maxDepth =>
      obtain ⟨n, hn⟩ := h
      have hread := readCount_eq_ok_iff.2 hn
      simp [addFlag, ValuedOption.flag, ofForms, hread, Except.toOption]
  | config | type | excludeType | ext | ignore | common =>
      simp [addFlag, ValuedOption.flag, ofForms]

/-- A switch is turned on, whatever stands behind it. -/
theorem addFlag_switch (s : Switch) (name : String) (value : Option String) :
    (ofForms done).addFlag s.flag name value = .ok (ofForms (done ++ [switch s])) := by
  cases s <;> simp [addFlag, Switch.flag, ofForms]

theorem add_root (h : roots done = []) (text : String) :
    (ofForms done).add (.root ⟨text⟩) = .ok (ofForms (done ++ [CliForm.root text])) := by
  simp [add, ofForms, h]

/-- An option that takes a value is refused without one. -/
theorem addFlag_without_value (o : ValuedOption) (name : String) :
    a.addFlag o.flag name none = .error (.valueMissing name) := by
  cases o <;> rfl

/-- A value that is taken is sound. -/
theorem isSound_of_addFlag {o : ValuedOption} {name value : String} {b : Arguments}
    (h : a.addFlag o.flag name (some value) = .ok b) : (valued o value).IsSound := by
  cases o with
  | maxDepth =>
      cases hread : readCount value with
      | ok n => exact ⟨n, readCount_eq_ok_iff.1 hread⟩
      | error fault => simp [addFlag, ValuedOption.flag, hread] at h
  | config | type | excludeType | ext | ignore | common => exact trivial

theorem roots_of_add_root {path : Path} {b : Arguments}
    (h : (ofForms done).add (.root path) = .ok b) : roots done = [] := by
  cases hroots : roots done with
  | nil => rfl
  | cons text rest => simp [add, ofForms, hroots] at h

end Arguments

namespace CliRequest

open CliForm

variable {done forms : List CliForm} {a b : Arguments} {text : String} {args rest : List String}

theorem parseFrom_cons_eq_run_iff :
    parseFrom a (text :: rest) = .ok (.run b) ↔
      ¬ (CliWord.ofText text).EndsReading ∧
        ∃ a', a.add (CliWord.ofText text) = .ok a' ∧ parseFrom a' rest = .ok (.run b) := by
  rw [parseFrom]
  split
  · next hword => simp [hword, CliWord.EndsReading, CliFlag.EndsReading]
  · next hword => simp [hword, CliWord.EndsReading, CliFlag.EndsReading]
  · next hhelp hversion =>
      have hgoes : ¬ (CliWord.ofText text).EndsReading := by
        cases hword : CliWord.ofText text with
        | unknown name => simp [CliWord.EndsReading]
        | root path => simp [CliWord.EndsReading]
        | option flag name value =>
            rintro (rfl | rfl)
            · exact hhelp _ _ hword
            · exact hversion _ _ hword
      rw [and_iff_right hgoes]
      cases a.add (CliWord.ofText text) <;> simp

/-- A sound form adds to what the forms before it ask for, unless it is a second root. -/
theorem add_of_spelledBy {f : CliForm} (hspelled : f.SpelledBy text) (hsound : f.IsSound)
    (hroots : (roots (done ++ [f])).length ≤ 1) :
    ¬ (CliWord.ofText text).EndsReading ∧
      (Arguments.ofForms done).add (CliWord.ofText text) = .ok (.ofForms (done ++ [f])) := by
  cases hspelled with
  | laxly s value =>
      rw [CliWord.ofText_switch_value]
      exact ⟨CliFlag.not_endsReading_switch s, Arguments.addFlag_switch s s.name (some value)⟩
  | exactly f =>
      cases f with
      | valued o value =>
          rw [CliForm.text, CliWord.ofText_valued]
          exact ⟨CliFlag.not_endsReading_valued o, Arguments.addFlag_valued hsound o.name⟩
      | switch s =>
          rw [CliForm.text, CliWord.ofText_switch]
          exact ⟨CliFlag.not_endsReading_switch s, Arguments.addFlag_switch s s.name none⟩
      | root path =>
          have hfirst : roots done = [] := by simpa using hroots
          have hword : CliWord.ofText (CliForm.root path).text = .root ⟨path⟩ :=
            CliWord.ofText_root hsound
          rw [hword]
          exact ⟨id, Arguments.add_root hfirst path⟩

/-- What is added is a sound form. -/
theorem spelledBy_of_add (hgoes : ¬ (CliWord.ofText text).EndsReading)
    (hadd : (Arguments.ofForms done).add (CliWord.ofText text) = .ok b) :
    ∃ f : CliForm, f.SpelledBy text ∧ f.IsSound ∧
      ((roots done).length ≤ 1 → (roots (done ++ [f])).length ≤ 1) := by
  rcases CliWord.ofText_cases text with ⟨flag, name, hflag, hword⟩ | ⟨name, hword⟩ | ⟨hword, hdash⟩
  · rcases CliFlag.cases_of_ofName? hflag with hends | ⟨o, rfl, rfl⟩ | ⟨s, rfl, rfl⟩
    · rcases hword with ⟨hword, -⟩ | ⟨value, hword, -⟩
      · exact absurd hends (by simpa [hword, CliWord.EndsReading] using hgoes)
      · exact absurd hends (by simpa [hword, CliWord.EndsReading] using hgoes)
    · rcases hword with ⟨hword, -⟩ | ⟨value, hword, htext⟩
      · rw [hword, Arguments.add, Arguments.addFlag_without_value] at hadd
        cases hadd
      · rw [hword, Arguments.add] at hadd
        exact ⟨valued o value, htext ▸ .exactly _, Arguments.isSound_of_addFlag hadd, by simp⟩
    · refine ⟨switch s, ?_, trivial, by simp⟩
      rcases hword with ⟨-, rfl⟩ | ⟨value, -, rfl⟩
      · exact .exactly (switch s)
      · exact .laxly s value
  · rw [hword, Arguments.add] at hadd
    cases hadd
  · rw [hword] at hadd
    exact ⟨root text, .exactly (root text), hdash, fun _ => by simp [Arguments.roots_of_add_root hadd]⟩

/-- **One argument more.**  An argument adds to what forms ask for if and only if it is read as a form
that may follow them. -/
theorem add_eq_ok_iff (hdone : (roots done).length ≤ 1) :
    (¬ (CliWord.ofText text).EndsReading ∧
        (Arguments.ofForms done).add (CliWord.ofText text) = .ok b) ↔
      ∃ f : CliForm, f.SpelledBy text ∧ f.IsSound ∧ (roots (done ++ [f])).length ≤ 1 ∧
        b = .ofForms (done ++ [f]) := by
  constructor
  · rintro ⟨hgoes, hadd⟩
    obtain ⟨f, hspelled, hsound, hroots⟩ := spelledBy_of_add hgoes hadd
    obtain ⟨-, hform⟩ := add_of_spelledBy hspelled hsound (hroots hdone)
    rw [hadd] at hform
    exact ⟨f, hspelled, hsound, hroots hdone, Except.ok.inj hform⟩
  · rintro ⟨f, hspelled, hsound, hroots, rfl⟩
    exact add_of_spelledBy hspelled hsound hroots

/-! ### Whole command lines -/

/-- The rest of a command line, after what `done` asks for. -/
theorem parseFrom_eq_run_iff (hdone : (roots done).length ≤ 1) :
    parseFrom (.ofForms done) args = .ok (.run a) ↔
      ∃ forms : List CliForm, List.Forall₂ SpelledBy forms args ∧ (∀ f ∈ forms, f.IsSound) ∧
        (roots (done ++ forms)).length ≤ 1 ∧ a = .ofForms (done ++ forms) := by
  induction args generalizing done with
  | nil => simpa [parseFrom, hdone] using eq_comm
  | cons text rest ih =>
      rw [parseFrom_cons_eq_run_iff]
      constructor
      · rintro ⟨hgoes, b, hadd, hrest⟩
        obtain ⟨f, hspelled, hsound, hroots, rfl⟩ := (add_eq_ok_iff hdone).1 ⟨hgoes, hadd⟩
        obtain ⟨forms, hforms, hall, hone, rfl⟩ := (ih hroots).1 hrest
        refine ⟨f :: forms, .cons hspelled hforms, List.forall_mem_cons.2 ⟨hsound, hall⟩, ?_, ?_⟩
        · simpa using hone
        · simp
      · rintro ⟨all, hspelled, hall, hone, rfl⟩
        obtain ⟨f, forms, hf, hforms, rfl⟩ := List.forall₂_cons_right_iff.1 hspelled
        obtain ⟨hsound, hall⟩ := List.forall_mem_cons.1 hall
        have happend : done ++ f :: forms = done ++ [f] ++ forms := by simp
        rw [happend] at hone
        have hroots : (roots (done ++ [f])).length ≤ 1 := by
          rw [roots_append, List.length_append] at hone
          omega
        obtain ⟨hgoes, hadd⟩ := add_of_spelledBy hf hsound hroots
        exact ⟨hgoes, _, hadd, (ih hroots).2 ⟨forms, hforms, hall, hone, congrArg _ happend⟩⟩

/-- **The command lines that are run.** -/
theorem parse_eq_run_iff :
    parse args = .ok (.run a) ↔
      ∃ forms, IsCommandLine forms ∧ List.Forall₂ SpelledBy forms args ∧ a = .ofForms forms := by
  have hinitial : Arguments.initial = .ofForms [] := rfl
  rw [parse, hinitial, parseFrom_eq_run_iff (by decide)]
  constructor
  · rintro ⟨forms, hforms, hall, hone, ha⟩
    exact ⟨forms, ⟨hall, hone⟩, hforms, ha⟩
  · rintro ⟨forms, hline, hforms, ha⟩
    exact ⟨forms, hforms, hline.sound, hline.oneRoot, ha⟩

/-- Forms written down are read as they are meant. -/
theorem parse_forms (h : IsCommandLine forms) :
    parse (forms.map CliForm.text) = .ok (.run (.ofForms forms)) := by
  refine parse_eq_run_iff.2 ⟨forms, h, ?_, rfl⟩
  exact List.forall₂_map_right_iff.2 (List.forall₂_same.2 fun f _ => .exactly f)

/-! ### Values that say nothing -/

/-- The text of a sound form is no switch with a value. -/
theorem text_ne_switch_value {f : CliForm} (h : f.IsSound) (s : Switch) (value : String) :
    f.text ≠ s.name ++ "=" ++ value := by
  have hswitch := CliWord.ofText_switch_value s value
  intro htext
  rw [← htext] at hswitch
  cases f with
  | valued o v =>
      rw [CliForm.text, CliWord.ofText_valued] at hswitch
      have hflag : o.flag = s.flag := (CliWord.option.inj hswitch).1
      cases o <;> cases s <;> cases hflag
  | switch s' =>
      rw [CliForm.text, CliWord.ofText_switch] at hswitch
      cases (CliWord.option.inj hswitch).2.2
  | root text =>
      have hroot : CliWord.ofText (CliForm.root text).text = .root ⟨text⟩ := CliWord.ofText_root h
      rw [hroot] at hswitch
      cases hswitch

/-- Without values behind switches, arguments are the texts of the forms they are read as. -/
theorem eq_map_text_of_spelledBy (h : List.Forall₂ SpelledBy forms args)
    (hbare : ∀ (s : Switch) (value : String), s.name ++ "=" ++ value ∉ args) :
    args = forms.map CliForm.text := by
  induction h with
  | nil => rfl
  | cons hspelled _ ih =>
      simp only [List.mem_cons, not_or] at hbare
      rw [List.map_cons, ← ih fun s value => (hbare s value).2]
      cases hspelled with
      | exactly f => rfl
      | laxly s value => exact absurd rfl (hbare s value).1

/-- The options that take no value, as far as they are written with two dashes. -/
def TakesNoValue (name : String) : Prop :=
  name = "--help" ∨ name = "--version" ∨ ∃ s : Switch, name = s.name

theorem TakesNoValue.isLongName {name : String} (h : TakesNoValue name) : IsLongName name := by
  rcases h with rfl | rfl | ⟨s, rfl⟩
  · exact ⟨_, rfl, by decide⟩
  · exact ⟨_, rfl, by decide⟩
  · exact s.isLongName_name

/-- Such an option does the same with a value as without one. -/
theorem TakesNoValue.exists_flag {name : String} (h : TakesNoValue name) :
    ∃ flag, CliFlag.ofName? name = some flag ∧
      ∀ (a : Arguments) (value : Option String), a.addFlag flag name value = a.addFlag flag name none := by
  rcases h with rfl | rfl | ⟨s, rfl⟩
  · exact ⟨.help, by decide, fun _ _ => rfl⟩
  · exact ⟨.version, by decide, fun _ _ => rfl⟩
  · exact ⟨s.flag, CliFlag.ofName?_switch s, fun _ _ => by cases s <;> rfl⟩

theorem parseFrom_value {name : String} (h : TakesNoValue name) (value : String) :
    parseFrom a ((name ++ "=" ++ value) :: rest) = parseFrom a (name :: rest) := by
  obtain ⟨flag, hflag, hadd⟩ := h.exists_flag
  rw [parseFrom, parseFrom, CliWord.ofText_value h.isLongName hflag value,
    CliWord.ofText_bare h.isLongName hflag]
  cases flag <;> simp only [Arguments.add, hadd]

theorem parseFrom_append_congr {text' : String} (before : List String)
    (h : ∀ a, parseFrom a (text :: rest) = parseFrom a (text' :: rest)) :
    parseFrom a (before ++ text :: rest) = parseFrom a (before ++ text' :: rest) := by
  induction before generalizing a with
  | nil => exact h a
  | cons arg before ih => simp only [List.cons_append, parseFrom, ih]

/-- **What a command line may consist of.**  It is run if and only if its arguments are read as sound
forms with at most one root, and then it asks for what the forms ask for together.  The arguments are
the texts of the forms, unless a switch carries a value: then the value says nothing.  An option that
takes no value does the same with a value behind it, wherever it stands. -/
theorem accepted_forms (args : List String) :
    (∀ a, parse args = .ok (.run a) ↔
      ∃ forms, IsCommandLine forms ∧ List.Forall₂ SpelledBy forms args ∧ a = .ofForms forms) ∧
    (∀ a, parse args = .ok (.run a) →
      ((∃ forms, IsCommandLine forms ∧ args = forms.map CliForm.text ∧ a = .ofForms forms) ↔
        ∀ (s : Switch) (value : String), s.name ++ "=" ++ value ∉ args)) ∧
    (∀ name, TakesNoValue name → ∀ before value after, args = before ++ (name ++ "=" ++ value) :: after →
      parse args = parse (before ++ name :: after)) := by
  refine ⟨fun a => parse_eq_run_iff, fun a hrun => ⟨?_, fun hbare => ?_⟩, ?_⟩
  · rintro ⟨forms, hline, rfl, -⟩ s value hmem
    obtain ⟨f, hf, htext⟩ := List.mem_map.1 hmem
    exact text_ne_switch_value (hline.sound f hf) s value htext
  · obtain ⟨forms, hline, hspelled, ha⟩ := parse_eq_run_iff.1 hrun
    exact ⟨forms, hline, eq_map_text_of_spelledBy hspelled hbare, ha⟩
  · rintro name hname before value after rfl
    exact parseFrom_append_congr before fun a => parseFrom_value hname value

/-- Not every command line that is run has the documented forms: `--hidden=false` is run, and dot files
are admitted. -/
theorem not_forall_accepted_documented :
    ¬ ∀ (args : List String) (a : Arguments), parse args = .ok (.run a) →
      ∃ forms, IsCommandLine forms ∧ args = forms.map CliForm.text ∧ a = .ofForms forms := by
  intro h
  have hrun : parse ["--hidden=false"] = .ok (.run { Arguments.initial with hidden := true }) := by
    decide +kernel
  obtain ⟨forms, hline, hargs, -⟩ := h _ _ hrun
  have hmem : "--hidden=false" ∈ forms.map CliForm.text := by simp [← hargs]
  obtain ⟨f, hf, htext⟩ := List.mem_map.1 hmem
  exact text_ne_switch_value (hline.sound f hf) .hidden "false" htext

end CliRequest

end Forage

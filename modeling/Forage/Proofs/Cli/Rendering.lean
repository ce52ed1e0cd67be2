/-
**Command lines that ask for given arguments.**

Arguments are written as one form for every value, one for every switch that is on, and the root.
Whichever way these are mixed, the arguments are read back, as long as the values of an option that
may be repeated keep their order.  Values may be any texts: an argument is cut at its first equals
sign, so that the rest of it is the value, whatever stands there; and a root may hold an equals sign,
because only what begins with two dashes is cut.  A root that begins with a dash cannot be written.

Main definitions:

* `Arguments.given`, `Arguments.isOn`, `Arguments.forms` — the forms that arguments are written as;
* `Arguments.Interleaved` — these forms, mixed.

Main results:

* `isCount_toString` — a number that is written is the count that is read;
* `Arguments.Interleaved.ofForms_eq` — mixed forms ask for the arguments together;
* `CliRequest.parse_interleaved` — **arguments that are written are read back**.
-/

import Forage.Proofs.Cli.Forms

set_option relaxedAutoImplicit false
set_option autoImplicit false

namespace Forage

/-- A number is written as the count that is read. -/
theorem isCount_toString (n : UInt64) : IsCount (toString n) n := by
  have hdigits : (toString n).toList = Nat.toDigits 10 n.toNat := by
    have htext : toString n = toString n.toNat := rfl
    rw [htext, Nat.toString_eq_ofList_toDigits, String.toList_ofList]
  refine ⟨_, Nat.toDigits_ne_nil, fun c hc => ?_, Nat.ofDigitChars_ten_toDigits, Or.inl hdigits⟩
  exact Nat.isDigit_of_mem_toDigits (by decide) (by decide) hc

/-! ### The forms of arguments -/

def ValuedOption.all : List ValuedOption :=
  [.config, .maxDepth, .type, .excludeType, .ext, .ignore, .common]

def Switch.all : List Switch := [.hidden, .noIgnore, .stats, .languages]

namespace CliForm

variable {α : Type}

theorem values_map_valued (o o' : ValuedOption) (texts : List String) :
    values o (texts.map (valued o')) = if o' = o then texts else [] := by
  unfold values
  split <;> simp [*, List.filterMap_map]

@[simp] theorem values_map_switch (o : ValuedOption) (switches : List Switch) :
    values o (switches.map switch) = [] := by
  simp [values]

end CliForm

namespace Arguments

open CliForm

/-- The values that are given to an option. -/
def given (a : Arguments) : ValuedOption → List String
  | .config => (a.config.map Path.text).toList
  | .maxDepth => (a.maxDepth.map toString).toList
  | .type => a.types
  | .excludeType => a.excludeTypes
  | .ext => a.extensions
  | .ignore => a.ignores
  | .common => a.common

def isOn (a : Arguments) : Switch → Bool
  | .hidden => a.hidden
  | .noIgnore => a.noIgnore
  | .stats => a.stats
  | .languages => a.languages

/-- What arguments are written as: their values, the switches that are on, and the root. -/
def forms (a : Arguments) : List CliForm :=
  (ValuedOption.all.flatMap fun o => (a.given o).map (valued o)) ++
    (Switch.all.filter a.isOn).map switch ++ (a.root.map fun p => CliForm.root p.text).toList

/-- The forms of arguments in any order that leaves the values of each option in theirs. -/
structure Interleaved (a : Arguments) (mixed : List CliForm) : Prop where
  perm : mixed.Perm a.forms
  inOrder : ∀ o, values o mixed = values o a.forms

variable {a : Arguments} {mixed : List CliForm}

theorem values_forms (a : Arguments) (o : ValuedOption) : values o a.forms = a.given o := by
  have hroot : values o (a.root.map fun p => CliForm.root p.text).toList = [] := by
    cases a.root <;> rfl
  cases o <;> simp [forms, ValuedOption.all, values_map_valued, hroot]

theorem roots_forms (a : Arguments) : roots a.forms = (a.root.map Path.text).toList := by
  have hvalues : roots (ValuedOption.all.flatMap fun o => (a.given o).map (valued o)) = [] := by
    refine List.filterMap_eq_nil_iff.2 fun f hf => ?_
    obtain ⟨o, -, hf⟩ := List.mem_flatMap.1 hf
    obtain ⟨value, -, rfl⟩ := List.mem_map.1 hf
    rfl
  have hswitches : roots ((Switch.all.filter a.isOn).map switch) = [] := by
    simp [roots]
  rw [forms, roots_append, roots_append, hvalues, hswitches]
  cases a.root <;> rfl

theorem contains_switch_forms (a : Arguments) (s : Switch) :
    a.forms.contains (switch s) = a.isOn s := by
  have hall : s ∈ Switch.all := by cases s <;> decide
  rw [Bool.eq_iff_iff, List.contains_iff_mem]
  simp [forms, hall]

/-- What arguments are written as is a command line, unless the root begins with a dash. -/
theorem isCommandLine_forms (h : ∀ p, a.root = some p → p.text.toList.head? ≠ some '-') :
    IsCommandLine a.forms where
  sound f hf := by
    rcases List.mem_append.1 hf with hf | hf
    · rcases List.mem_append.1 hf with hf | hf
      · obtain ⟨o, -, hf⟩ := List.mem_flatMap.1 hf
        obtain ⟨value, hvalue, rfl⟩ := List.mem_map.1 hf
        cases o with
        | maxDepth =>
            obtain ⟨n, -, rfl⟩ := Option.map_eq_some_iff.1 (Option.mem_toList.1 hvalue)
            exact ⟨n, isCount_toString n⟩
        | config | type | excludeType | ext | ignore | common => exact trivial
      · obtain ⟨s, -, rfl⟩ := List.mem_map.1 hf
        exact trivial
    · obtain ⟨p, hp, rfl⟩ := Option.map_eq_some_iff.1 (Option.mem_toList.1 hf)
      exact h p hp
  oneRoot := by
    rw [roots_forms]
    cases a.root <;> simp

namespace Interleaved

theorem values_eq (h : a.Interleaved mixed) (o : ValuedOption) : values o mixed = a.given o := by
  rw [h.inOrder, values_forms]

/-- There is at most one root, so that mixing does not change the roots. -/
theorem roots_eq (h : a.Interleaved mixed) : roots mixed = (a.root.map Path.text).toList := by
  have hperm : (roots mixed).Perm (a.root.map Path.text).toList := by
    rw [← roots_forms]
    exact h.perm.filterMap _
  cases hroot : a.root with
  | none =>
      rw [hroot] at hperm
      exact hperm.eq_nil
  | some p =>
      rw [hroot] at hperm
      exact List.perm_singleton.1 hperm

theorem contains_eq (h : a.Interleaved mixed) (s : Switch) :
    mixed.contains (switch s) = a.isOn s := by
  rw [← contains_switch_forms, Bool.eq_iff_iff, List.contains_iff_mem, List.contains_iff_mem]
  exact h.perm.mem_iff

theorem isCommandLine (h : a.Interleaved mixed)
    (hroot : ∀ p, a.root = some p → p.text.toList.head? ≠ some '-') : IsCommandLine mixed where
  sound f hf := (isCommandLine_forms hroot).sound f (h.perm.mem_iff.1 hf)
  oneRoot := by
    have hone := (isCommandLine_forms hroot).oneRoot
    rwa [roots_forms, ← h.roots_eq] at hone

/-- **The forms of arguments ask for the arguments, however they are mixed.** -/
theorem ofForms_eq (h : a.Interleaved mixed) : ofForms mixed = a := by
  have hdepth : (a.given .maxDepth).getLast?.bind (fun v => (readCount v).toOption) = a.maxDepth := by
    cases hn : a.maxDepth with
    | none => simp [given, hn]
    | some n =>
        have hread := readCount_eq_ok_iff.2 (isCount_toString n)
        simp [given, hn, hread, Except.toOption]
  have hconfig : (a.given .config).getLast?.map Path.mk = a.config := by
    cases hp : a.config <;> simp [given, hp]
  have hroot : (a.root.map Path.text).toList.head?.map Path.mk = a.root := by
    cases hp : a.root <;> simp
  simp only [ofForms, h.values_eq, h.roots_eq, h.contains_eq, hdepth, hconfig, hroot]
  rfl

end Interleaved

end Arguments

/-- **Arguments that are written are read back.**  Whatever texts the values are, and however the
arguments are mixed, if those of one option keep their order: the command line is run with exactly
these arguments. -/
theorem CliRequest.parse_interleaved {a : Arguments} {mixed : List CliForm}
    (hroot : ∀ p, a.root = some p → p.text.toList.head? ≠ some '-') (h : a.Interleaved mixed) :
    parse (mixed.map CliForm.text) = .ok (.run a) := by
  rw [parse_forms (h.isCommandLine hroot), h.ofForms_eq]

/-- Arguments with values that look like something else: options, equals signs, line feeds, nothing at
all; with the greatest depth, and a root with an equals sign. -/
def Arguments.tricky : Arguments :=
  { root := some ⟨"a=--stats"⟩
    config := some ⟨""⟩
    maxDepth := some 18446744073709551615
    hidden := true
    noIgnore := false
    types := ["--hidden", "=", "--hidden"]
    excludeTypes := []
    extensions := ["-"]
    ignores := ["!a\nb", "*.log"]
    common := ["node"]
    stats := true
    languages := false }

/-- These arguments, mixed. -/
theorem CliRequest.parse_interleaved_tricky :
    (∀ p, Arguments.tricky.root = some p → p.text.toList.head? ≠ some '-') ∧
      parse ["--ignore=!a\nb", "a=--stats", "--type=--hidden", "--stats", "--type==", "--common=node",
          "--max-depth=18446744073709551615", "--ignore=*.log", "--config=", "--ext=-", "--hidden",
          "--type=--hidden"] = .ok (.run .tricky) := by
  have hroot : ∀ p, Arguments.tricky.root = some p → p.text.toList.head? ≠ some '-' := by
    intro p hp
    obtain rfl : ⟨"a=--stats"⟩ = p := Option.some_inj.1 hp
    decide
  have hmixed : Arguments.tricky.Interleaved
      [.valued .ignore "!a\nb", .root "a=--stats", .valued .type "--hidden", .switch .stats,
        .valued .type "=", .valued .common "node", .valued .maxDepth "18446744073709551615",
        .valued .ignore "*.log", .valued .config "", .valued .ext "-", .switch .hidden,
        .valued .type "--hidden"] :=
    ⟨by decide +kernel, fun o => by cases o <;> decide +kernel⟩
  exact ⟨hroot, parse_interleaved hroot hmixed⟩

end Forage

/-
**A file of rules, line by line.**

A line gives at most one rule, and which one depends on what is left of the line without the blanks
at its ends, and on its number.  Nothing is carried from one line to the next but the number.  So the
rules of two texts with a line feed between them are those of the first and then those of the second,
further down by the lines of the first.

Lines are counted as they are elsewhere: a carriage return before a line feed belongs to the end of
the line, and a line feed at the very end of the text begins no further line.  Neither shows in the
rules, because a carriage return is blank and an empty line gives no rule.

Main definitions:

* `Text.lines` — the lines of a text;
* `Rule.moved` — a rule some lines further down;
* `RuleFile.Yields` — what it takes for a line to give a rule.

Main results:

* `RuleFile.rules_parse_append` — the rules of two texts with a line feed between them;
* `RuleFile.mem_rules_parse_iff` — each rule stands in the line that it has the number of;
* `RuleFile.parse_line_by_line` — **no line affects the rules or the numbers of another**.
-/

import Mathlib.Data.List.TakeWhile
import Forage.Ignore.RuleFile

set_option relaxedAutoImplicit false
set_option autoImplicit false

namespace Forage

/-! ### Lines -/

namespace Text

/-- Blanks at the ends do not show once a text is trimmed. -/
theorem trimChars_append_of_blank {before after : List Char} (line : List Char)
    (hbefore : ∀ c ∈ before, isBlank c = true) (hafter : ∀ c ∈ after, isBlank c = true) :
    trimChars (before ++ line ++ after) = trimChars line := by
  have hdropped : after.dropWhile isBlank = [] := List.dropWhile_eq_nil_iff.2 hafter
  rw [trimChars, trimChars, List.append_assoc, List.dropWhile_append_of_pos hbefore,
    List.dropWhile_append]
  split
  · next hempty => rw [hdropped, List.isEmpty_iff.1 hempty]
  · rw [dropTail, dropTail, List.reverse_append,
      List.dropWhile_append_of_pos fun c hc => hafter c (List.mem_reverse.1 hc)]

/-- A line without the carriage return at its end. -/
def dropReturn (line : List Char) : List Char :=
  if line.getLast? = some '\r' then line.dropLast else line

/-- The lines that the parts of a text between its line feeds make.  What stands after the last line
feed is a line unless it is empty. -/
def linesOfParts : List (List Char) → List (List Char)
  | [] => []
  | [last] => if last = [] then [] else [last]
  | part :: next :: more => dropReturn part :: linesOfParts (next :: more)

/-- The lines of a text.  A carriage return before a line feed belongs to the end of the line. -/
def lines (cs : List Char) : List (List Char) := linesOfParts (splitOn '\n' cs)

theorem trimChars_dropReturn (line : List Char) : trimChars (dropReturn line) = trimChars line := by
  unfold dropReturn
  split
  · next hlast =>
      obtain ⟨front, rfl⟩ := List.getLast?_eq_some_iff.1 hlast
      have hreturn : ∀ c ∈ ['\r'], isBlank c = true := List.forall_mem_singleton.2 (by decide)
      rw [List.dropLast_concat]
      exact (@trimChars_append_of_blank [] ['\r'] front (by simp) hreturn).symm
  · rfl

/-- A text has one part more than line feeds. -/
theorem length_splitOn (sep : Char) (cs : List Char) :
    (splitOn sep cs).length = cs.count sep + 1 := by
  induction cs with
  | nil => rfl
  | cons c rest ih =>
      rw [splitOn]
      split
      · next hc => rw [List.length_cons, ih, hc, List.count_cons_self]
      · next hc => rw [List.length_modifyHead, ih, List.count_cons_of_ne hc]

end Text

/-! ### The rules of lines -/

namespace Rule

/-- A rule some lines further down. -/
def moved (n : Nat) (r : Rule) : Rule := { r with line := r.line + n }

/-- The rule of a pattern that is written further down is its rule, further down. -/
theorem map_moved_parse (n : Nat) (pattern source : String) (line : Nat) :
    (parse pattern source line).map (moved n) = parse pattern source (line + n) := by
  cases h : parse pattern source line with
  | error fault =>
      rw [← map_placed_parse pattern source source line, h]
      rfl
  | ok r =>
      rw [← map_placed_parse pattern source source line, h, ← placed_of_parse h]
      rfl

theorem line_of_parse {pattern source : String} {line : Nat} {r : Rule}
    (h : parse pattern source line = .ok r) : r.line = line := by
  rw [← placed_of_parse h]
  rfl

end Rule

namespace RuleFile

open Text

/-- A line yields a rule: it is neither blank nor a comment, and without the blanks at its ends it is
the pattern of the rule. -/
def Yields (source : String) (number : Nat) (line : List Char) (r : Rule) : Prop :=
  trimChars line ≠ [] ∧ (trimChars line).head? ≠ some '#' ∧
    Rule.parse (String.ofList (trimChars line)) source number = .ok r

theorem ruleOfLine?_eq_some_iff {source : String} {number : Nat} {line : List Char} {r : Rule} :
    ruleOfLine? source number line = some r ↔ Yields source number line r := by
  unfold ruleOfLine? Yields
  split
  · next hnil => simp [hnil]
  · next hcomment => simp [hcomment]
  · next hnil hcomment =>
      have hhead : (trimChars line).head? ≠ some '#' := by
        cases htrim : trimChars line with
        | nil => simp
        | cons c rest =>
            rintro hc
            obtain rfl : c = '#' := by simpa using hc
            exact hcomment rest htrim
      rw [and_iff_right hnil, and_iff_right hhead]
      split
      · next rule hrule => rw [hrule, Option.some_inj, Except.ok.injEq]
      · next fault hfault => simp [hfault]

theorem Yields.line_eq {source : String} {number : Nat} {line : List Char} {r : Rule}
    (h : Yields source number line r) : r.line = number := Rule.line_of_parse h.2.2

/-- What a line gives further down is what it gives, further down. -/
theorem map_moved_ruleOfLine? (n : Nat) (source : String) (number : Nat) (line : List Char) :
    (ruleOfLine? source number line).map (Rule.moved n) =
      ruleOfLine? source (number + n) line := by
  unfold ruleOfLine?
  split
  · rfl
  · rfl
  · rw [← Rule.map_moved_parse]
    cases Rule.parse (String.ofList (trimChars line)) source number <;> rfl

/-- Lines that are the same without the blanks at their ends give the same. -/
theorem ruleOfLine?_congr {line line' : List Char} (h : trimChars line = trimChars line')
    (source : String) (number : Nat) :
    ruleOfLine? source number line = ruleOfLine? source number line' := by
  rw [ruleOfLine?, ruleOfLine?, h]

theorem rulesFrom_append (source : String) (number : Nat) (lines more : List (List Char)) :
    rulesFrom source number (lines ++ more) =
      rulesFrom source number lines ++ rulesFrom source (number + lines.length) more := by
  induction lines generalizing number with
  | nil => rfl
  | cons line lines ih =>
      have hnumber : number + 1 + lines.length = number + (line :: lines).length := by
        rw [List.length_cons]
        omega
      rw [List.cons_append, rulesFrom, rulesFrom, ih, hnumber, List.append_assoc]

theorem rulesFrom_add (n : Nat) (source : String) (number : Nat) (lines : List (List Char)) :
    rulesFrom source (number + n) lines = (rulesFrom source number lines).map (Rule.moved n) := by
  induction lines generalizing number with
  | nil => rfl
  | cons line lines ih =>
      rw [rulesFrom, rulesFrom, List.map_append, ← Option.toList_map, map_moved_ruleOfLine?, ← ih,
        Nat.add_right_comm]

/-- The rules of a text are those of its lines. -/
theorem rulesFrom_linesOfParts (source : String) (number : Nat) (parts : List (List Char)) :
    rulesFrom source number (linesOfParts parts) = rulesFrom source number parts := by
  induction parts generalizing number with
  | nil => rfl
  | cons part more ih =>
      cases more with
      | nil =>
          rw [linesOfParts]
          split
          · next hempty => rw [hempty]; rfl
          · rfl
      | cons next more =>
          rw [linesOfParts, rulesFrom, rulesFrom, ih,
            ruleOfLine?_congr (trimChars_dropReturn part)]

theorem rules_parse_eq_lines (source content : String) :
    (parse source content).rules = rulesFrom source 1 (lines content.toList) :=
  (rulesFrom_linesOfParts source 1 _).symm

/-- A rule of some lines is given by the line that it has the number of. -/
theorem mem_rulesFrom_iff {source : String} {number : Nat} {lines : List (List Char)} {r : Rule} :
    r ∈ rulesFrom source number lines ↔
      number ≤ r.line ∧ ∃ line, lines[r.line - number]? = some line ∧
        Yields source r.line line r := by
  induction lines generalizing number with
  | nil => simp [rulesFrom]
  | cons line lines ih =>
      rw [rulesFrom, List.mem_append, Option.mem_toList, ruleOfLine?_eq_some_iff, ih]
      constructor
      · rintro (hyields | ⟨hle, found, hfound, hyields⟩)
        · refine ⟨hyields.line_eq.ge, line, ?_, hyields.line_eq.symm ▸ hyields⟩
          rw [hyields.line_eq, Nat.sub_self]
          rfl
        · refine ⟨by omega, found, ?_, hyields⟩
          have hsub : r.line - number = r.line - (number + 1) + 1 := by omega
          rw [hsub, List.getElem?_cons_succ, hfound]
      · rintro ⟨hle, found, hfound, hyields⟩
        rcases Nat.eq_or_lt_of_le hle with heq | hlt
        · rw [heq, Nat.sub_self, List.getElem?_cons_zero, Option.some_inj] at hfound
          exact Or.inl (hfound ▸ heq ▸ hyields)
        · have hsub : r.line - number = r.line - (number + 1) + 1 := by omega
          rw [hsub, List.getElem?_cons_succ] at hfound
          exact Or.inr ⟨hlt, found, hfound, hyields⟩

/-- The numbers of the lines go up. -/
theorem pairwise_rulesFrom (source : String) (number : Nat) (lines : List (List Char)) :
    (rulesFrom source number lines).Pairwise fun r s => r.line < s.line := by
  induction lines generalizing number with
  | nil => exact List.Pairwise.nil
  | cons line lines ih =>
      rw [rulesFrom, List.pairwise_append]
      refine ⟨?_, ih (number + 1), fun r hr s hs => ?_⟩
      · cases ruleOfLine? source number line with
        | none => exact List.Pairwise.nil
        | some r => exact List.pairwise_singleton _ r
      · rw [Option.mem_toList, ruleOfLine?_eq_some_iff] at hr
        have hlater : number + 1 ≤ s.line := (mem_rulesFrom_iff.1 hs).1
        rw [hr.line_eq]
        omega

/-! ### The rules of a text -/

/-- **The rules of two texts with a line feed between them** are those of the first and, further
down by its lines, those of the second. -/
theorem rules_parse_append (source a b : String) :
    (parse source (a ++ "\n" ++ b)).rules =
      (parse source a).rules ++
        (parse source b).rules.map (Rule.moved (1 + a.toList.count '\n')) := by
  have hparts : splitOn '\n' (a ++ "\n" ++ b).toList =
      splitOn '\n' a.toList ++ splitOn '\n' b.toList := by
    simpa using splitOn_append_cons '\n' a.toList b.toList
  rw [parse, hparts, rulesFrom_append, length_splitOn, Nat.add_comm _ 1, rulesFrom_add]
  rfl

/-- A text without a line feed is one line. -/
theorem rules_parse_line (source line : String) (h : '\n' ∉ line.toList) :
    (parse source line).rules = (ruleOfLine? source 1 line.toList).toList := by
  rw [parse, splitOn_of_not_mem h, rulesFrom, rulesFrom, List.append_nil]

/-- **Each rule stands in the line that it has the number of.** -/
theorem mem_rules_parse_iff {source content : String} {r : Rule} :
    r ∈ (parse source content).rules ↔
      0 < r.line ∧ ∃ line, (lines content.toList)[r.line - 1]? = some line ∧
        Yields source r.line line r := by
  rw [rules_parse_eq_lines, mem_rulesFrom_iff]
  rfl

/-- **No line affects the rules or the numbers of another.**  The rules of two texts with a line feed
between them are those of the first and, further down by its lines, those of the second.  A line
between them adds the rule that it gives, if it gives one, and moves what follows down by one more,
whatever it holds.  It gives one if it is neither blank nor a comment and is a pattern that is not
refused; blanks at its ends, such as the carriage return before a line feed, do not show.  So each
rule of a text stands in the line that it has the number of, and the numbers go up. -/
theorem parse_line_by_line (source a b : String) :
    (parse source (a ++ "\n" ++ b)).rules =
        (parse source a).rules ++
          (parse source b).rules.map (Rule.moved (1 + a.toList.count '\n')) ∧
      (∀ line : String, '\n' ∉ line.toList →
        (parse source line).rules = (ruleOfLine? source 1 line.toList).toList ∧
        (parse source (a ++ "\n" ++ line ++ "\n" ++ b)).rules =
          (parse source a).rules ++
            (ruleOfLine? source (2 + a.toList.count '\n') line.toList).toList ++
              (parse source b).rules.map (Rule.moved (2 + a.toList.count '\n'))) ∧
      (∀ number line r, ruleOfLine? source number line = some r ↔ Yields source number line r) ∧
      (∀ number before line after, (∀ c ∈ before, isBlank c = true) →
        (∀ c ∈ after, isBlank c = true) →
          ruleOfLine? source number (before ++ line ++ after) = ruleOfLine? source number line) ∧
      (∀ r, r ∈ (parse source a).rules ↔
        0 < r.line ∧ ∃ line, (lines a.toList)[r.line - 1]? = some line ∧
          Yields source r.line line r) ∧
      (parse source a).rules.Pairwise fun r s => r.line < s.line := by
  refine ⟨rules_parse_append source a b, fun line hline => ⟨rules_parse_line source line hline, ?_⟩,
    fun _ _ _ => ruleOfLine?_eq_some_iff, fun number _ line _ hbefore hafter =>
      ruleOfLine?_congr (trimChars_append_of_blank line hbefore hafter) source number,
    fun _ => mem_rules_parse_iff, pairwise_rulesFrom source 1 _⟩
  have hcount : (a ++ "\n" ++ line).toList.count '\n' = a.toList.count '\n' + 1 := by
    have hzero : line.toList.count '\n' = 0 := List.count_eq_zero.2 hline
    simp [List.count_append, hzero]
  have hsum : 1 + (a.toList.count '\n' + 1) = 2 + a.toList.count '\n' := by omega
  have hnumber : 1 + (1 + a.toList.count '\n') = 2 + a.toList.count '\n' := by omega
  rw [rules_parse_append, hcount, hsum, rules_parse_append, rules_parse_line source line hline,
    ← Option.toList_map, map_moved_ruleOfLine?, hnumber]

/-- A line that is refused, between a line that ends with a carriage return, a comment and another
pattern: the patterns keep the numbers of their lines. -/
theorem parse_line_by_line_sample :
    '\n' ∉ "  [z-a]\t".toList ∧
      ((parse "f" ("x\r\n# c" ++ "\n" ++ "  [z-a]\t" ++ "\n" ++ "y")).rules.map fun r =>
        (r.pattern, r.line)) = [("x", 1), ("y", 4)] ∧
      ruleOfLine? "f" 1 "x\r".toList = ruleOfLine? "f" 1 "x".toList := by
  obtain ⟨-, hline, -, hblank, -⟩ := parse_line_by_line "f" "x\r\n# c" "y"
  have hfeed : '\n' ∉ "  [z-a]\t".toList := by decide
  refine ⟨hfeed, ?_,
    hblank 1 [] ['x'] ['\r'] (by simp) (List.forall_mem_singleton.2 (by decide))⟩
  rw [(hline _ hfeed).2]
  decide +kernel

end RuleFile

end Forage

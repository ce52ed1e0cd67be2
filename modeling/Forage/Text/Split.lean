/-
**Cutting and searching text.**

* `Text.splitOn` — the parts between the occurrences of a character: one more than there are;
* `Text.joinWith` — parts with the character between each two;
* `Text.joinWith_splitOn` — nothing is lost by cutting;
* `Text.splitOn_joinWith_eq_flatMap` — the parts of a join are those of what is joined;
* `Text.splitOn_joinWith` — parts without the character come back;
* `Text.occursIn` — whether a text is part of another.
-/

set_option relaxedAutoImplicit false
set_option autoImplicit false

namespace Forage.Text

/-- The parts of a list of characters between the occurrences of one. -/
def splitOn (sep : Char) : List Char → List (List Char)
  | [] => [[]]
  | c :: rest =>
      if c = sep then [] :: splitOn sep rest else (splitOn sep rest).modifyHead (c :: ·)

/-- Parts with a character between each two. -/
def joinWith (sep : Char) : List (List Char) → List Char
  | [] => []
  | [s] => s
  | s :: more => s ++ sep :: joinWith sep more

/-- There is always a part. -/
theorem splitOn_ne_nil (sep : Char) (cs : List Char) : splitOn sep cs ≠ [] := by
  induction cs with
  | nil => simp [splitOn]
  | cons c rest ih =>
      unfold splitOn
      split
      · simp
      · cases h : splitOn sep rest with
        | nil => exact absurd h ih
        | cons s more => simp

/-- The first part stands before the first separator. -/
theorem joinWith_cons_cons (sep : Char) (s t : List Char) (more : List (List Char)) :
    joinWith sep (s :: t :: more) = s ++ sep :: joinWith sep (t :: more) := rfl

/-- Joining the parts gives the text back. -/
theorem joinWith_splitOn (sep : Char) (cs : List Char) : joinWith sep (splitOn sep cs) = cs := by
  induction cs with
  | nil => rfl
  | cons c rest ih =>
      unfold splitOn
      cases h : splitOn sep rest with
      | nil => exact absurd h (splitOn_ne_nil sep rest)
      | cons s more =>
          rw [h] at ih
          split
          · next hc => subst hc; rw [joinWith_cons_cons, ih]; rfl
          · cases more with
            | nil => simpa [joinWith] using ih
            | cons t more =>
                rw [List.modifyHead_cons, joinWith_cons_cons, List.cons_append,
                  ← joinWith_cons_cons, ih]

/-- A text without the separator is one part. -/
theorem splitOn_of_not_mem {sep : Char} {cs : List Char} (h : sep ∉ cs) :
    splitOn sep cs = [cs] := by
  induction cs with
  | nil => rfl
  | cons c rest ih =>
      have hc : c ≠ sep := fun hc => h (by simp [hc])
      have hrest : sep ∉ rest := fun hr => h (List.mem_cons_of_mem _ hr)
      rw [splitOn, if_neg hc, ih hrest, List.modifyHead_cons]

/-- A separator divides the parts before it from those after it. -/
theorem splitOn_append_cons (sep : Char) (a b : List Char) :
    splitOn sep (a ++ sep :: b) = splitOn sep a ++ splitOn sep b := by
  induction a with
  | nil => simp [splitOn]
  | cons c rest ih =>
      rw [List.cons_append, splitOn, splitOn, ih]
      split
      · rfl
      · cases h : splitOn sep rest with
        | nil => exact absurd h (splitOn_ne_nil sep rest)
        | cons s more => simp

/-- No part holds the separator. -/
theorem not_mem_of_mem_splitOn {sep : Char} {cs s : List Char} (h : s ∈ splitOn sep cs) :
    sep ∉ s := by
  induction cs generalizing s with
  | nil =>
      obtain rfl : s = [] := by simpa [splitOn] using h
      simp
  | cons c rest ih =>
      rw [splitOn] at h
      split at h
      · rcases List.mem_cons.1 h with rfl | h
        · simp
        · exact ih h
      · next hc =>
          obtain ⟨t, more, hparts⟩ := List.exists_cons_of_ne_nil (splitOn_ne_nil sep rest)
          rw [hparts] at h ih
          rcases List.mem_cons.1 h with rfl | h
          · have ht : sep ∉ t := ih (by simp)
            simp [ht, Ne.symm hc]
          · exact ih (by simp [h])

/-- The parts of a join are those of what is joined, one after another. -/
theorem splitOn_joinWith_eq_flatMap {sep : Char} {l : List (List Char)} (hne : l ≠ []) :
    splitOn sep (joinWith sep l) = l.flatMap (splitOn sep) := by
  induction l with
  | nil => exact absurd rfl hne
  | cons s more ih =>
      cases more with
      | nil => simp [joinWith]
      | cons t more =>
          rw [List.flatMap_cons, joinWith_cons_cons, splitOn_append_cons, ih (by simp)]

/-- Parts that do not hold the separator come back from their join. -/
theorem splitOn_joinWith {sep : Char} {l : List (List Char)} (hne : l ≠ [])
    (h : ∀ s ∈ l, sep ∉ s) : splitOn sep (joinWith sep l) = l := by
  have hparts : l.flatMap (splitOn sep) = l := by
    clear hne
    induction l with
    | nil => rfl
    | cons s more ih =>
        rw [List.flatMap_cons, splitOn_of_not_mem (h s (by simp)),
          ih fun s hs => h s (List.mem_cons_of_mem _ hs)]
        rfl
  rw [splitOn_joinWith_eq_flatMap hne, hparts]

/-- Between `n` parts stand `n - 1` separators. -/
theorem count_joinWith {sep : Char} {l : List (List Char)} (h : ∀ s ∈ l, sep ∉ s) :
    (joinWith sep l).count sep = l.length - 1 := by
  induction l with
  | nil => rfl
  | cons s more ih =>
      have hs : s.count sep = 0 := List.count_eq_zero.2 (h s (by simp))
      cases more with
      | nil => simpa [joinWith] using hs
      | cons t more =>
          rw [joinWith_cons_cons, List.count_append, List.count_cons_self, hs,
            ih fun s hs => h s (List.mem_cons_of_mem _ hs)]
          simp

/-- Whether a list of characters is part of another. -/
def occursIn (part : List Char) : List Char → Bool
  | [] => part.isEmpty
  | c :: rest => part.isPrefixOf (c :: rest) || occursIn part rest

end Forage.Text

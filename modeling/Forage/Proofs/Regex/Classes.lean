/-
**What the text of a bracket class says.**

The items of a class are divided into pieces from left to right: a range is two items with a dash
between them, a single item is the range from it to itself, and two dashes take away what comes
after them.  The dashes that a class begins with are single items.  This is said here by a relation,
without the reader's lists of what it has read so far; the reader is then measured by it.

Main definitions:

* `Piece` — a range, or the sign that takes away;
* `Divides`, `Says` — which pieces the items of a class are, behind its first dashes and from its
  start;
* `TextSays` — which pieces a class is, given as text with its brackets and its sign;
* `Denotes` — the characters that some pieces stand for.

Main results:

* `readSet?_eq_none_iff` — **a class is refused exactly if one of its ranges ends before it
  starts**;
* `contains_of_readSet?` — **what is read otherwise are the characters that its pieces stand for**.
-/

import Mathlib.Data.List.TakeWhile
import Forage.Regex.Reader

set_option relaxedAutoImplicit false
set_option autoImplicit false

namespace Forage.CharClass

inductive Piece where
  /-- The characters from one to another. -/
  | range (a b : Char)
  /-- What comes after two dashes is taken away. -/
  | minus
deriving DecidableEq, Repr

def Piece.Holds : Piece → Char → Prop
  | range a b, c => a ≤ c ∧ c ≤ b
  | minus, _ => False

/-- A range that ends before it starts. -/
def Piece.IsReversed : Piece → Prop
  | range a b => b < a
  | minus => False

def Piece.isRange : Piece → Bool
  | range _ _ => true
  | minus => false

/-- The pieces of items from left to right, behind the dashes that a class begins with. -/
inductive Divides : List Item → List Piece → Prop where
  | nothing : Divides [] []
  | minus {a b : Item} {rest : List Item} {ps : List Piece} (ha : a.isDash = true)
      (hb : b.isDash = true) (hrest : Divides rest ps) : Divides (a :: b :: rest) (.minus :: ps)
  | range {a d b : Item} {rest : List Item} {ps : List Piece} (ha : a.isDash = false)
      (hd : d.isDash = true) (hb : b.isDash = false) (hrest : Divides rest ps) :
      Divides (a :: d :: b :: rest) (.range a.char b.char :: ps)
  /-- An item that begins neither two dashes nor a range. -/
  | single {a : Item} {rest : List Item} {ps : List Piece}
      (hminus : ∀ b more, rest = b :: more → ¬ (a.isDash = true ∧ b.isDash = true))
      (hrange : ∀ d b more, rest = d :: b :: more → ¬ (d.isDash = true ∧ b.isDash = false))
      (hrest : Divides rest ps) : Divides (a :: rest) (.range a.char a.char :: ps)

/-- The pieces of a class: the dashes that it begins with are single items. -/
def Says (is : List Item) (ps : List Piece) : Prop :=
  ∃ dashes rest more, is = dashes ++ rest ∧ (∀ i ∈ dashes, i.isDash = true) ∧
    (∀ i more, rest = i :: more → i.isDash = false) ∧ Divides rest more ∧
      ps = dashes.map (fun i => .range i.char i.char) ++ more

/-- The pieces of a class that is given as text, and whether it has the sign of a complement. -/
inductive TextSays : List Char → Bool → List Piece → Prop where
  | plain {cs : List Char} {is : List Item} {ps : List Piece} (hsign : cs.head? ≠ some '^')
      (hitems : items? cs = some (is, [])) (hpieces : Says is ps) : TextSays ('[' :: cs) false ps
  | signed {cs : List Char} {is : List Item} {ps : List Piece}
      (hitems : items? cs = some (is, [])) (hpieces : Says is ps) :
      TextSays ('[' :: '^' :: cs) true ps

/-- The characters that some pieces stand for: those of the ranges up to the first two dashes, less
those of the ranges behind. -/
def Denotes (ps : List Piece) (c : Char) : Prop :=
  (∃ p ∈ ps.takeWhile Piece.isRange, p.Holds c) ∧ ∀ p ∈ ps.dropWhile Piece.isRange, ¬ p.Holds c

/-! ### Pieces -/

def rangePieces (rs : List (Char × Char)) : List Piece := rs.map fun r => .range r.1 r.2

theorem contains_ranges (rs : List (Char × Char)) (c : Char) :
    (CharSet.ranges rs).contains c = true ↔ ∃ r ∈ rs, r.1 ≤ c ∧ c ≤ r.2 := by
  simp [CharSet.contains]

theorem isRange_of_mem_rangePieces {rs : List (Char × Char)} {p : Piece}
    (h : p ∈ rangePieces rs) : p.isRange = true := by
  obtain ⟨r, -, rfl⟩ := List.mem_map.mp h
  rfl

theorem exists_mem_rangePieces (rs : List (Char × Char)) (c : Char) :
    (∃ p ∈ rangePieces rs, p.Holds c) ↔ (CharSet.ranges rs).contains c = true := by
  rw [contains_ranges]
  constructor
  · rintro ⟨p, hp, hc⟩
    obtain ⟨r, hr, rfl⟩ := List.mem_map.mp hp
    exact ⟨r, hr, hc⟩
  · rintro ⟨r, hr, hc⟩
    exact ⟨.range r.1 r.2, List.mem_map_of_mem hr, hc⟩

theorem forall_mem_rangePieces (rs : List (Char × Char)) (c : Char) :
    (∀ p ∈ rangePieces rs, ¬ p.Holds c) ↔ (CharSet.ranges rs).contains c = false := by
  rw [← Bool.not_eq_true, ← exists_mem_rangePieces]
  simp

theorem rangePieces_snoc (rs : List (Char × Char)) (a b : Char) (ps : List Piece) :
    rangePieces (rs ++ [(a, b)]) ++ ps = rangePieces rs ++ .range a b :: ps := by
  simp [rangePieces]

/-- Ranges without two dashes stand for their characters. -/
theorem denotes_rangePieces (rs : List (Char × Char)) (c : Char) :
    Denotes (rangePieces rs) c ↔ (CharSet.ranges rs).contains c = true := by
  have hall : ∀ p ∈ rangePieces rs, p.isRange = true := fun p => isRange_of_mem_rangePieces
  have htake : (rangePieces rs).takeWhile Piece.isRange = rangePieces rs :=
    List.takeWhile_eq_self_iff.mpr hall
  have hdrop : (rangePieces rs).dropWhile Piece.isRange = [] :=
    List.dropWhile_eq_nil_iff.mpr hall
  rw [Denotes, htake, hdrop, exists_mem_rangePieces]
  simp

/-- Two dashes behind ranges take away everything that follows. -/
theorem denotes_rangePieces_minus (rs : List (Char × Char)) (ps : List Piece) (c : Char) :
    Denotes (rangePieces rs ++ .minus :: ps) c ↔
      (CharSet.ranges rs).contains c = true ∧ ∀ p ∈ ps, ¬ p.Holds c := by
  have hall : ∀ p ∈ rangePieces rs, p.isRange = true := fun p => isRange_of_mem_rangePieces
  have htake : (rangePieces rs ++ .minus :: ps).takeWhile Piece.isRange = rangePieces rs := by
    rw [List.takeWhile_append_of_pos hall]
    simp [Piece.isRange]
  have hdrop : (rangePieces rs ++ .minus :: ps).dropWhile Piece.isRange = .minus :: ps := by
    rw [List.dropWhile_append_of_pos hall]
    simp [Piece.isRange]
  rw [Denotes, htake, hdrop, exists_mem_rangePieces]
  simp [Piece.Holds]

/-! ### One step of the reader -/

theorem setFrom_minus (before : Option CharSet) (rs : List (Char × Char)) {a b : Item}
    (rest : List Item) (ha : a.isDash = true) (hb : b.isDash = true) :
    setFrom before rs (a :: b :: rest) = setFrom (some (close before rs)) [] rest := by
  cases rest with
  | nil => simp [setFrom, ha, hb, close]
  | cons c rest => simp [setFrom, ha, hb]

theorem setFrom_range (before : Option CharSet) (rs : List (Char × Char)) {a d b : Item}
    (rest : List Item) (ha : a.isDash = false) (hd : d.isDash = true) (hb : b.isDash = false) :
    setFrom before rs (a :: d :: b :: rest) =
      if a.char ≤ b.char then setFrom before (rs ++ [(a.char, b.char)]) rest else none := by
  simp [setFrom, ha, hd, hb]

theorem setFrom_single (before : Option CharSet) (rs : List (Char × Char)) {a : Item}
    {rest : List Item}
    (hminus : ∀ b more, rest = b :: more → ¬ (a.isDash = true ∧ b.isDash = true))
    (hrange : ∀ d b more, rest = d :: b :: more → ¬ (d.isDash = true ∧ b.isDash = false)) :
    setFrom before rs (a :: rest) = setFrom before (rs ++ [(a.char, a.char)]) rest := by
  match rest with
  | [] => rfl
  | [b] =>
      have hone : (a.isDash && b.isDash) = false := by simpa using hminus b [] rfl
      simp [setFrom, hone]
  | b :: c :: more =>
      have hone : (a.isDash && b.isDash) = false := by simpa using hminus b (c :: more) rfl
      have htwo : (b.isDash && !c.isDash) = false := by simpa using hrange b c more rfl
      simp [setFrom, hone, htwo]

/-! ### What the reader finds -/

/-- The reader stops at the first range that ends before it starts, and at nothing else. -/
theorem setFrom_eq_none_iff {is : List Item} {ps : List Piece} (h : Divides is ps)
    (before : Option CharSet) (rs : List (Char × Char)) :
    setFrom before rs is = none ↔ ∃ p ∈ ps, p.IsReversed := by
  induction h generalizing before rs with
  | nothing => simp [setFrom]
  | minus ha hb hrest ih =>
      rw [setFrom_minus before rs _ ha hb, ih]
      simp [Piece.IsReversed]
  | @range a d b rest ps ha hd hb hrest ih =>
      simp only [setFrom_range before rs _ ha hd hb, List.mem_cons, exists_eq_or_imp]
      by_cases hle : a.char ≤ b.char
      · have hordered : ¬ (Piece.range a.char b.char).IsReversed := Char.not_lt.mpr hle
        rw [if_pos hle, ih, or_iff_right hordered]
      · have hreversed : (Piece.range a.char b.char).IsReversed := Char.not_le.mp hle
        rw [if_neg hle]
        exact iff_of_true rfl (Or.inl hreversed)
  | single hminus hrange hrest ih =>
      rw [setFrom_single before rs hminus hrange, ih]
      simp [Piece.IsReversed]

theorem contains_close_some (t : CharSet) (rs : List (Char × Char)) (c : Char) :
    (close (some t) rs).contains c = true ↔
      t.contains c = true ∧ ∀ p ∈ rangePieces rs, ¬ p.Holds c := by
  rw [forall_mem_rangePieces]
  simp only [close, CharSet.contains.eq_2, Bool.and_eq_true, Bool.not_eq_true']

/-- Behind two dashes nothing is added any more: all ranges are taken away. -/
theorem contains_of_setFrom_some {is : List Item} {ps : List Piece} (h : Divides is ps)
    {before s : CharSet} {rs : List (Char × Char)} (hs : setFrom (some before) rs is = some s)
    (c : Char) :
    s.contains c = true ↔
      before.contains c = true ∧ ∀ p ∈ rangePieces rs ++ ps, ¬ p.Holds c := by
  induction h generalizing before rs with
  | nothing =>
      obtain rfl : close (some before) rs = s := Option.some.inj hs
      rw [contains_close_some, List.append_nil]
  | minus ha hb hrest ih =>
      rw [setFrom_minus _ rs _ ha hb] at hs
      rw [ih hs, contains_close_some]
      simp only [List.forall_mem_append, List.forall_mem_cons, rangePieces, List.map_nil,
        List.nil_append, and_assoc, Piece.Holds, not_false_eq_true, true_and]
  | range ha hd hb hrest ih =>
      rw [setFrom_range _ rs _ ha hd hb] at hs
      split at hs
      · rw [ih hs, rangePieces_snoc]
      · cases hs
  | single hminus hrange hrest ih =>
      rw [setFrom_single _ rs hminus hrange] at hs
      rw [ih hs, rangePieces_snoc]

/-- Up to the first two dashes the ranges are put together. -/
theorem contains_of_setFrom_none {is : List Item} {ps : List Piece} (h : Divides is ps)
    {s : CharSet} {rs : List (Char × Char)} (hs : setFrom none rs is = some s) (c : Char) :
    s.contains c = true ↔ Denotes (rangePieces rs ++ ps) c := by
  induction h generalizing rs with
  | nothing =>
      obtain rfl : close none rs = s := Option.some.inj hs
      rw [List.append_nil, denotes_rangePieces, close]
  | minus ha hb hrest ih =>
      rw [setFrom_minus _ rs _ ha hb] at hs
      rw [contains_of_setFrom_some hrest hs, denotes_rangePieces_minus]
      rfl
  | range ha hd hb hrest ih =>
      rw [setFrom_range _ rs _ ha hd hb] at hs
      split at hs
      · rw [ih hs, rangePieces_snoc]
      · cases hs
  | single hminus hrange hrest ih =>
      rw [setFrom_single _ rs hminus hrange] at hs
      rw [ih hs, rangePieces_snoc]

/-! ### Whole classes -/

/-- Items can be divided in some way. -/
theorem exists_divides : ∀ is : List Item, ∃ ps, Divides is ps
  | [] => ⟨[], .nothing⟩
  | a :: rest => by
      by_cases hminus : ∃ b more, rest = b :: more ∧ a.isDash = true ∧ b.isDash = true
      · obtain ⟨b, more, rfl, ha, hb⟩ := hminus
        obtain ⟨ps, hps⟩ := exists_divides more
        exact ⟨.minus :: ps, .minus ha hb hps⟩
      · by_cases hrange : ∃ d b more, rest = d :: b :: more ∧ d.isDash = true ∧ b.isDash = false
        · obtain ⟨d, b, more, rfl, hd, hb⟩ := hrange
          have ha : a.isDash = false := by
            rw [← Bool.not_eq_true]
            exact fun ha => hminus ⟨d, b :: more, rfl, ha, hd⟩
          obtain ⟨ps, hps⟩ := exists_divides more
          exact ⟨.range a.char b.char :: ps, .range ha hd hb hps⟩
        · obtain ⟨ps, hps⟩ := exists_divides rest
          refine ⟨.range a.char a.char :: ps, .single ?_ ?_ hps⟩
          · intro b more heq hdashes
            exact hminus ⟨b, more, heq, hdashes⟩
          · intro d b more heq hdash
            exact hrange ⟨d, b, more, heq, hdash⟩
termination_by is => is.length

theorem exists_says (is : List Item) : ∃ ps, Says is ps := by
  obtain ⟨more, hmore⟩ := exists_divides (is.dropWhile Item.isDash)
  refine ⟨_, is.takeWhile Item.isDash, is.dropWhile Item.isDash, more,
    List.takeWhile_append_dropWhile.symm, ?_, ?_, hmore, rfl⟩
  · intro i hi
    exact List.mem_takeWhile_imp hi
  · intro i rest hrest
    have hne : is.dropWhile Item.isDash ≠ [] := by simp [hrest]
    have := List.head_dropWhile_not Item.isDash hne
    simpa [hrest] using this

/-- The reader begins with the dashes in front as single items. -/
theorem setOf_eq_setFrom {is : List Item} {ps : List Piece} (h : Says is ps) :
    ∃ rs rest more, Divides rest more ∧ setOf is = setFrom none rs rest ∧
      ps = rangePieces rs ++ more ∧ ∀ r ∈ rs, r.1 ≤ r.2 := by
  obtain ⟨dashes, rest, more, rfl, hdashes, hrest, hmore, rfl⟩ := h
  have hnil : rest.takeWhile Item.isDash = [] ∧ rest.dropWhile Item.isDash = rest := by
    cases rest with
    | nil => exact ⟨rfl, rfl⟩
    | cons i rest => simp [hrest i rest rfl]
  have hdash : ∀ i ∈ dashes, i.char = '-' := by
    intro i hi
    have := hdashes i hi
    simp only [Item.isDash, Bool.and_eq_true, beq_iff_eq] at this
    exact this.1
  refine ⟨dashes.map fun _ => ('-', '-'), rest, more, hmore, ?_, ?_, ?_⟩
  · rw [setOf, List.takeWhile_append_of_pos hdashes, List.dropWhile_append_of_pos hdashes,
      hnil.1, hnil.2, List.append_nil]
  · rw [rangePieces, List.map_map]
    congr 1
    refine List.map_congr_left fun i hi => ?_
    simp [hdash i hi]
  · intro r hr
    obtain ⟨i, -, rfl⟩ := List.mem_map.mp hr
    exact Char.le_refl '-'

theorem setOf_eq_none_iff {is : List Item} {ps : List Piece} (h : Says is ps) :
    setOf is = none ↔ ∃ p ∈ ps, p.IsReversed := by
  obtain ⟨rs, rest, more, hmore, hset, rfl, hordered⟩ := setOf_eq_setFrom h
  rw [hset, setFrom_eq_none_iff hmore]
  have hrs : ¬ ∃ p ∈ rangePieces rs, p.IsReversed := by
    rintro ⟨p, hp, hreversed⟩
    obtain ⟨r, hr, rfl⟩ := List.mem_map.mp hp
    exact Char.not_lt.mpr (hordered r hr) hreversed
  simp only [List.mem_append, or_and_right, exists_or]
  exact (or_iff_right hrs).symm

theorem contains_of_setOf {is : List Item} {ps : List Piece} (h : Says is ps) {s : CharSet}
    (hs : setOf is = some s) (c : Char) : s.contains c = true ↔ Denotes ps c := by
  obtain ⟨rs, rest, more, hmore, hset, rfl, -⟩ := setOf_eq_setFrom h
  exact contains_of_setFrom_none hmore (hset ▸ hs) c

/-! ### The text of a class -/

/-- The reader finds the set of a class's items, with the sign of a complement where it has one. -/
theorem readSet?_of_textSays {text : List Char} {signed : Bool} {ps : List Piece}
    (h : TextSays text signed ps) :
    ∃ is, Says is ps ∧ Regex.readSet? text =
      (setOf is).map fun s => (if signed then .compl s else s, []) := by
  cases h with
  | @plain cs is _ hsign hitems hpieces =>
      refine ⟨is, hpieces, ?_⟩
      rw [Regex.readSet?]
      unfold read?
      split
      · simp at hsign
      · simp [hitems]
  | @signed cs is _ hitems hpieces =>
      refine ⟨is, hpieces, ?_⟩
      rw [Regex.readSet?, read?, hitems]
      rfl

/-- **A class is refused exactly if one of its ranges ends before it starts.** -/
theorem readSet?_eq_none_iff {text : List Char} {signed : Bool} {ps : List Piece}
    (h : TextSays text signed ps) :
    Regex.readSet? text = none ↔ ∃ p ∈ ps, p.IsReversed := by
  obtain ⟨is, hpieces, hread⟩ := readSet?_of_textSays h
  rw [hread, Option.map_eq_none_iff, setOf_eq_none_iff hpieces]

/-- **A class that is not refused holds the characters that its pieces stand for**, or all others if
it has the sign of a complement. -/
theorem contains_of_readSet? {text rest : List Char} {signed : Bool} {ps : List Piece}
    (h : TextSays text signed ps) {s : CharSet} (hs : Regex.readSet? text = some (s, rest))
    (c : Char) : s.contains c = true ↔ if signed then ¬ Denotes ps c else Denotes ps c := by
  obtain ⟨is, hpieces, hread⟩ := readSet?_of_textSays h
  rw [hread, Option.map_eq_some_iff] at hs
  obtain ⟨t, ht, heq⟩ := hs
  have hcontains := contains_of_setOf hpieces ht c
  cases signed with
  | false =>
      obtain ⟨rfl, -⟩ := Prod.mk.inj heq
      simpa using hcontains
  | true =>
      obtain ⟨rfl, -⟩ := Prod.mk.inj heq
      simp [CharSet.contains, ← hcontains]

end Forage.CharClass

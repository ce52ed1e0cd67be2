/-
**Paths and what lies above them.**

One step up takes the last component of a path off, however the path is spelled, and there is none
from a path that has no component to lose.  So each of the directories above a path has fewer
components than the one before; no two of them are the same, and there are no more of them than the
path has characters.

Main definitions:

* `Path.Climbs` — a path and each successive parent, until there is none.

Main results:

* `Path.components_of_parent?` — **one step up takes the last component off**;
* `Path.climbs_ancestors` — the ancestors of a path are all that climbing from it meets;
* `Path.Climbs.pairwise_length` — on the way up, each path has fewer components than those before.
-/

import Forage.Proofs.Path.Below

set_option relaxedAutoImplicit false
set_option autoImplicit false

namespace Forage.Path

/-! ### Fillers at the end -/

/-- What is dropped from the end of some parts is fillers, and the last that is kept is none. -/
theorem exists_dropFillers (l : List (List Char)) :
    (∃ tail, l = dropFillers l ++ tail ∧ ∀ s ∈ tail, isFiller s = true) ∧
      ∀ s ∈ (dropFillers l).getLast?, isFiller s = false := by
  constructor
  · refine ⟨(l.reverse.takeWhile isFiller).reverse, ?_, ?_⟩
    · rw [dropFillers, Text.dropTail, ← List.reverse_append, List.takeWhile_append_dropWhile,
        List.reverse_reverse]
    · intro s hs
      exact List.mem_takeWhile_imp (List.mem_reverse.1 hs)
  · intro s hs
    rw [dropFillers, Text.dropTail, List.getLast?_reverse] at hs
    have := List.head?_dropWhile_not isFiller l.reverse
    rw [Option.mem_def.1 hs] at this
    simpa using this

theorem filterMap_dropFillers (l : List (List Char)) :
    (dropFillers l).filterMap Component.ofSegment? = l.filterMap Component.ofSegment? := by
  obtain ⟨⟨tail, hl, htail⟩, -⟩ := exists_dropFillers l
  have hnone : tail.filterMap Component.ofSegment? = [] := by
    rw [List.filterMap_eq_nil_iff]
    intro s hs
    exact (ofSegment?_eq_none_iff s).2 (htail s hs)
  conv_rhs => rw [hl, List.filterMap_append, hnone, List.append_nil]

/-! ### Paths put together again -/

/-- The join of some first parts is a first part of the join. -/
theorem joinSegments_prefix {kept l : List (List Char)} (h : kept <+: l) :
    joinSegments kept <+: joinSegments l := by
  induction kept generalizing l with
  | nil => exact List.nil_prefix
  | cons s kept ih =>
      obtain ⟨rest, rfl⟩ := h
      cases kept with
      | nil =>
          cases rest with
          | nil => exact List.prefix_rfl
          | cons t rest => exact List.prefix_append _ _
      | cons t kept =>
          have hmore : joinSegments (t :: kept) <+: joinSegments (t :: kept ++ rest) :=
            ih (List.prefix_append _ _)
          exact (List.prefix_append_right_inj s).2 (List.cons_prefix_cons.2 ⟨rfl, hmore⟩)

/-- Joining parts and cutting the join again gives the same components. -/
theorem filterMap_segments_joinSegments {kept : List (List Char)} (h : ∀ s ∈ kept, '/' ∉ s) :
    (segments (joinSegments kept)).filterMap Component.ofSegment? =
      kept.filterMap Component.ofSegment? := by
  by_cases hnil : kept = []
  · subst hnil
    rfl
  · exact congrArg _ (Text.splitOn_joinWith hnil h)

/-- The ways in which a path can begin. -/
theorem splitLead_cases (cs : List Char) :
    (∃ rest, cs = '/' :: rest) ∨ cs = ['.'] ∨ (∃ rest, cs = '.' :: '/' :: rest) ∨ IsPlain cs := by
  unfold IsPlain splitLead
  split
  · exact Or.inl ⟨_, rfl⟩
  · exact Or.inr (Or.inl rfl)
  · exact Or.inr (Or.inr (Or.inl ⟨_, rfl⟩))
  · exact Or.inr (Or.inr (Or.inr rfl))

/-- A first part of a text without a leading component has none either, unless it is a dot. -/
theorem IsPlain.of_prefix {cs front : List Char} (h : IsPlain cs) (hfront : front <+: cs)
    (hdot : front ≠ ['.']) : IsPlain front := by
  obtain ⟨more, rfl⟩ := hfront
  rcases splitLead_cases front with ⟨rest, rfl⟩ | rfl | ⟨rest, rfl⟩ | hplain
  · simp [IsPlain, splitLead] at h
  · exact absurd rfl hdot
  · simp [IsPlain, splitLead] at h
  · exact hplain

/-- First parts of a path that end in no filler have, put together, the lead of the path. -/
theorem splitLead_joinSegments {cs : List Char} {kept : List (List Char)}
    (hkept : kept <+: segments (splitLead cs).2)
    (hlast : ∀ s ∈ kept.getLast?, isFiller s = false) :
    splitLead (leadText (splitLead cs).1 ++ joinSegments kept) =
      ((splitLead cs).1, joinSegments kept) := by
  rcases splitLead_cases cs with ⟨rest, rfl⟩ | rfl | ⟨rest, rfl⟩ | hplain
  · rfl
  · -- nothing follows the dot
    cases kept with
    | nil => rfl
    | cons s kept =>
        obtain ⟨rfl, rfl⟩ : s = [] ∧ kept = [] := by
          simpa [splitLead, segments, Text.splitOn] using hkept
        simp [isFiller] at hlast
  · -- a slash follows the dot, or nothing that is kept
    have hsegments : segments (splitLead ('.' :: '/' :: rest)).2 = [] :: segments rest := rfl
    rw [hsegments] at hkept
    cases kept with
    | nil => rfl
    | cons s kept =>
        obtain ⟨rfl, -⟩ := List.cons_prefix_cons.1 hkept
        cases kept with
        | nil => simp [isFiller] at hlast
        | cons t kept => rfl
  · have hcs : splitLead cs = (none, cs) := hplain
    rw [hcs] at hkept ⊢
    have hprefix : joinSegments kept <+: cs := by
      simpa [joinSegments, segments, Text.joinWith_splitOn] using joinSegments_prefix hkept
    refine hplain.of_prefix hprefix fun hdot => ?_
    change joinSegments kept = ['.'] at hdot
    -- what spells a dot is a part that is a dot
    have hparts : kept.filterMap Component.ofSegment? = [] := by
      have hslash : ∀ s ∈ kept, '/' ∉ s := fun s hs =>
        Text.not_mem_of_mem_splitOn (hkept.subset hs)
      rw [← filterMap_segments_joinSegments hslash, hdot]
      rfl
    rcases List.eq_nil_or_concat kept with rfl | ⟨front, s, rfl⟩
    · cases hdot
    · have hfiller := (ofSegment?_eq_none_iff s).1
        (List.filterMap_eq_nil_iff.1 hparts s (by simp))
      rw [hlast s (by simp)] at hfiller
      cases hfiller

/-- The components of first parts of a path that are put together again. -/
theorem components_joinSegments (p : Path) {kept : List (List Char)} (hkept : kept <+: p.parts.2)
    (hlast : ∀ s ∈ kept.getLast?, isFiller s = false) :
    components ⟨String.ofList (leadText p.parts.1 ++ joinSegments kept)⟩ =
      p.parts.1.toList ++ kept.filterMap Component.ofSegment? := by
  have hslash : ∀ s ∈ kept, '/' ∉ s := fun s hs => Text.not_mem_of_mem_splitOn (hkept.subset hs)
  have hlead : splitLead (leadText (splitLead p.text.toList).1 ++ joinSegments kept) =
      ((splitLead p.text.toList).1, joinSegments kept) :=
    splitLead_joinSegments hkept hlast
  rw [← filterMap_segments_joinSegments hslash]
  simp only [components, parts, String.toList_ofList, hlead]

/-! ### One step up -/

/-- **One step up takes the last component off.** -/
theorem components_of_parent? {p q : Path} (h : p.parent? = some q) :
    ∃ c, p.components = q.components ++ [c] := by
  obtain ⟨⟨tail, hbody, htail⟩, hlast⟩ := exists_dropFillers p.parts.2
  have hcomponents : p.components =
      p.parts.1.toList ++ (dropFillers p.parts.2).filterMap Component.ofSegment? := by
    rw [filterMap_dropFillers]
    rfl
  simp only [parent?] at h
  split at h
  · next hnil =>
      -- only a leading dot is left
      split at h
      · next hlead =>
          cases h
          refine ⟨.here, ?_⟩
          rw [hcomponents, hnil, beq_iff_eq.1 hlead]
          rfl
      · cases h
  · next kept hkept =>
      cases h
      obtain ⟨front, s, hfront⟩ : ∃ front s, dropFillers p.parts.2 = front ++ [s] := by
        rcases List.eq_nil_or_concat (dropFillers p.parts.2) with hnil | ⟨front, s, hconcat⟩
        · exact absurd hnil hkept
        · exact ⟨front, s, by rw [hconcat, List.concat_eq_append]⟩
      have hs : isFiller s = false := hlast s (by simp [hfront])
      obtain ⟨c, hc⟩ : ∃ c, Component.ofSegment? s = some c := by
        rw [← Option.ne_none_iff_exists', Ne, ofSegment?_eq_none_iff, hs]
        simp
      obtain ⟨⟨more, hmore, -⟩, hlast'⟩ := exists_dropFillers front
      have hprefix : dropFillers front <+: p.parts.2 :=
        ⟨more ++ [s] ++ tail, by
          rw [hbody, hfront, ← List.append_assoc, ← List.append_assoc, ← hmore]⟩
      refine ⟨c, ?_⟩
      rw [hfront, List.dropLast_concat, components_joinSegments p hprefix hlast', hcomponents,
        hfront, List.filterMap_append, filterMap_dropFillers]
      simp [hc]

/-! ### All the way up -/

/-- A path and each successive parent, until there is none. -/
inductive Climbs : Path → List Path → Prop
  | top {p : Path} (h : p.parent? = none) : Climbs p [p]
  | up {p q : Path} {dirs : List Path} (h : p.parent? = some q) (more : Climbs q dirs) :
      Climbs p (p :: dirs)

/-- There is only one way up. -/
theorem Climbs.unique {p : Path} {dirs dirs' : List Path} (h : Climbs p dirs)
    (h' : Climbs p dirs') : dirs = dirs' := by
  induction h generalizing dirs' with
  | top hnone =>
      cases h' with
      | top _ => rfl
      | up hsome _ =>
          rw [hnone] at hsome
          cases hsome
  | up hsome _ ih =>
      cases h' with
      | top hnone =>
          rw [hnone] at hsome
          cases hsome
      | up hsome' more =>
          obtain rfl := Option.some.inj (hsome.symm.trans hsome')
          rw [ih more]

/-- Parts that are no fillers are no more than the characters that join them. -/
theorem length_filterMap_le (l : List (List Char)) :
    (l.filterMap Component.ofSegment?).length ≤ (joinSegments l).length := by
  induction l with
  | nil => simp
  | cons s l ih =>
      have hs : (Component.ofSegment? s).toList.length ≤ s.length := by
        cases s with
        | nil => simp [Component.ofSegment?, isFiller]
        | cons c s => cases Component.ofSegment? (c :: s) <;> simp
      have hcons : ((s :: l).filterMap Component.ofSegment?).length =
          (Component.ofSegment? s).toList.length +
            (l.filterMap Component.ofSegment?).length := by
        cases h : Component.ofSegment? s with
        | none => simp [h]
        | some c => simp [h, Nat.add_comm]
      have hjoin : s.length + (joinSegments l).length ≤ (joinSegments (s :: l)).length := by
        cases l with
        | nil => simp [joinSegments, Text.joinWith]
        | cons t l => simp [joinSegments, Text.joinWith]
      omega

/-- A path has no more components than characters. -/
theorem length_components_le (p : Path) : p.components.length ≤ p.text.length := by
  have hlead : p.parts.1.toList.length ≤ (leadText p.parts.1).length := by
    rcases splitLead_cases p.text.toList with ⟨rest, h⟩ | h | ⟨rest, h⟩ | h
    · simp [parts, h, splitLead, leadText]
    · simp [parts, h, splitLead, leadText]
    · simp [parts, h, splitLead, leadText]
    · have h : splitLead p.text.toList = (none, p.text.toList) := h
      simp [parts, h]
  have hbody := length_filterMap_le p.parts.2
  have htext : p.text.length = (leadText p.parts.1).length + (joinSegments p.parts.2).length := by
    rw [← List.length_append, ← String.length_toList]
    congr 1
    simp only [parts, joinSegments, segments, Text.joinWith_splitOn]
    exact (leadText_splitLead p.text.toList).symm
  rw [components, List.length_append, htext]
  exact Nat.add_le_add hlead hbody

/-- The ancestors of a path are all that climbing from it meets: their number is bounded by more
than there can be. -/
theorem climbs_ancestorsUpTo {fuel : Nat} {p : Path} (h : p.components.length ≤ fuel) :
    Climbs p (ancestorsUpTo fuel p) := by
  induction fuel generalizing p with
  | zero =>
      refine .top ?_
      cases hp : p.parent? with
      | none => rfl
      | some q =>
          obtain ⟨c, hc⟩ := components_of_parent? hp
          simp [hc] at h
  | succ fuel ih =>
      rw [ancestorsUpTo]
      cases hp : p.parent? with
      | none => exact .top hp
      | some q =>
          obtain ⟨c, hc⟩ := components_of_parent? hp
          refine .up hp (ih ?_)
          rw [hc, List.length_append, List.length_singleton] at h
          omega

theorem climbs_ancestors (p : Path) : Climbs p p.ancestors :=
  climbs_ancestorsUpTo p.length_components_le

/-- On the way up no path has more components than the first. -/
theorem Climbs.length_le {p : Path} {dirs : List Path} (h : Climbs p dirs) :
    ∀ d ∈ dirs, d.components.length ≤ p.components.length := by
  induction h with
  | top _ => simp
  | up hparent _ ih =>
      obtain ⟨c, hc⟩ := components_of_parent? hparent
      intro d hd
      rcases List.mem_cons.1 hd with rfl | hd
      · exact le_rfl
      · have := ih d hd
        rw [hc, List.length_append, List.length_singleton]
        omega

/-- **On the way up, each path has fewer components than those before.** -/
theorem Climbs.pairwise_length {p : Path} {dirs : List Path} (h : Climbs p dirs) :
    dirs.Pairwise fun a b => b.components.length < a.components.length := by
  induction h with
  | top _ => exact List.pairwise_singleton _ _
  | up hparent more ih =>
      refine List.pairwise_cons.2 ⟨fun d hd => ?_, ih⟩
      obtain ⟨c, hc⟩ := components_of_parent? hparent
      have := more.length_le d hd
      rw [hc, List.length_append, List.length_singleton]
      omega

end Forage.Path

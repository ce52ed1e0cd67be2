/-
**Paths below a root.**

A walk goes from its root to an entry by joining one name after another, and gets the relative path
of the entry back by cutting the components of the root off.  However the root is spelled, what is
cut off is exactly the root, so that the relative path is the names with a slash between each two.

Main definitions:

* `Path.IsSimple` — a name that is one component: not empty, no slash in it, neither `.` nor `..`;
* `Path.below` — the path that joining some names leads to;
* `Path.ofNames` — the relative path that some names spell.

Main results:

* `Path.components_below` — **joining adds the names to the components**;
* `Path.under?_below`, `Path.relativeTo_below` — **the relative path is spelled by the names**;
* `Path.components_ofNames`, `Path.components_join_ofNames` — reading the relative path back.
-/

import Mathlib.Data.List.Basic
import Mathlib.Data.List.TakeWhile
import Forage.Path

set_option relaxedAutoImplicit false
set_option autoImplicit false

namespace Forage.Path

/-! ### Simple names -/

/-- A name that is one component of a path. -/
structure IsSimple (name : String) : Prop where
  ne_empty : name ≠ ""
  no_slash : '/' ∉ name.toList
  ne_here : name ≠ "."
  ne_up : name ≠ ".."

instance (name : String) : Decidable (IsSimple name) :=
  decidable_of_iff (name ≠ "" ∧ '/' ∉ name.toList ∧ name ≠ "." ∧ name ≠ "..")
    ⟨fun ⟨h₁, h₂, h₃, h₄⟩ => ⟨h₁, h₂, h₃, h₄⟩, fun ⟨h₁, h₂, h₃, h₄⟩ => ⟨h₁, h₂, h₃, h₄⟩⟩

theorem IsSimple.toList_ne_nil {name : String} (h : IsSimple name) : name.toList ≠ [] := by
  intro he
  exact h.ne_empty (by simpa using congrArg String.ofList he)

/-- A simple name is no filler. -/
theorem IsSimple.isFiller {name : String} (h : IsSimple name) : isFiller name.toList = false := by
  have hhere : name.toList ≠ ['.'] := fun he => h.ne_here (by simpa using congrArg String.ofList he)
  simp [Path.isFiller, h.toList_ne_nil, hhere]

/-- A simple name stands for itself. -/
theorem IsSimple.ofSegment? {name : String} (h : IsSimple name) :
    Component.ofSegment? name.toList = some (.name name) := by
  have hup : name.toList ≠ ['.', '.'] := fun he =>
    h.ne_up (by simpa using congrArg String.ofList he)
  simp [Component.ofSegment?, h.isFiller, hup]

/-! ### The text of a path below a root -/

/-- The path that joining some names leads to. -/
def below (root : Path) (ns : List String) : Path := ns.foldl join root

@[simp] theorem below_nil (root : Path) : root.below [] = root := rfl

theorem below_cons (root : Path) (n : String) (ns : List String) :
    root.below (n :: ns) = (root.join n).below ns := rfl

theorem below_append (root : Path) (ns ms : List String) :
    root.below (ns ++ ms) = (root.below ns).below ms := List.foldl_append

theorem below_snoc (root : Path) (ns : List String) (n : String) :
    root.below (ns ++ [n]) = (root.below ns).join n := below_append root ns [n]

/-- The characters that some names spell, with a slash between each two. -/
def spelling (ns : List String) : List Char := joinSegments (ns.map String.toList)

/-- The relative path that some names spell. -/
def ofNames (ns : List String) : Path := ⟨String.ofList (spelling ns)⟩

@[simp] theorem ofNames_text_toList (ns : List String) :
    (ofNames ns).text.toList = spelling ns := String.toList_ofList

/-- What is put between a path and a name that is joined to it. -/
def joint (cs : List Char) : List Char := if cs.getLast?.getD '/' == '/' then [] else ['/']

theorem join_text {dir : Path} {name : String} (h : name.toList.head? ≠ some '/') :
    (dir.join name).text.toList = dir.text.toList ++ joint dir.text.toList ++ name.toList := by
  unfold join joint
  rw [if_neg (by simpa using h)]
  split <;> simp

@[simp] theorem spelling_nil : spelling [] = [] := rfl

@[simp] theorem spelling_singleton (n : String) : spelling [n] = n.toList := rfl

theorem spelling_cons_cons (n m : String) (ns : List String) :
    spelling (n :: m :: ns) = n.toList ++ '/' :: spelling (m :: ns) := rfl

/-- A spelling does not begin with a slash. -/
theorem head?_spelling_ne {ns : List String} (h : ∀ n ∈ ns, IsSimple n) :
    (spelling ns).head? ≠ some '/' := by
  cases ns with
  | nil => simp
  | cons n ns =>
      have hn : IsSimple n := h n (by simp)
      obtain ⟨c, cs, hc⟩ := List.exists_cons_of_ne_nil hn.toList_ne_nil
      have hslash : c ≠ '/' := fun he => hn.no_slash (by simp [hc, he])
      cases ns with
      | nil => simpa [hc] using hslash
      | cons m ns => simpa [spelling_cons_cons, hc] using hslash

theorem joint_append_name {cs : List Char} {n : String} (h : IsSimple n) :
    joint (cs ++ n.toList) = ['/'] := by
  obtain ⟨c, hc⟩ := Option.ne_none_iff_exists'.1 (mt List.getLast?_eq_none_iff.1 h.toList_ne_nil)
  have hslash : c ≠ '/' := fun he => h.no_slash (he ▸ List.mem_of_getLast? hc)
  simp [joint, List.getLast?_append, hc, hslash]

/-- A path below a root is spelled by the root, a slash if one is missing, and the names. -/
theorem below_text {ns : List String} (hne : ns ≠ []) (h : ∀ n ∈ ns, IsSimple n) (root : Path) :
    (root.below ns).text.toList =
      root.text.toList ++ joint root.text.toList ++ spelling ns := by
  induction ns generalizing root with
  | nil => exact absurd rfl hne
  | cons n ns ih =>
      have hn : IsSimple n := h n (by simp)
      have hjoin : (root.join n).text.toList =
          root.text.toList ++ joint root.text.toList ++ n.toList :=
        join_text (by simpa using head?_spelling_ne (by simpa using hn : ∀ m ∈ [n], IsSimple m))
      cases ns with
      | nil => exact hjoin
      | cons m ns =>
          rw [below_cons, ih (by simp) (fun n hn => h n (List.mem_cons_of_mem _ hn)), hjoin,
            joint_append_name hn, spelling_cons_cons]
          simp

/-! ### Parts of a longer path -/

theorem leadText_splitLead (cs : List Char) :
    leadText (splitLead cs).1 ++ (splitLead cs).2 = cs := by
  unfold splitLead
  split <;> rfl

/-- A text that has no leading component and no leading slash. -/
def IsPlain (cs : List Char) : Prop := splitLead cs = (none, cs)

theorem isPlain_spelling {ns : List String} (h : ∀ n ∈ ns, IsSimple n) : IsPlain (spelling ns) := by
  have hslash := head?_spelling_ne h
  unfold IsPlain splitLead
  split
  · next he => simp [he] at hslash
  · next he =>
      -- a single dot would be the only name
      match ns, h, he with
      | [n], h, he =>
          exact absurd (by simpa using congrArg String.ofList he) (h n (by simp)).ne_here
      | n :: m :: ns, _, he =>
          have := congrArg (List.count '/') he
          simp [spelling_cons_cons] at this
  · next rest he =>
      match ns, h, he with
      | [n], h, he =>
          have : '/' ∈ spelling [n] := by simp [he]
          exact absurd this (h n (by simp)).no_slash
      | n :: m :: ns, h, he =>
          have hn : IsSimple n := h n (by simp)
          rw [spelling_cons_cons] at he
          obtain ⟨c, cs, hc⟩ := List.exists_cons_of_ne_nil hn.toList_ne_nil
          rw [hc, List.cons_append, List.cons.injEq] at he
          cases cs with
          | nil =>
              have : n = "." := by simpa [he.1] using congrArg String.ofList hc
              exact absurd this hn.ne_here
          | cons d cs =>
              have hd : d = '/' := by simpa using congrArg List.head? he.2
              exact absurd (by simp [hc, hd]) hn.no_slash
  · rfl

/-- What follows a path does not change its leading component. -/
theorem splitLead_append (cs : List Char) {tail : List Char} (ht : IsPlain tail) :
    splitLead (cs ++ joint cs ++ tail) =
      ((splitLead cs).1, (splitLead cs).2 ++ joint cs ++ tail) := by
  match cs with
  | [] => exact ht
  | '/' :: rest => rfl
  | ['.'] => rfl
  | '.' :: '/' :: rest => rfl
  | c :: rest =>
      by_cases hslash : c = '/'
      · subst hslash; rfl
      · by_cases hdot : c = '.'
        · subst hdot
          cases rest with
          | nil => rfl
          | cons d rest =>
              by_cases hd : d = '/'
              · subst hd; rfl
              · simp [splitLead, hd]
        · simp [splitLead, hslash, hdot]

/-- A path to which names are joined without a slash has no body or one that ends in a slash. -/
theorem body_of_joint_eq_nil {cs : List Char} (h : joint cs = []) :
    (splitLead cs).2 = [] ∨ ∃ body, (splitLead cs).2 = body ++ ['/'] := by
  rcases List.eq_nil_or_concat (splitLead cs).2 with hnil | ⟨body, c, hc⟩
  · exact Or.inl hnil
  · right
    have hlast : cs.getLast? = some c := by
      rw [← leadText_splitLead cs, hc, List.concat_eq_append, ← List.append_assoc,
        List.getLast?_concat]
    have hslash : c = '/' := by simpa [joint, hlast] using h
    exact ⟨body, by rw [hc, hslash, List.concat_eq_append]⟩

/-- What follows a path keeps its parts, and leaves those before it alone but for fillers. -/
theorem segments_append (cs tail : List Char) : ∃ front,
    segments ((splitLead cs).2 ++ joint cs ++ tail) = front ++ segments tail ∧
      front.filterMap Component.ofSegment? =
        (segments (splitLead cs).2).filterMap Component.ofSegment? := by
  by_cases hj : joint cs = []
  · rw [hj, List.append_nil]
    rcases body_of_joint_eq_nil hj with hnil | ⟨body, hbody⟩
    · exact ⟨[], by rw [hnil]; rfl, by rw [hnil]; rfl⟩
    · refine ⟨segments body, ?_, ?_⟩
      · rw [hbody, List.append_assoc]
        exact Text.splitOn_append_cons '/' body tail
      · have : segments (body ++ ['/']) = segments body ++ [[]] :=
          Text.splitOn_append_cons '/' body []
        rw [hbody, this, List.filterMap_append]
        simp [Component.ofSegment?, isFiller]
  · have hj : joint cs = ['/'] := by
      unfold joint at hj ⊢
      split at hj
      · exact absurd rfl hj
      · next hne => rw [if_neg hne]
    refine ⟨segments (splitLead cs).2, ?_, rfl⟩
    rw [hj, List.append_assoc]
    exact Text.splitOn_append_cons '/' (splitLead cs).2 tail

/-- A part is dropped as a filler exactly if it stands for no component. -/
theorem ofSegment?_eq_none_iff (s : List Char) :
    Component.ofSegment? s = none ↔ isFiller s = true := by
  unfold Component.ofSegment?
  split
  · simp [*]
  · split <;> simp [*]

/-- The components of a longer path. -/
theorem components_append (cs : List Char) {tail : List Char} (ht : IsPlain tail) :
    components ⟨String.ofList (cs ++ joint cs ++ tail)⟩ =
      components ⟨String.ofList cs⟩ ++ (segments tail).filterMap Component.ofSegment? := by
  obtain ⟨front, hfront, hnames⟩ := segments_append cs tail
  simp only [components, parts, String.toList_ofList]
  rw [splitLead_append cs ht, hfront, List.filterMap_append, hnames, ← List.append_assoc]

/-- The parts of a spelling are the names. -/
theorem segments_spelling {ns : List String} (hne : ns ≠ []) (h : ∀ n ∈ ns, IsSimple n) :
    segments (spelling ns) = ns.map String.toList := by
  refine Text.splitOn_joinWith (by simpa using hne) ?_
  intro s hs
  obtain ⟨n, hn, rfl⟩ := List.mem_map.1 hs
  exact (h n hn).no_slash

theorem filterMap_ofSegment?_spelling {ns : List String} (h : ∀ n ∈ ns, IsSimple n) :
    (segments (spelling ns)).filterMap Component.ofSegment? = ns.map Component.name := by
  cases ns with
  | nil => rfl
  | cons n ns =>
      rw [segments_spelling (by simp) h, List.filterMap_map]
      refine List.filterMap_eq_map_iff_forall_eq_some.2 ?_
      intro m hm
      exact (h m hm).ofSegment?

/-- **Joining simple names to a path adds them to its components.** -/
theorem components_below {ns : List String} (h : ∀ n ∈ ns, IsSimple n) (root : Path) :
    (root.below ns).components = root.components ++ ns.map Component.name := by
  cases ns with
  | nil => simp
  | cons n ns =>
      have ht := below_text (by simp) h root
      have : root.below (n :: ns) =
          ⟨String.ofList (root.text.toList ++ joint root.text.toList ++ spelling (n :: ns))⟩ := by
        rw [← ht, String.ofList_toList]
      rw [this, components_append _ (isPlain_spelling h), filterMap_ofSegment?_spelling h,
        String.ofList_toList]

/-- The relative path that some names spell has them as its components. -/
theorem components_ofNames {ns : List String} (h : ∀ n ∈ ns, IsSimple n) :
    (ofNames ns).components = ns.map Component.name := by
  have := components_append [] (isPlain_spelling h)
  rw [filterMap_ofSegment?_spelling h] at this
  exact this

/-- Simple names are known from the relative path that they spell. -/
theorem ofNames_inj {ns ms : List String} (hns : ∀ n ∈ ns, IsSimple n)
    (hms : ∀ m ∈ ms, IsSimple m) (h : ofNames ns = ofNames ms) : ns = ms := by
  have hnames : ns.map Component.name = ms.map Component.name := by
    rw [← components_ofNames hns, ← components_ofNames hms, h]
  exact List.map_injective_iff.2 (fun _ _ heq => Component.name.inj heq) hnames

/-- Joining a relative path as it is spelled adds its names to the components. -/
theorem components_join_ofNames {ns : List String} (h : ∀ n ∈ ns, IsSimple n) (root : Path) :
    (root.join (ofNames ns).text).components = root.components ++ ns.map Component.name := by
  have ht : (root.join (ofNames ns).text).text.toList =
      root.text.toList ++ joint root.text.toList ++ spelling ns := by
    rw [join_text (by simpa using head?_spelling_ne h), ofNames_text_toList]
  have : root.join (ofNames ns).text =
      ⟨String.ofList (root.text.toList ++ joint root.text.toList ++ spelling ns)⟩ := by
    rw [← ht, String.ofList_toList]
  rw [this, components_append _ (isPlain_spelling h), filterMap_ofSegment?_spelling h,
    String.ofList_toList]

/-! ### Cutting the root off -/

/-- Dropping as many components as some parts have drops just these parts, and fillers. -/
theorem dropComponents_append (front rest : List (List Char)) :
    dropComponents (front.filterMap Component.ofSegment?).length (front ++ rest) =
      dropComponents 0 rest := by
  induction front with
  | nil => rfl
  | cons s front ih =>
      cases hs : Component.ofSegment? s with
      | none =>
          have hfiller : isFiller s = true := (ofSegment?_eq_none_iff s).1 hs
          rw [List.filterMap_cons_none hs, List.cons_append, ← ih]
          cases (front.filterMap Component.ofSegment?).length <;> simp [dropComponents, hfiller]
      | some c =>
          have hfiller : isFiller s = false := by
            rw [← Bool.not_eq_true, ← ofSegment?_eq_none_iff, hs]
            simp
          rw [List.filterMap_cons_some hs, List.length_cons, List.cons_append, ← ih]
          simp [dropComponents, hfiller]

theorem dropFillers_of_forall {l : List (List Char)} (h : ∀ s ∈ l, isFiller s = false) :
    dropFillers l = l := by
  unfold dropFillers Text.dropTail
  rw [List.dropWhile_eq_self_iff.2, List.reverse_reverse]
  intro hl
  exact Bool.eq_false_iff.1 (h _ (List.mem_reverse.1 (List.getElem_mem hl)))

/-- Only the empty path has no components. -/
theorem eq_nil_of_components_eq_nil {cs : List Char}
    (h : components ⟨String.ofList cs⟩ = []) : cs = [] := by
  simp only [components, parts, String.toList_ofList, List.append_eq_nil_iff] at h
  obtain ⟨hlead, hbody⟩ := h
  match cs with
  | [] => rfl
  | c :: rest =>
      exfalso
      by_cases hslash : c = '/'
      · subst hslash
        simp [splitLead] at hlead
      · obtain ⟨s, more, hsegs⟩ := List.exists_cons_of_ne_nil (Text.splitOn_ne_nil '/' rest)
        have hbody' : (splitLead (c :: rest)).2 = c :: rest := by
          have := leadText_splitLead (c :: rest)
          rwa [Option.toList_eq_nil_iff.1 hlead] at this
        rw [hbody', segments, Text.splitOn, if_neg hslash, hsegs, List.modifyHead_cons,
          List.filterMap_eq_nil_iff] at hbody
        have hfiller := (ofSegment?_eq_none_iff _).1 (hbody (c :: s) (by simp))
        -- the first part is a single dot, which would be a leading component
        obtain ⟨rfl, rfl⟩ : c = '.' ∧ s = [] := by simpa [isFiller] using hfiller
        cases rest with
        | nil => simp [splitLead] at hlead
        | cons d rest =>
            by_cases hd : d = '/'
            · subst hd; simp [splitLead] at hlead
            · rw [Text.splitOn, if_neg hd] at hsegs
              cases hr : Text.splitOn '/' rest with
              | nil => exact Text.splitOn_ne_nil '/' rest hr
              | cons t more => simp [hr] at hsegs

/-- The components that are counted are never none, unless the path is empty. -/
theorem length_components_of_lead_none {cs : List Char} (hne : cs ≠ [])
    (hlead : (splitLead cs).1 = none) :
    ∃ k, ((segments (splitLead cs).2).filterMap Component.ofSegment?).length = k + 1 := by
  refine Nat.exists_eq_succ_of_ne_zero fun h0 => hne (eq_nil_of_components_eq_nil ?_)
  simp [components, parts, hlead, List.eq_nil_of_length_eq_zero h0]

/-- Nothing is left of a path when its own components are cut off. -/
theorem after_self (cs : List Char) :
    after (components ⟨String.ofList cs⟩).length ⟨String.ofList cs⟩ = ofNames [] := by
  have hdrop := dropComponents_append (segments (splitLead cs).2) []
  rw [List.append_nil] at hdrop
  by_cases hnil : cs = []
  · subst hnil; rfl
  · cases hlead : (splitLead cs).1 with
    | some c =>
        simp only [after, components, parts, String.toList_ofList, hlead, Option.toList_some,
          List.length_append, List.length_singleton, Nat.add_comm 1, hdrop]
        rfl
    | none =>
        obtain ⟨k, hk⟩ := length_components_of_lead_none hnil hlead
        rw [hk] at hdrop
        simp only [after, components, parts, String.toList_ofList, hlead, Option.toList_none,
          List.nil_append, hk, hdrop]
        rfl

/-- The names are left of a path below a root when the components of the root are cut off. -/
theorem after_append {ns : List String} (hne : ns ≠ []) (h : ∀ n ∈ ns, IsSimple n)
    (cs : List Char) :
    after (components ⟨String.ofList cs⟩).length
      ⟨String.ofList (cs ++ joint cs ++ spelling ns)⟩ = ofNames ns := by
  obtain ⟨front, hfront, hnames⟩ := segments_append cs (spelling ns)
  have hplain := isPlain_spelling h
  have hnofiller : ∀ s ∈ ns.map String.toList, isFiller s = false := by
    intro s hs
    obtain ⟨n, hn, rfl⟩ := List.mem_map.1 hs
    exact (h n hn).isFiller
  have hfillers : dropFillers (ns.map String.toList) = ns.map String.toList :=
    dropFillers_of_forall hnofiller
  have hdrop : dropComponents ((segments (splitLead cs).2).filterMap Component.ofSegment?).length
      (front ++ segments (spelling ns)) = ns.map String.toList := by
    rw [← hnames, dropComponents_append, segments_spelling hne h]
    obtain ⟨n, ns, rfl⟩ := List.exists_cons_of_ne_nil hne
    simp [dropComponents, hnofiller n.toList (by simp)]
  by_cases hnil : cs = []
  · subst hnil
    have : splitLead (spelling ns) = (none, spelling ns) := hplain
    simp only [after, components, parts, String.toList_ofList, joint, List.nil_append,
      List.getLast?_nil, Option.getD_none, beq_self_eq_true, if_true, this,
      segments_spelling hne h, hfillers]
    rfl
  · cases hlead : (splitLead cs).1 with
    | some c =>
        simp only [after, components, parts, String.toList_ofList, splitLead_append cs hplain,
          hfront, hlead, Option.toList_some, List.length_append, List.length_singleton,
          Nat.add_comm 1, hdrop, hfillers]
        rfl
    | none =>
        obtain ⟨k, hk⟩ := length_components_of_lead_none hnil hlead
        rw [hk] at hdrop
        simp only [after, components, parts, String.toList_ofList, splitLead_append cs hplain,
          hfront, hlead, Option.toList_none, List.nil_append, hk, hdrop, hfillers]
        rfl

/-- **What is left of an entry's path below the root is spelled by the names that lead to it.** -/
theorem under?_below {ns : List String} (h : ∀ n ∈ ns, IsSimple n) (root : Path) :
    (root.below ns).under? root = some (ofNames ns) := by
  have hprefix : root.components.isPrefixOf (root.below ns).components = true := by
    rw [components_below h, List.isPrefixOf_iff_prefix]
    exact List.prefix_append _ _
  rw [under?, if_pos hprefix]
  have hroot : root = ⟨String.ofList root.text.toList⟩ := by rw [String.ofList_toList]
  cases ns with
  | nil =>
      have := after_self root.text.toList
      rw [← hroot] at this
      rw [below_nil, this]
  | cons n ns =>
      have := after_append (by simp) h root.text.toList
      rw [← hroot, ← below_text (by simp) h, String.ofList_toList] at this
      rw [this]

/-- The path of an entry from the root is spelled by the names that lead to it. -/
theorem relativeTo_below {ns : List String} (h : ∀ n ∈ ns, IsSimple n) (root : Path) :
    (root.below ns).relativeTo root = ofNames ns := by
  rw [relativeTo, under?_below h, Option.getD_some]

end Forage.Path

/-
**How much room an expression needs.**

The size of an automaton hangs on how the states of its sets are shared.  A bound on it does not: a
step that adds states adds at most some number of bytes, whatever the tables remember, and steps one
after another add at most the sum.  So the room that is enough for an expression can be read off its
form, and is the same whichever way the automaton reads.

Main definitions:

* `Automaton.Adds` — steps that add at most so many bytes;
* `Automaton.room` — room that is enough for an expression in which nothing is counted or chosen.

Main results:

* `Automaton.adds_build` — **the states of an expression fit into its room**;
* `Automaton.fits_of_room_le` — an expression fits if its room is small enough;
* `Automaton.room_sequence_le` — putting expressions together takes hardly more than they take
  apart.
-/

import Mathlib.Algebra.GroupWithZero.Nat
import Forage.Regex.Validity

set_option relaxedAutoImplicit false
set_option autoImplicit false

namespace Forage.Regex

/-! ### Steps -/

namespace Automaton

/-- Steps that add at most `n` bytes, and come to an end where there is room for these. -/
def Adds {α : Type} (m : Build α) (n : Nat) : Prop :=
  ∀ d : Draft, d.size + n ≤ sizeLimit → ∃ a d', m.run d = some (a, d') ∧ d'.size ≤ d.size + n

section Steps

variable {α β : Type} {m : Build α} {n k : Nat}

theorem Adds.mono (h : Adds m n) (hnk : n ≤ k) : Adds m k := by
  intro d hd
  obtain ⟨a, d', hrun, hsize⟩ := h d (by omega)
  exact ⟨a, d', hrun, by omega⟩

theorem adds_pure (a : α) : Adds (pure a) 0 := fun d _ => ⟨a, d, rfl, Nat.le_refl _⟩

theorem Adds.bind {f : α → Build β} (h : Adds m n) (hf : ∀ a, Adds (f a) k) :
    Adds (m >>= f) (n + k) := by
  intro d hd
  obtain ⟨a, d₁, hrun, hsize⟩ := h d (by omega)
  obtain ⟨b, d₂, hrun', hsize'⟩ := hf a d₁ (by omega)
  refine ⟨b, d₂, ?_, by omega⟩
  rw [StateT.run_bind, hrun]
  exact hrun'

/-- A step without a result of its own, before others. -/
theorem Adds.andThen {next : Build β} (h : Adds m n) (hnext : Adds next k) :
    Adds (do let _ ← m; next) (n + k) := h.bind fun _ => hnext

theorem adds_addStates (count bytes : Nat) :
    Adds (addStates count bytes) (count * stateSize + bytes) := by
  intro d hd
  have hsize : Draft.size { d with states := d.states + count, extra := d.extra + bytes } =
      d.size + (count * stateSize + bytes) := by
    simp only [Draft.size, Nat.add_mul]
    omega
  refine ⟨d.states, _, if_pos ?_, Nat.le_of_eq hsize⟩
  rw [hsize]
  exact hd

theorem adds_addState : Adds addState 32 := adds_addStates 1 0

theorem adds_addBranch : Adds addBranch 4 := (adds_addStates 0 branchSize).andThen (adds_pure ())

theorem adds_leadOn (p : Outlet) : Adds (leadOn p) 4 := by
  unfold leadOn
  split
  · exact adds_addBranch
  · exact (adds_pure ()).mono (by omega)

/-- What the table remembers takes no room. -/
theorem adds_modify_slots (f : Draft → Std.HashMap Nat Slot) :
    Adds (modify fun d => { d with slots := f d }) 0 := fun _ _ => ⟨(), _, rfl, Nat.le_refl _⟩

theorem adds_clearTable : Adds clearTable 0 := adds_modify_slots fun _ => ∅

theorem adds_share (capacity : Nat) (key : List Nat) (bytes : Nat) :
    Adds (share capacity key bytes) (32 + bytes) := by
  have hget : Adds (get : Build Draft) 0 := fun d _ => ⟨d, d, rfl, Nat.le_refl _⟩
  refine (hget.bind fun d => ?_).mono (Nat.le_of_eq (Nat.zero_add _))
  dsimp only
  split
  · next s _ => exact (adds_pure s.state).mono (by omega)
  · exact (adds_addStates 1 bytes).bind fun state =>
      (adds_modify_slots fun d => d.slots.insert (slotOf capacity key) ⟨key, state⟩).andThen
        (adds_pure state)

end Steps

/-! ### Sets -/

/-- Putting sequences together takes one byte range off each and leaves the others. -/
theorem length_groupByFirst (seqs : List (List ByteRange)) :
    (groupByFirst seqs).length + ((groupByFirst seqs).map fun g => g.2.flatten.length).sum ≤
      seqs.flatten.length := by
  induction seqs with
  | nil => simp [groupByFirst]
  | cons s more ih =>
      cases s with
      | nil => simpa [groupByFirst] using ih
      | cons r rest =>
          have hcons : ((r :: rest) :: more).flatten.length =
              rest.length + more.flatten.length + 1 := by
            simp only [List.flatten_cons, List.length_append, List.length_cons]
            omega
          rw [groupByFirst, hcons]
          cases hgroups : groupByFirst more with
          | nil =>
              simp only [List.length_cons, List.length_nil, List.map_cons, List.map_nil,
                List.sum_cons, List.sum_nil, List.flatten_cons, List.flatten_nil, List.append_nil]
              omega
          | cons group groups =>
              obtain ⟨q, rests⟩ := group
              simp only [hgroups, List.length_cons, List.map_cons, List.sum_cons] at ih
              dsimp only
              split
              · simp only [List.length_cons, List.map_cons, List.sum_cons, List.flatten_cons,
                  List.length_append]
                omega
              · simp only [List.length_cons, List.map_cons, List.sum_cons, List.flatten_cons,
                  List.flatten_nil, List.append_nil]
                omega

/-- A byte range takes at most a state and a transition. -/
theorem adds_addForwards (target depth : Nat) (seqs : List (List ByteRange)) :
    Adds (addForwards target depth seqs) (40 * seqs.flatten.length) := by
  induction depth generalizing seqs with
  | zero =>
      rw [addForwards]
      exact (adds_pure target).mono (by omega)
  | succ depth ih =>
      have hgroups (groups : List (ByteRange × List (List ByteRange))) :
          ∀ key, Adds (addGroups target depth key groups)
            (40 * (groups.map fun g => g.2.flatten.length).sum) := by
        induction groups with
        | nil =>
            intro key
            rw [addGroups]
            exact (adds_pure _).mono (by omega)
        | cons group groups ihgroups =>
            intro key
            obtain ⟨r, rests⟩ := group
            rw [addGroups]
            refine ((ih rests).bind fun state => ihgroups _).mono ?_
            simp only [List.map_cons, List.sum_cons]
            omega
      rw [addForwards]
      split
      · exact (adds_pure target).mono (by omega)
      · next hsome =>
          have hlength := length_groupByFirst seqs
          have hnonempty : 0 < seqs.flatten.length := by
            rw [List.length_pos_iff, ne_eq, List.flatten_eq_nil_iff]
            intro hnil
            exact hsome (List.all_eq_true.2 fun s hs => by rw [hnil s hs]; rfl)
          refine ((hgroups _ _).bind fun key => adds_share _ _ _).mono ?_
          simp only [transitionSize]
          cases hgroups : groupByFirst seqs with
          | nil =>
              simp only [List.map_nil, List.sum_nil, List.length_nil]
              omega
          | cons group groups =>
              rw [hgroups, List.length_cons] at hlength
              rw [List.length_cons]
              omega

theorem adds_addBackwards (state : Nat) (bytes : List ByteRange) :
    Adds (addBackwards state bytes) (32 * bytes.length) := by
  induction bytes generalizing state with
  | nil =>
      rw [addBackwards]
      exact adds_pure state
  | cons r rest ih =>
      rw [addBackwards, List.length_cons]
      exact ((adds_share _ _ 0).bind ih).mono (by omega)

theorem adds_addAllBackwards (target : Nat) (seqs : List (List ByteRange)) :
    Adds (addAllBackwards target seqs) (32 * seqs.flatten.length + 4 * seqs.length) := by
  induction seqs with
  | nil =>
      rw [addAllBackwards]
      exact adds_pure ()
  | cons s seqs ih =>
      rw [addAllBackwards, List.flatten_cons, List.length_append, List.length_cons]
      exact ((adds_addBackwards target s).andThen (adds_addBranch.andThen ih)).mono (by omega)

/-- Room that is enough for a set, whichever way the automaton reads. -/
def setRoom (s : CodeSet) : Nat :=
  64 + 8 * s.ranges.length + 40 * (ByteRange.ofSet s).flatten.length +
    4 * (ByteRange.ofSet s).length

theorem adds_addSet (dir : Direction) (s : CodeSet) : Adds (addSet dir s) (setRoom s) := by
  have hascii : Adds
      (do
        let _ ← addState
        let _ ← addStates 1 (s.ranges.length * transitionSize)
        pure Outlet.plain) (setRoom s) := by
    refine (adds_addState.andThen ((adds_addStates 1 _).andThen (adds_pure _))).mono ?_
    simp only [setRoom, stateSize, transitionSize]
    omega
  unfold addSet
  split
  · exact hascii
  · cases dir with
    | forwards =>
        refine (adds_clearTable.andThen (adds_addState.bind fun target =>
          (adds_addForwards target 4 (ByteRange.ofSet s)).andThen (adds_pure _))).mono ?_
        simp only [setRoom]
        omega
    | backwards =>
        refine (adds_clearTable.andThen (adds_addState.andThen (adds_addState.bind fun target =>
          (adds_addAllBackwards target (ByteRange.ofSet s)).andThen (adds_pure _)))).mono ?_
        simp only [setRoom]
        omega

/-! ### Expressions -/

/-- Room that is enough for a repetition of what needs `n` bytes.  One that is counted is not
bounded here, and so gets more than there is. -/
def repeatedRoom (n : Nat) : Nat → Option Nat → Nat
  | 0, none => n + 120
  | 0, some 1 => n + 120
  | _, _ => sizeLimit + 1

mutual

/-- Room that is enough for an expression.  A choice is not bounded here either. -/
def room : Tree → Nat
  | .empty => 32
  | .literal text => 32 * Tree.bytesOf text
  | .chars s => setRoom s
  | .place _ => 32
  | .repeated low high _ t => repeatedRoom (room t) low high
  | .group _ t => room t + 68
  | .seq ts => 32 + roomOf ts
  | .choice _ => sizeLimit + 1

/-- Room that is enough for some expressions one after another. -/
def roomOf : List Tree → Nat
  | [] => 0
  | t :: ts => room t + 4 + roomOf ts

end

/-- Where more is asked for than there is, nothing has to be shown. -/
theorem adds_of_lt {α : Type} (m : Build α) {n : Nat} (h : sizeLimit < n) : Adds m n := by
  intro d hd
  omega

theorem adds_addMany {part : Build Outlet} (nonempty : Bool) {n : Nat} (h : Adds part n) :
    Adds (addMany part nonempty) (n + 120) := by
  unfold addMany
  split
  · refine (adds_addState.andThen (h.bind fun outlet => adds_addBranch.andThen
      ((adds_leadOn outlet).andThen (adds_pure _)))).mono ?_
    omega
  · refine (h.bind fun outlet => adds_addState.andThen ((adds_leadOn outlet).andThen
      (adds_addBranch.andThen (adds_addState.andThen (adds_addState.andThen
        (adds_addBranch.andThen (adds_addBranch.andThen
          (adds_addBranch.andThen (adds_pure _))))))))).mono ?_
    omega

theorem adds_addMaybe {part : Build Outlet} {n : Nat} (h : Adds part n) :
    Adds (addMaybe part) (n + 120) := by
  refine (adds_addState.andThen (h.bind fun outlet => adds_addState.andThen
    (adds_addBranch.andThen (adds_addBranch.andThen
      ((adds_leadOn outlet).andThen (adds_pure _)))))).mono ?_
  omega

theorem adds_addRepeated {part : Build Outlet} (nonempty : Bool) (low : Nat) (high : Option Nat)
    {n : Nat} (h : Adds part n) :
    Adds (addRepeated part nonempty low high) (repeatedRoom n low high) := by
  unfold repeatedRoom
  split
  · exact adds_addMany nonempty h
  · exact adds_addMaybe h
  · exact adds_of_lt _ (Nat.lt_succ_self _)

mutual

/-- **The states of an expression fit into its room**, whichever way the automaton reads. -/
theorem adds_build (dir : Direction) : ∀ t : Tree, Adds (build dir t) (room t)
  | .empty => by
      rw [build, room]
      exact adds_addState.andThen (adds_pure _)
  | .literal text => by
      rw [build, room]
      refine ((adds_addStates _ 0).andThen (adds_pure _)).mono ?_
      simp only [stateSize]
      omega
  | .chars s => by
      rw [build, room]
      exact adds_addSet dir s
  | .place _ => by
      rw [build, room]
      exact adds_addState.andThen (adds_pure _)
  | .repeated low high _ t => by
      rw [build, room]
      exact adds_addRepeated _ low high (adds_build dir t)
  | .group _ t => by
      have ht := adds_build dir t
      rw [room]
      cases dir with
      | backwards =>
          rw [build]
          exact ht.mono (by omega)
      | forwards =>
          rw [build]
          refine (adds_addState.andThen (ht.bind fun outlet => adds_addState.andThen
            ((adds_leadOn outlet).andThen (adds_pure _)))).mono ?_
          omega
  | .seq [] => by
      rw [build, room]
      exact (adds_addState.andThen (adds_pure _)).mono (by omega)
  | .seq (t :: ts) => by
      rw [build, room, roomOf]
      exact ((adds_build dir t).bind fun outlet => adds_buildAfter dir outlet ts).mono (by omega)
  | .choice _ => by
      rw [room]
      exact adds_of_lt _ (by omega)

theorem adds_buildAfter (dir : Direction) (outlet : Outlet) :
    ∀ ts : List Tree, Adds (buildAfter dir outlet ts) (roomOf ts)
  | [] => by
      rw [buildAfter, roomOf]
      exact adds_pure _
  | t :: ts => by
      rw [buildAfter, roomOf]
      refine ((adds_build dir t).bind fun next => (adds_leadOn outlet).andThen
        (adds_buildAfter dir next ts)).mono ?_
      omega

end

/-- Looking for the beginning of a match, and the group around the whole, take little. -/
theorem adds_buildWhole (dir : Direction) (t : Tree) : Adds (buildWhole dir t) (room t + 216) := by
  have hwhole (search : Outlet) : Adds
      (do
        let outlet ← build dir (.group 0 t)
        let _ ← addState
        leadOn outlet
        leadOn search) (room t + 108) := by
    have hgroup : Adds (build dir (.group 0 t)) (room t + 68) := by
      have h := adds_build dir (.group 0 t)
      rwa [room] at h
    exact hgroup.bind fun outlet => adds_addState.andThen
      ((adds_leadOn outlet).andThen (adds_leadOn search))
  unfold buildWhole
  split
  · exact (adds_addState.andThen (hwhole .plain)).mono (by omega)
  · have hsearch : Adds addSearch 108 := adds_addState.andThen (adds_addState.andThen
      ((adds_addStates 1 transitionSize).andThen (adds_addBranch.andThen (adds_pure _))))
    exact (hsearch.bind hwhole).mono (by omega)

/-! ### The reversed texts -/

theorem bytesOf_eq_sum (text : List Char) :
    Tree.bytesOf text = (text.map Char.utf8Size).sum := by
  have hfold (n : Nat) :
      text.foldl (fun n c => n + c.utf8Size) n = n + (text.map Char.utf8Size).sum := by
    induction text generalizing n with
    | nil => rfl
    | cons c text ih =>
        rw [List.foldl_cons, ih, List.map_cons, List.sum_cons]
        omega
  rw [Tree.bytesOf, hfold, Nat.zero_add]

theorem roomOf_append (ts us : List Tree) : roomOf (ts ++ us) = roomOf ts + roomOf us := by
  induction ts with
  | nil => simp [roomOf]
  | cons t ts ih =>
      rw [List.cons_append, roomOf, roomOf, ih]
      omega

theorem roomOf_reverse (ts : List Tree) : roomOf ts.reverse = roomOf ts := by
  induction ts with
  | nil => rfl
  | cons t ts ih =>
      simp only [List.reverse_cons, roomOf_append, ih, roomOf]
      omega

mutual

/-- The expression of the reversed texts needs the same room. -/
theorem room_mirror : ∀ t : Tree, room t.mirror = room t
  | .empty => by rw [Tree.mirror] <;> simp
  | .literal text => by
      rw [Tree.mirror, room, room, bytesOf_eq_sum, bytesOf_eq_sum, List.map_reverse,
        List.sum_reverse]
  | .chars s => by rw [Tree.mirror] <;> simp
  | .place _ => by rw [Tree.mirror] <;> simp
  | .repeated low high _ t => by rw [Tree.mirror, room, room, room_mirror t]
  | .group _ t => by rw [Tree.mirror, room, room, room_mirror t]
  | .seq ts => by
      rw [Tree.mirror, room, room, roomOf_mirrorOnto [] ts]
      simp [roomOf]
  | .choice _ => by rw [Tree.mirror, room, room]

theorem roomOf_mirrorOnto (known : List Tree) :
    ∀ ts : List Tree, roomOf (Tree.mirrorOnto known ts) = roomOf known + roomOf ts
  | [] => by simp [Tree.mirrorOnto, roomOf]
  | t :: ts => by
      rw [Tree.mirrorOnto, roomOf_mirrorOnto (t.mirror :: known) ts, roomOf, roomOf, room_mirror t]
      omega

end

/-- **An expression fits** if its room is small enough. -/
theorem fits_of_room_le {t : Tree} (h : room t + 216 ≤ sizeLimit) : fits t = true := by
  have hrun (dir : Direction) (u : Tree) (hu : room u = room t) :
      ((buildWhole dir u).run .initial).isSome = true := by
    have hroom : Draft.initial.size + (room u + 216) ≤ sizeLimit := by
      rw [hu]
      exact (Nat.zero_add _).symm ▸ h
    obtain ⟨a, d, hrun, -⟩ := adds_buildWhole dir u .initial hroom
    rw [hrun]
    rfl
  rw [fits, hrun .forwards t rfl, hrun .backwards t.mirror (room_mirror t)]
  rfl

/-! ### Putting expressions together -/

/-- Room for the literals that wait to be joined. -/
def waitingRoom (waiting : List (List Char)) : Nat :=
  (waiting.map fun text => 32 * Tree.bytesOf text + 4).sum

theorem waitingRoom_eq (waiting : List (List Char)) :
    waitingRoom waiting = 32 * Tree.bytesOf waiting.reverse.flatten + 4 * waiting.length := by
  induction waiting with
  | nil => rfl
  | cons text more ih =>
      have hbytes : Tree.bytesOf (text :: more).reverse.flatten =
          Tree.bytesOf more.reverse.flatten + Tree.bytesOf text := by
        simp only [bytesOf_eq_sum, List.reverse_cons, List.flatten_append, List.flatten_singleton,
          List.map_append, List.sum_append]
      rw [waitingRoom, List.map_cons, List.sum_cons, ← waitingRoom, ih, hbytes, List.length_cons]
      omega

theorem roomOf_flush_le (waiting : List (List Char)) (finished : List Tree) :
    roomOf (Tree.flush waiting finished) ≤ waitingRoom waiting + roomOf finished := by
  cases waiting with
  | nil => simp [Tree.flush]
  | cons text more =>
      rw [waitingRoom_eq, Tree.flush, List.isEmpty_cons, if_neg Bool.false_ne_true, roomOf, room,
        List.length_cons]
      omega

theorem roomOf_joinLiterals_le (waiting : List (List Char)) (finished ts : List Tree) :
    roomOf (Tree.joinLiterals waiting finished ts) ≤
      waitingRoom waiting + roomOf finished + roomOf ts := by
  fun_induction Tree.joinLiterals waiting finished ts with
  | case1 waiting finished =>
      rw [roomOf_reverse, roomOf]
      exact roomOf_flush_le waiting finished
  | case2 waiting finished text rest ih =>
      refine Nat.le_trans ih ?_
      simp only [waitingRoom, List.map_cons, List.sum_cons, roomOf, room]
      omega
  | case3 waiting finished t rest _ ih =>
      have hflush := roomOf_flush_le waiting finished
      refine Nat.le_trans ih ?_
      simp only [waitingRoom, List.map_nil, List.sum_nil, roomOf] at hflush ⊢
      omega

theorem roomOf_parts_le (t : Tree) : roomOf t.parts ≤ room t + 4 := by
  unfold Tree.parts
  split <;> simp only [room, roomOf] <;> omega

/-- Expressions one after another need hardly more room than they need apart. -/
theorem room_sequence_le (ts : List Tree) : room (Tree.sequence ts) ≤ roomOf ts + 32 := by
  have hparts : roomOf (ts.flatMap Tree.parts) ≤ roomOf ts := by
    induction ts with
    | nil => simp
    | cons t ts ih =>
        rw [List.flatMap_cons, roomOf_append, roomOf]
        have := roomOf_parts_le t
        omega
  have hjoin := roomOf_joinLiterals_le [] [] (ts.flatMap Tree.parts)
  simp only [waitingRoom, List.map_nil, List.sum_nil, roomOf] at hjoin
  unfold Tree.sequence
  split
  · rw [room]
    omega
  · next heq =>
      simp only [heq, roomOf] at hjoin
      omega
  · rw [room]
    omega

/-- A star, and what may be left out, take little beside what they stand behind. -/
theorem room_times_le {high : Option Nat} (hhigh : high = none ∨ high = some 1) (greedy : Bool)
    (t : Tree) : room (Tree.times 0 high greedy t) ≤ room t + 120 := by
  have hcounts : (if t.most == some 0 then
      (min 0 1, some ((high.map fun n => min n 1).getD 1)) else (0, high)) = (0, none) ∨
      (if t.most == some 0 then
        (min 0 1, some ((high.map fun n => min n 1).getD 1)) else (0, high)) = (0, some 1) := by
    rcases hhigh with rfl | rfl
    · split
      · exact Or.inr rfl
      · exact Or.inl rfl
    · split
      · exact Or.inr rfl
      · exact Or.inr rfl
  unfold Tree.times
  rcases hcounts with h | h
  · rw [h]
    exact Nat.le_of_eq (by simp [room, repeatedRoom])
  · rw [h]
    exact Nat.le_of_eq (by simp [room, repeatedRoom])

theorem room_ofSet_le (s : CodeSet) : room (Tree.ofSet s) ≤ setRoom s + 128 := by
  have hcases : Tree.ofSet s = .chars s ∨ ∃ c, Tree.ofSet s = .literal [c] := by
    unfold Tree.ofSet
    cases s.single? with
    | none => exact Or.inl rfl
    | some n =>
        by_cases h : n.isValidChar
        · exact Or.inr ⟨_, dif_pos h⟩
        · exact Or.inl (dif_neg h)
  rcases hcases with h | ⟨c, h⟩
  · rw [h, room]
    omega
  · have hwidth := c.utf8Size_le_four
    rw [h, room, bytesOf_eq_sum, List.map_singleton, List.sum_singleton]
    omega

/-- A single character is a text, and not a set. -/
theorem ofSet_codes_single (c : Char) : Tree.ofSet (CharSet.single c).codes = .literal [c] := by
  have hcodes : (CharSet.single c).codes = CodeSet.single c.toNat := by
    simp [CharSet.single, CharSet.codes, CodeSet.ofRanges, CodeSet.join, CodeSet.single,
      CodeSet.range]
  have hsingle : (CodeSet.single c.toNat).single? = some c.toNat := by
    simp [CodeSet.single, CodeSet.range, CodeSet.single?]
  rw [hcodes, Tree.ofSet, hsingle]
  exact dif_pos c.valid

end Automaton

end Forage.Regex

import LogicTutor.Proofs.Lists
import LogicTutor.Training.Dataset

/-! Balanced training sets. Rows and labels stand in two lists and are picked out of them side by
side, so that they can be followed as one list of pairs. Whatever numbers are drawn, the classes
come out equally large, no pair is made up and none is lost. -/
namespace LogicTutor

namespace Source

variable {α σ : Type} [Source σ]

theorem length_indices (n k : Nat) (s : σ) : (indices n k s).1.length = k := by
  induction k generalizing s with
  | zero => rfl
  | succ k ih => simp [indices, ih]

theorem lt_of_mem_indices {n : Nat} (hn : 0 < n) (k : Nat) (s : σ) :
    ∀ i ∈ (indices n k s).1, i < n := by
  induction k generalizing s with
  | zero => simp [indices]
  | succ k ih =>
    intro i hi
    simp only [indices, List.mem_cons] at hi
    rcases hi with rfl | hi
    · exact Nat.mod_lt _ hn
    · exact ih _ i hi

theorem swapIfInBounds_perm (xs : Array α) (i j : Nat) :
    (xs.swapIfInBounds i j).toList.Perm xs.toList := by
  unfold Array.swapIfInBounds
  split
  · split
    · exact (Array.swap_perm _ _).toList
    · rfl
  · rfl

theorem shuffleFrom_perm (i : Nat) (xs : Array α) (s : σ) :
    (shuffleFrom i xs s).1.toList.Perm xs.toList := by
  induction i generalizing xs s with
  | zero => rfl
  | succ i ih => exact (ih _ _).trans (swapIfInBounds_perm xs _ _)

theorem shuffle_perm (xs : List α) (s : σ) : (shuffle xs s).1.Perm xs :=
  shuffleFrom_perm _ xs.toArray s

end Source

namespace Training

variable {α β σ : Type} [Source σ]

/-! Picking entries out of both columns of a list of pairs picks them out of the pairs. -/

theorem masked_map (p : α → Bool) (f : α → β) (xs : List α) :
    masked (xs.map p) (xs.map f) = (xs.filter p).map f := by
  induction xs with
  | nil => rfl
  | cons x xs ih =>
    unfold masked at ih ⊢
    by_cases hx : p x = true <;> simp [hx, ih]

theorem entriesAt_map (f : α → β) (xs : List α) (places : List Nat) :
    entriesAt (xs.map f) places = (entriesAt xs places).map f := by
  unfold entriesAt
  rw [List.map_filterMap]
  simp only [List.getElem?_map]

theorem mem_of_mem_entriesAt {xs : List α} {places : List Nat} {x : α}
    (h : x ∈ entriesAt xs places) : x ∈ xs := by
  obtain ⟨i, -, hi⟩ := List.mem_filterMap.mp h
  exact List.mem_of_getElem? hi

theorem length_entriesAt {xs : List α} {places : List Nat} (h : ∀ i ∈ places, i < xs.length) :
    (entriesAt xs places).length = places.length := by
  induction places with
  | nil => rfl
  | cons i places ih =>
    obtain ⟨hi, hrest⟩ := List.forall_mem_cons.mp h
    have hrest := ih hrest
    unfold entriesAt at hrest ⊢
    simp [List.getElem?_eq_getElem hi, hrest]

/-- All places, each once, give all entries. -/
theorem entriesAt_range (xs : List α) : entriesAt xs (List.range xs.length) = xs := by
  have hget : (List.range xs.length).map (fun i => xs[i]?) = xs.map some := by
    refine List.ext_getElem (by simp) fun i hi _ => ?_
    have hi : i < xs.length := by simpa using hi
    simp [hi]
  calc entriesAt xs (List.range xs.length)
      = ((List.range xs.length).map fun i => xs[i]?).filterMap id := by
        rw [List.filterMap_map]
        rfl
    _ = xs := by
        rw [hget, List.filterMap_map]
        exact List.filterMap_some

theorem entriesAt_perm (xs : List α) {places : List Nat}
    (h : places.Perm (List.range xs.length)) : (entriesAt xs places).Perm xs :=
  (h.filterMap _).trans (.of_eq (entriesAt_range xs))

/-- The pairs `ys` are pairs of `xs`, none of the classes `cs` lost any, and these classes, and no
others, have `target` members each. -/
structure Levels [DecidableEq α] (target : Nat) (xs : List (α × Int)) (cs : List Int)
    (ys : List (α × Int)) : Prop where
  size : ∀ c, (ys.map (·.2)).count c = if c ∈ cs then target else 0
  mem : ∀ y ∈ ys, y ∈ xs
  count_le : ∀ x, x.2 ∈ cs → xs.count x ≤ ys.count x

section Levels

variable [DecidableEq α] {target : Nat} {xs ys zs : List (α × Int)} {c : Int} {cs : List Int}

/-- The members of one class, with more of them, level that class if there are enough. -/
theorem levels_of_members (hlen : ys.length + (xs.filter fun x => x.2 == c).length = target)
    (hmem : ∀ y ∈ ys, y ∈ xs.filter fun x => x.2 == c) :
    Levels target xs [c] ((xs.filter fun x => x.2 == c) ++ ys) := by
  have hall : ∀ y ∈ (xs.filter fun x => x.2 == c) ++ ys, y ∈ xs ∧ y.2 = c := by
    intro y hy
    have hy : y ∈ xs.filter fun x => x.2 == c := (List.mem_append.mp hy).elim id (hmem y)
    simpa using hy
  have hlabels : ((xs.filter fun x => x.2 == c) ++ ys).map (·.2) = List.replicate target c := by
    refine List.eq_replicate_iff.mpr ⟨?_, fun b hb => ?_⟩
    · rw [List.length_map, List.length_append]
      omega
    · obtain ⟨y, hy, rfl⟩ := List.mem_map.mp hb
      exact (hall y hy).2
  refine ⟨fun d => ?_, fun y hy => (hall y hy).1, fun x hx => ?_⟩
  · rw [hlabels, List.count_replicate]
    by_cases hd : d = c
    · simp [hd]
    · simp [hd, Ne.symm hd]
  · have hx : (x.2 == c) = true := beq_iff_eq.mpr (List.mem_singleton.mp hx)
    rw [List.count_append, List.count_filter (p := fun x : α × Int => x.2 == c) hx]
    exact Nat.le_add_right _ _

/-- One class: what comes of the two columns are the columns of one list of pairs. -/
theorem oversample_levels (s : σ) (hc : c ∈ xs.map (·.2))
    (hle : (xs.map (·.2)).count c ≤ target) :
    ∃ ys, (oversample target (xs.map (·.1)) (xs.map (·.2)) c s).1 =
      (ys.map (·.1), ys.map (·.2)) ∧ Levels target xs [c] ys := by
  have hmask : (xs.map (·.2)).map (· == c) = xs.map fun x => x.2 == c := by
    rw [List.map_map]
    rfl
  have hcount : (xs.filter fun x => x.2 == c).length = (xs.map (·.2)).count c := by
    rw [List.count, List.countP_map, List.countP_eq_length_filter]
    rfl
  have hpos : 0 < (xs.filter fun x => x.2 == c).length := hcount ▸ List.count_pos_iff.mpr hc
  unfold oversample
  simp only [hmask, masked_map, List.length_map, entriesAt_map, ← List.map_append]
  split
  next hlt =>
    have hbelow := Source.lt_of_mem_indices hpos
      (target - (xs.filter fun x => x.2 == c).length) s
    refine ⟨_, rfl, levels_of_members ?_ fun y => mem_of_mem_entriesAt⟩
    rw [length_entriesAt hbelow, Source.length_indices]
    omega
  next hge =>
    have hnone : Levels target xs [c] ((xs.filter fun x => x.2 == c) ++ []) :=
      levels_of_members (by rw [List.length_nil]; omega) (by simp)
    exact ⟨_, rfl, by simpa using hnone⟩

theorem Levels.append (hy : Levels target xs [c] ys) (hz : Levels target xs cs zs)
    (hc : c ∉ cs) : Levels target xs (c :: cs) (ys ++ zs) := by
  refine ⟨fun d => ?_, fun y h => ?_, fun x hx => ?_⟩
  · rw [List.map_append, List.count_append, hy.size, hz.size]
    by_cases hd : d = c
    · subst hd
      simp [hc]
    · simp [hd]
  · exact (List.mem_append.mp h).elim (hy.mem y) (hz.mem y)
  · rw [List.count_append]
    rcases List.mem_cons.mp hx with hx | hx
    · have := hy.count_le x (List.mem_singleton.mpr hx)
      omega
    · have := hz.count_le x hx
      omega

/-- The classes one after the other: what has been made so far is level in the classes that were
dealt with. -/
theorem oversampleAll_levels (s : σ) (hmem : ∀ c ∈ cs, c ∈ xs.map (·.2)) (hnodup : cs.Nodup)
    (hle : ∀ c, (xs.map (·.2)).count c ≤ target) :
    ∃ ys, (oversampleAll target (xs.map (·.1)) (xs.map (·.2)) cs s).1 =
      (ys.map (·.1), ys.map (·.2)) ∧ Levels target xs cs ys := by
  induction cs generalizing s with
  | nil => exact ⟨[], rfl, fun c => rfl, fun y hy => absurd hy List.not_mem_nil, by simp⟩
  | cons c cs ih =>
    obtain ⟨hc, hcs⟩ := List.forall_mem_cons.mp hmem
    obtain ⟨hnew, hnodup⟩ := List.nodup_cons.mp hnodup
    obtain ⟨ys, hys, hy⟩ := oversample_levels s hc (hle c)
    obtain ⟨zs, hzs, hz⟩ := ih (oversample target (xs.map (·.1)) (xs.map (·.2)) c s).2 hcs hnodup
    refine ⟨ys ++ zs, ?_, hy.append hz hnew⟩
    simp only [oversampleAll, hys, hzs, List.map_append]

theorem Levels.perm (h : Levels target xs cs ys) (hp : zs.Perm ys) : Levels target xs cs zs where
  size c := ((hp.map _).count_eq c).trans (h.size c)
  mem y hy := h.mem y (hp.mem_iff.mp hy)
  count_le x hx := (hp.count_eq x).symm ▸ h.count_le x hx

end Levels

/-- The size that all classes are brought to is that of a largest one. -/
theorem exists_largest {labels : List Int} (hne : labels ≠ []) :
    ∃ top ∈ labels, (∀ c, labels.count c ≤ labels.count top) ∧
      (labels.eraseDups.map labels.count).foldl max 0 = labels.count top := by
  have hsizes : labels.eraseDups.map labels.count ≠ [] := by
    obtain ⟨c, hc⟩ := List.exists_mem_of_ne_nil labels hne
    exact List.ne_nil_of_mem (List.mem_map_of_mem (List.mem_eraseDups.mpr hc))
  obtain ⟨size, hsize⟩ := Option.isSome_iff_exists.mp (List.isSome_max?_iff.mpr hsizes)
  obtain ⟨hmem, hmax⟩ := List.max?_eq_some_iff.mp hsize
  obtain ⟨top, htop, rfl⟩ := List.mem_map.mp hmem
  refine ⟨top, List.mem_eraseDups.mp htop, fun c => ?_, ?_⟩
  · by_cases hc : c ∈ labels
    · exact hmax _ (List.mem_map_of_mem (List.mem_eraseDups.mpr hc))
    · rw [List.count_eq_zero_of_not_mem hc]
      exact Nat.zero_le _
  · rw [List.foldl_max, hsize]
    exact Nat.zero_max _

/-- Both columns of a list of pairs are balanced to the columns of one list of pairs, in which the
classes are level. -/
theorem balance_columns [DecidableEq α] (xs : List (α × Int)) (hne : xs.map (·.2) ≠ []) (s : σ) :
    ∃ ys, balance (xs.map (·.1)) (xs.map (·.2)) s = some (ys.map (·.1), ys.map (·.2)) ∧
      ∃ top ∈ xs.map (·.2), (∀ c, (xs.map (·.2)).count c ≤ (xs.map (·.2)).count top) ∧
        Levels ((xs.map (·.2)).count top) xs (xs.map (·.2)).eraseDups ys := by
  obtain ⟨top, htop, hle, htarget⟩ := exists_largest hne
  obtain ⟨ys, hys, hlevels⟩ := oversampleAll_levels s
    (fun c hc => List.mem_eraseDups.mp hc) (nodup_eraseDups (xs.map (·.2))) hle
  have hperm := entriesAt_perm ys (Source.shuffle_perm (List.range ys.length)
    (oversampleAll ((xs.map (·.2)).count top) (xs.map (·.1)) (xs.map (·.2))
      (xs.map (·.2)).eraseDups s).2)
  refine ⟨_, ?_, top, htop, hle, hlevels.perm hperm⟩
  unfold balance
  split
  next h => exact absurd h hne
  next => simp only [htarget, hys, List.length_map, entriesAt_map]

/-- Balancing fails on the empty set only. Otherwise every class comes to the size of a largest
one, each row stands beside a label that it had before, and every pair of row and label is there at
least as often as before, whatever numbers are drawn. -/
theorem balance_levels_classes [DecidableEq α] (rows : List α) (labels : List Int) (s : σ)
    (hlen : rows.length = labels.length) :
    (balance rows labels s = none ↔ labels = []) ∧
    (labels ≠ [] → ∃ rows' labels', balance rows labels s = some (rows', labels') ∧
      rows'.length = labels'.length ∧
      (∃ top ∈ labels, (∀ c, labels.count c ≤ labels.count top) ∧
        ∀ c ∈ labels, labels'.count c = labels.count top) ∧
      (∀ y ∈ rows'.zip labels', y ∈ rows.zip labels) ∧
      ∀ x, (rows.zip labels).count x ≤ (rows'.zip labels').count x) := by
  constructor
  · constructor
    · intro h
      cases labels with
      | nil => rfl
      | cons c cs => cases h
    · rintro rfl
      rfl
  · intro hne
    have hfst : (rows.zip labels).map (·.1) = rows := List.map_fst_zip (Nat.le_of_eq hlen)
    have hsnd : (rows.zip labels).map (·.2) = labels := List.map_snd_zip (Nat.le_of_eq hlen.symm)
    obtain ⟨ys, hbalance, top, htop, hle, hlevels⟩ :=
      balance_columns (rows.zip labels) (hsnd.symm ▸ hne) s
    simp only [hfst, hsnd] at hbalance htop hle hlevels
    have hzip : (ys.map (·.1)).zip (ys.map (·.2)) = ys := by simp [List.zip_map']
    refine ⟨_, _, hbalance, by simp, ⟨top, htop, hle, fun c hc => ?_⟩, ?_, fun x => ?_⟩
    · rw [hlevels.size, if_pos (List.mem_eraseDups.mpr hc)]
    · rw [hzip]
      exact hlevels.mem
    · -- A pair that is not given occurs no time.
      rw [hzip]
      by_cases hx : x ∈ rows.zip labels
      · exact hlevels.count_le x (List.mem_eraseDups.mpr (List.of_mem_zip hx).2)
      · rw [List.count_eq_zero_of_not_mem hx]
        exact Nat.zero_le _

theorem balance_levels_classes_drawn :
    let rows : List String := ["p", "q", "r", "p", "p"]
    let labels : List Int := [3, 3, -1, 3, 7]
    let rows' : List String := ["r", "p", "p", "p", "p", "q", "p", "r", "r"]
    let labels' : List Int := [-1, 3, 7, 7, 3, 3, 7, -1, -1]
    rows.length = labels.length ∧ labels ≠ [] ∧
      balance rows labels (Chance.ofSeed 5) = some (rows', labels') ∧
      (∃ top ∈ labels, (∀ c, labels.count c ≤ labels.count top) ∧
        ∀ c ∈ labels, labels'.count c = labels.count top) ∧
      (∀ y ∈ rows'.zip labels', y ∈ rows.zip labels) ∧
      ∀ x, (rows.zip labels).count x ≤ (rows'.zip labels').count x := by
  intro rows labels rows' labels'
  have hlen : rows.length = labels.length := rfl
  have hne : labels ≠ [] := List.cons_ne_nil _ _
  have hdrawn : balance rows labels (Chance.ofSeed 5) = some (rows', labels') := by decide +kernel
  obtain ⟨_, _, hbalance, -, hlevels⟩ :=
    (balance_levels_classes rows labels (Chance.ofSeed 5) hlen).2 hne
  obtain ⟨rfl, rfl⟩ := Prod.mk.inj (Option.some.inj (hdrawn.symm.trans hbalance))
  exact ⟨hlen, hne, hdrawn, hlevels⟩

end Training

end LogicTutor

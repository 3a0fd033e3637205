import LogicTutor.Campus.Contents
import LogicTutor.Proofs.Campus.Table
import Mathlib.Logic.Relation

/-! Folders in folders: what a change to the contents does to the ways up from parent to parent. A
way that was there stays, unless content is moved into a folder that lies in it. -/
namespace LogicTutor.Contents

open Campus Relation

variable {rows : List Content} {n n' m k : Content} {top : Option Id → Prop}

/-- The content `n` lies in the folder `m`, which is kept and belongs to the same class. -/
structure LiesIn (rows : List Content) (n m : Content) : Prop where
  mem : m ∈ rows
  folder : m.material.isFolder = true
  sameClass : m.classId = n.classId
  parent : n.parentId = some m.id

/-- Going up from folder to folder comes to an end, at content with a parent as `top` has it. -/
inductive Ends (top : Option Id → Prop) (rows : List Content) : Content → Prop
  | top {n : Content} (h : top n.parentId) : Ends top rows n
  | up {n m : Content} (h : LiesIn rows n m) (hm : Ends top rows m) : Ends top rows n

/-- Every way up ends at content without a parent. -/
def Forest (rows : List Content) : Prop := ∀ n ∈ rows, Ends (· = none) rows n

/-- The parent is missing or empty. -/
def AtTop (p : Option Id) : Prop := p = none ∨ p = some ""

/-- A way that ends does so at content that is kept. -/
theorem Ends.exists_top (h : Ends top rows n) (hn : n ∈ rows) : ∃ k ∈ rows, top k.parentId := by
  induction h with
  | @top n h => exact ⟨n, hn, h⟩
  | up h _ ih => exact ih h.mem

theorem not_forest (hne : rows ≠ []) (h : ∀ k ∈ rows, k.parentId ≠ none) : ¬ Forest rows := by
  intro hforest
  obtain ⟨n, hn⟩ := List.exists_mem_of_ne_nil rows hne
  obtain ⟨k, hk, htop⟩ := (hforest n hn).exists_top hn
  exact h k hk htop

/-- What holds of contents however they came about: they are told apart by identifiers, none of
which is empty, and the parent of each is missing, empty or another folder of its class. -/
structure Orderly (rows : List Content) : Prop where
  ids : (rows.map Content.id).Nodup
  named : ∀ n ∈ rows, n.id ≠ ""
  parent : ∀ n ∈ rows, AtTop n.parentId ∨ ∃ m, LiesIn rows n m ∧ m.id ≠ n.id

/-- What has a parent as `top` has it lies in no folder. -/
def Stops (top : Option Id → Prop) (rows : List Content) : Prop :=
  ∀ n m, top n.parentId → ¬ LiesIn rows n m

theorem stops_none (rows : List Content) : Stops (· = none) rows := by
  intro n m hn h
  rw [h.parent] at hn
  cases hn

theorem Orderly.stops (h : Orderly rows) : Stops AtTop rows := by
  intro n m hn hm
  rw [hm.parent] at hn
  rcases hn with hn | hn
  · cases hn
  · exact h.named m hm.mem (Option.some.inj hn)

theorem eq_of_id_eq (hids : (rows.map Content.id).Nodup) (hn : n ∈ rows) (hm : m ∈ rows)
    (h : n.id = m.id) : n = m := Campus.eq_of_key_eq hids hn hm h

theorem LiesIn.unique (hids : (rows.map Content.id).Nodup) (hm : LiesIn rows n m)
    (hk : LiesIn rows n k) : m = k := by
  have hid : some m.id = some k.id := hm.parent.symm.trans hk.parent
  exact eq_of_id_eq hids hm.mem hk.mem (Option.some.inj hid)

/-- Where content lies is a matter of its class and its parent. -/
theorem LiesIn.congr (h : LiesIn rows n m) (hclass : n'.classId = n.classId)
    (hparent : n'.parentId = n.parentId) : LiesIn rows n' m :=
  ⟨h.mem, h.folder, h.sameClass.trans hclass.symm, hparent.trans h.parent⟩

/-- A way that comes to an end does not come back. -/
theorem Ends.not_cyclic (hids : (rows.map Content.id).Nodup) (hstops : Stops top rows)
    (h : Ends top rows n) : ¬ TransGen (LiesIn rows) n n := by
  induction h with
  | top h =>
    intro hcycle
    obtain ⟨m, hm, -⟩ := TransGen.head'_iff.mp hcycle
    exact hstops _ m h hm
  | @up n m h _ ih =>
    intro hcycle
    obtain ⟨k, hk, hback⟩ := TransGen.head'_iff.mp hcycle
    obtain rfl := h.unique hids hk
    exact ih (TransGen.tail' hback h)

/-! New content. -/

theorem LiesIn.append (h : LiesIn rows k m) (n : Content) : LiesIn (rows ++ [n]) k m :=
  ⟨List.mem_append_left _ h.mem, h.folder, h.sameClass, h.parent⟩

theorem Ends.append (h : Ends top rows k) (n : Content) : Ends top (rows ++ [n]) k := by
  induction h with
  | top h => exact .top h
  | up h _ ih => exact .up (h.append n) ih

theorem Orderly.append (h : Orderly rows) (hnew : ∀ k ∈ rows, k.id ≠ n.id) (hid : n.id ≠ "")
    (hparent : AtTop n.parentId ∨ ∃ m, LiesIn rows n m) : Orderly (rows ++ [n]) where
  ids := Campus.nodup_append h.ids hnew
  named k hk := by
    rcases List.mem_append.mp hk with hk | hk
    · exact h.named k hk
    · rwa [List.mem_singleton.mp hk]
  parent k hk := by
    rcases List.mem_append.mp hk with hk | hk
    · obtain hk | ⟨m, hm, hne⟩ := h.parent k hk
      · exact .inl hk
      · exact .inr ⟨m, hm.append n, hne⟩
    · obtain rfl := List.mem_singleton.mp hk
      obtain hn | ⟨m, hm⟩ := hparent
      · exact .inl hn
      · exact .inr ⟨m, hm.append k, hnew m hm.mem⟩

theorem forall_ends_append (h : ∀ k ∈ rows, Ends top rows k)
    (hparent : top n.parentId ∨ ∃ m, LiesIn rows n m) :
    ∀ k ∈ rows ++ [n], Ends top (rows ++ [n]) k := by
  intro k hk
  rcases List.mem_append.mp hk with hk | hk
  · exact (h k hk).append n
  · obtain rfl := List.mem_singleton.mp hk
    rcases hparent with hk | ⟨m, hm⟩
    · exact .top hk
    · exact .up (hm.append k) ((h m hm.mem).append k)

/-! Contents that change without losing what others know of them. -/

/-- The change keeps identifiers and classes, and what is a folder. -/
structure Faithful (rows : List Content) (φ : Content → Content) : Prop where
  id : ∀ n ∈ rows, (φ n).id = n.id
  classId : ∀ n ∈ rows, (φ n).classId = n.classId
  folder : ∀ n ∈ rows, (φ n).material.isFolder = n.material.isFolder

namespace Faithful

variable {φ : Content → Content} (hφ : Faithful rows φ)
include hφ

theorem liesIn (h : LiesIn rows k m) : LiesIn (rows.map φ) k (φ m) where
  mem := List.mem_map_of_mem h.mem
  folder := (hφ.folder m h.mem).trans h.folder
  sameClass := (hφ.classId m h.mem).trans h.sameClass
  parent := by rw [hφ.id m h.mem, h.parent]

theorem map_id : (rows.map φ).map Content.id = rows.map Content.id := by
  rw [List.map_map]
  exact List.map_congr_left hφ.id

/-- Changed contents are orderly if the parent of each, after the change, is one that it could have
had before. -/
theorem orderly (hids : (rows.map Content.id).Nodup) (hnamed : ∀ k ∈ rows, k.id ≠ "")
    (hparent : ∀ k ∈ rows, AtTop (φ k).parentId ∨ ∃ m, LiesIn rows (φ k) m ∧ m.id ≠ k.id) :
    Orderly (rows.map φ) where
  ids := by
    rw [hφ.map_id]
    exact hids
  named k hk := by
    obtain ⟨r, hr, rfl⟩ := List.mem_map.mp hk
    rw [hφ.id r hr]
    exact hnamed r hr
  parent k hk := by
    obtain ⟨r, hr, rfl⟩ := List.mem_map.mp hk
    obtain htop | ⟨m, hm, hne⟩ := hparent r hr
    · exact .inl htop
    · refine .inr ⟨φ m, hφ.liesIn hm, ?_⟩
      rwa [hφ.id m hm.mem, hφ.id r hr]

end Faithful

/-! Content that is replaced by another with its identifier. -/

/-- `n'` is what `n` is changed to. -/
structure Replaces (rows : List Content) (n n' : Content) : Prop where
  ids : (rows.map Content.id).Nodup
  mem : n ∈ rows
  id : n'.id = n.id
  classId : n'.classId = n.classId
  folder : n'.material.isFolder = n.material.isFolder

namespace Replaces

variable (h : Replaces rows n n')
include h

theorem substitute_self : substitute Content.id n' n = n' := if_pos h.id.symm

theorem eq_of_substitute (hk : k ∈ rows) :
    k = n ∧ substitute Content.id n' k = n' ∨ k ≠ n ∧ substitute Content.id n' k = k := by
  by_cases hkn : k = n
  · exact .inl ⟨hkn, hkn ▸ h.substitute_self⟩
  · refine .inr ⟨hkn, if_neg fun hid => hkn ?_⟩
    exact eq_of_id_eq h.ids hk h.mem (hid.trans h.id)

theorem faithful : Faithful rows (substitute Content.id n') where
  id k hk := by
    obtain ⟨rfl, he⟩ | ⟨-, he⟩ := h.eq_of_substitute hk
    · rw [he, h.id]
    · rw [he]
  classId k hk := by
    obtain ⟨rfl, he⟩ | ⟨-, he⟩ := h.eq_of_substitute hk
    · rw [he, h.classId]
    · rw [he]
  folder k hk := by
    obtain ⟨rfl, he⟩ | ⟨-, he⟩ := h.eq_of_substitute hk
    · rw [he, h.folder]
    · rw [he]

theorem orderly (hrows : Orderly rows)
    (hparent : AtTop n'.parentId ∨ ∃ m, LiesIn rows n' m ∧ m.id ≠ n.id) :
    Orderly (replaced Content.id n' rows) := by
  refine h.faithful.orderly hrows.ids hrows.named fun k hk => ?_
  obtain ⟨rfl, he⟩ | ⟨-, he⟩ := h.eq_of_substitute hk
  · rwa [he]
  · rw [he]
    exact hrows.parent k hk

/-- What lies in a folder from which no way leads by the content still lies in it. -/
theorem liesIn_of_avoids (hm : LiesIn rows k m) (havoids : ¬ ReflTransGen (LiesIn rows) m n) :
    LiesIn (replaced Content.id n' rows) k m := by
  have hm' := h.faithful.liesIn hm
  obtain ⟨rfl, -⟩ | ⟨-, he⟩ := h.eq_of_substitute hm.mem
  · exact absurd .refl havoids
  · rwa [he] at hm'

/-- A way that does not lead by the content stays as it is. -/
theorem ends_of_avoids (hk : Ends top rows k) (havoids : ¬ ReflTransGen (LiesIn rows) k n) :
    Ends top (replaced Content.id n' rows) k := by
  induction hk with
  | top hk => exact .top hk
  | @up k m hm _ ih =>
    have hmn : ¬ ReflTransGen (LiesIn rows) m n := fun hr => havoids (.head hm hr)
    exact .up (h.liesIn_of_avoids hm hmn) (ih hmn)

/-- A way that leads by the content goes on by that of the new one. -/
theorem ends (hn' : Ends top (replaced Content.id n' rows) n') (hk : k ∈ rows)
    (hends : Ends top rows k) :
    Ends top (replaced Content.id n' rows) (substitute Content.id n' k) := by
  induction hends with
  | @top k htop =>
    obtain ⟨-, he⟩ | ⟨-, he⟩ := h.eq_of_substitute hk
    · rwa [he]
    · rw [he]
      exact .top htop
  | @up k m hm _ ih =>
    obtain ⟨-, he⟩ | ⟨-, he⟩ := h.eq_of_substitute hk
    · rwa [he]
    · rw [he]
      exact .up (h.faithful.liesIn hm) (ih hm.mem)

theorem forall_ends (hends : ∀ k ∈ rows, Ends top rows k)
    (hparent : top n'.parentId ∨
      ∃ m, LiesIn rows n' m ∧ ¬ ReflTransGen (LiesIn rows) m n) :
    ∀ k ∈ replaced Content.id n' rows, Ends top (replaced Content.id n' rows) k := by
  have hn' : Ends top (replaced Content.id n' rows) n' := by
    rcases hparent with htop | ⟨m, hm, havoids⟩
    · exact .top htop
    · exact .up (h.liesIn_of_avoids hm havoids) (h.ends_of_avoids (hends m hm.mem) havoids)
  intro k hk
  obtain ⟨r, hr, rfl⟩ := List.mem_map.mp hk
  exact h.ends hn' hr (hends r hr)

/-- Content that is put into a folder below it is on no way that ends. -/
theorem not_ends (hstops : Stops top (replaced Content.id n' rows)) (hm : LiesIn rows n' m)
    (hbelow : ReflTransGen (LiesIn rows) m n) : ¬ Ends top (replaced Content.id n' rows) n' := by
  have hstep := h.faithful.liesIn hm
  have hway : ReflTransGen (LiesIn (replaced Content.id n' rows))
      (substitute Content.id n' m) n' := by
    clear hm hstep
    induction hbelow using ReflTransGen.head_induction_on with
    | refl => rw [h.substitute_self]
    | @head k k' hk _ ih =>
      by_cases hid : k.id = n'.id
      · rw [substitute, if_pos hid]
      · rw [substitute, if_neg hid]
        exact .head (h.faithful.liesIn hk) ih
  intro hends
  exact hends.not_cyclic (nodup_replaced h.ids) hstops (TransGen.head' hstep hway)

end Replaces

/-! Content that is removed. -/

/-- Content without its parent, if that has the identifier. -/
def detached (key : Id) (now : Instant) (n : Content) : Content :=
  if n.parentId = some key then { n with parentId := none, updatedAt := now } else n

section

variable (key : Id) (now : Instant)

theorem parentId_detached (k : Content) : (detached key now k).parentId = none ∨
    k.parentId ≠ some key ∧ detached key now k = k := by
  unfold detached
  split
  next => exact .inl rfl
  next hk => exact .inr ⟨hk, rfl⟩

theorem faithful_detached (rows : List Content) : Faithful rows (detached key now) where
  id k _ := by unfold detached; split <;> rfl
  classId k _ := by unfold detached; split <;> rfl
  folder k _ := by unfold detached; split <;> rfl

theorem LiesIn.without {key : Id} (h : LiesIn rows k m) (hk : k.parentId ≠ some key) :
    LiesIn (Campus.without Content.id key rows) k m := by
  have hm : m.id ≠ key := by
    rintro rfl
    exact hk h.parent
  exact ⟨List.mem_filter.mpr ⟨h.mem, by simpa using hm⟩, h.folder, h.sameClass, h.parent⟩

theorem Orderly.erased (h : Orderly rows) :
    Orderly ((Campus.without Content.id key rows).map (detached key now)) := by
  have hsub : (Campus.without Content.id key rows).Sublist rows := List.filter_sublist
  refine (faithful_detached key now _).orderly (h.ids.sublist (hsub.map _))
    (fun k hk => h.named k (hsub.subset hk)) fun k hk => ?_
  obtain hnone | ⟨hne, he⟩ := parentId_detached key now k
  · exact .inl (.inl hnone)
  · rw [he]
    obtain hp | ⟨m, hm, hmk⟩ := h.parent k (hsub.subset hk)
    · exact .inl hp
    · exact .inr ⟨m, hm.without hne, hmk⟩

/-- Ways that lead by removed content end before it. -/
theorem Ends.erased (hnone : top none) (h : Ends top rows k) :
    Ends top ((Campus.without Content.id key rows).map (detached key now))
      (detached key now k) := by
  induction h with
  | @top k htop =>
    obtain hp | ⟨-, he⟩ := parentId_detached key now k
    · exact .top (hp ▸ hnone)
    · rw [he]
      exact .top htop
  | @up k m hm _ ih =>
    obtain hp | ⟨hne, he⟩ := parentId_detached key now k
    · exact .top (hp ▸ hnone)
    · rw [he]
      exact .up ((faithful_detached key now _).liesIn (hm.without hne)) ih

theorem forall_ends_erased (hnone : top none) (h : ∀ k ∈ rows, Ends top rows k) :
    ∀ k ∈ (Campus.without Content.id key rows).map (detached key now),
      Ends top ((Campus.without Content.id key rows).map (detached key now)) k := by
  intro k hk
  obtain ⟨r, hr, rfl⟩ := List.mem_map.mp hk
  exact (h r (List.mem_of_mem_filter hr)).erased key now hnone

end

end LogicTutor.Contents

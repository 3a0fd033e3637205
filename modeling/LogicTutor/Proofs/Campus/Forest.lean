import LogicTutor.Proofs.Campus.Syllabus
import Mathlib.Data.List.Perm.Subperm

/-! Whether the contents of a campus form a forest. Whatever is done, the parent of content is a
folder of its class, if it is not missing or empty; that the ways up end without exception takes
actions that put no folder into one below it. -/
namespace LogicTutor

open Relation

namespace Contents

variable {c : Campus} {admin id : Id} {now : Instant} {n n' m : Content}

/-- New content is at the top, or has an empty parent, or lies in a folder. -/
theorem Creates.place {d : Draft} (h : Creates c d n) :
    n.parentId = none ∨ n.parentId = some "" ∨ ∃ m, LiesIn c.contents n m := by
  cases hp : n.parentId with
  | none => exact .inl rfl
  | some p =>
    by_cases hempty : p = ""
    · exact .inr (.inl (hempty ▸ rfl))
    · exact .inr (.inr (h.folder p hp hempty))

/-- `n'` is what a change makes of `n`. -/
structure Updates (c : Campus) (d : Change) (n n' : Content) : Prop where
  id : n'.id = n.id
  classId : n'.classId = n.classId
  folder : n'.material.isFolder = n.material.isFolder
  parent : n'.parentId = d.parentId.getD n.parentId
  moves : Moves c d n n'

theorem isFolder_applyMaterial (d : Change) (m : Material) :
    (d.applyMaterial m).isFolder = m.isFolder := by
  cases m <;> rfl

theorem updates_of_apply {d : Change} (happly : d.apply now n = .ok n') (hmoves : Moves c d n n') :
    Updates c d n n' := by
  obtain ⟨title, -, hn'⟩ := Change.apply_eq_ok happly
  refine ⟨hn' ▸ rfl, hn' ▸ rfl, ?_, hn' ▸ rfl, hmoves⟩
  rw [hn']
  exact isFolder_applyMaterial d n.material

theorem Updates.replaces {d : Change} (h : Updates c d n n') (hc : Orderly c.contents)
    (hn : n ∈ c.contents) : Replaces c.contents n n' where
  ids := hc.ids
  mem := hn
  id := h.id
  classId := h.classId
  folder := h.folder

/-- Changed content stays where it was, or is put at the top or into another folder. -/
theorem Updates.place {d : Change} (h : Updates c d n n') :
    n'.parentId = n.parentId ∨ n'.parentId = none ∨
      ∃ m, LiesIn c.contents n' m ∧ m.id ≠ n.id ∧ d.parentId = some (some m.id) := by
  have hparent := h.parent
  match hp : d.parentId with
  | none =>
    rw [hp] at hparent
    exact .inl hparent
  | some none =>
    rw [hp] at hparent
    exact .inr (.inl hparent)
  | some (some p) =>
    obtain ⟨hne, m, hm, rfl⟩ := h.moves p hp
    exact .inr (.inr ⟨m, hm, hne, rfl⟩)

/-- Content of an administrator is found by its identifier. -/
theorem own?_eq (hc : Orderly c.contents) (hn : n ∈ c.contents)
    (howner : c.owns admin n.classId = true) : own? c admin n.id = some n := by
  refine Campus.find?_eq_some hc.ids hn (by simp [howner]) fun k hk => ?_
  simp only [Bool.and_eq_true, decide_eq_true_eq] at hk
  exact hk.1

end Contents

namespace Action

open Contents

variable {c : Campus} {now : Instant} {a : Action} {top : Option Id → Prop}

/-- The action makes content with an empty parent. -/
def Strays (c : Campus) (now : Instant) (a : Action) : Prop :=
  ∃ admin d, a = .createContent admin d ∧ d.parentId = some "" ∧ (a.perform c now).Succeeds

/-- The action moves content into a folder that lies in it. -/
def MovesInward (c : Campus) (now : Instant) (a : Action) : Prop :=
  ∃ admin id d n m, a = .updateContent admin id d ∧ own? c admin id = some n ∧ m ∈ c.contents ∧
    d.parentId = some (some m.id) ∧ ReflTransGen (LiesIn c.contents) m n ∧
    (a.perform c now).Succeeds

/-- What the contents can be after an action. -/
inductive ContentsAfter (c : Campus) (now : Instant) (a : Action) : List Content → Prop
  | same (hs : ¬ (a.perform c now).Succeeds ∨ ¬ a.WritesContents) :
      ContentsAfter c now a c.contents
  | created {admin : Id} {d : Draft} {n : Content} (ha : a = .createContent admin d)
      (hs : (a.perform c now).Succeeds) (hn : Creates c d n) :
      ContentsAfter c now a (c.contents ++ [n])
  | updated {admin id : Id} {d : Change} {n n' : Content} (ha : a = .updateContent admin id d)
      (hs : (a.perform c now).Succeeds) (hn : n ∈ c.contents) (hid : n.id = id)
      (howner : c.owns admin n.classId = true) (hn' : Updates c d n n') :
      ContentsAfter c now a (Campus.replaced Content.id n' c.contents)
  | erased {admin id : Id} (ha : a = .deleteContent admin id) (key : Id) : ContentsAfter c now a
      ((Campus.without Content.id key c.contents).map (detached key now))

theorem contents_of_effect {told : Option ClassRow} {c' : Campus} (h : Effect c now a told c')
    (ha : ¬ a.WritesContents) : c'.contents = c.contents := by
  cases h with
  | madeContent | changedContent | erasedContent => exact absurd trivial ha
  | _ => rfl

theorem contents_perform (c : Campus) (now : Instant) (ha : ¬ a.WritesContents) :
    (a.perform c now).campus.contents = c.contents := by
  obtain ⟨told, heffect⟩ | hsame := effect_perform c now a
  · exact contents_of_effect heffect ha
  · exact hsame.contents

/-- A deed on contents leads to what is told if it succeeds, and else leaves them as they were. -/
theorem contentsAfter_of_brings {α : Type} {d : Deed α} {k : Nat} {f : α → Json}
    {told : α → Option ClassRow} (h : d.Brings c k fun r => Effect c now a (told r))
    (hd : a.perform c now = d.map f)
    (hafter : ∀ r c', (a.perform c now).Succeeds → Effect c now a (told r) c' →
      ContentsAfter c now a c'.contents) :
    ContentsAfter c now a (a.perform c now).campus.contents := by
  have hsucceeds : (a.perform c now).Succeeds ↔ d.Succeeds := by
    rw [hd]
    exact Deed.succeeds_map
  have hcampus : (a.perform c now).campus = d.campus := by
    rw [hd]
    rfl
  rw [hcampus]
  obtain ⟨r, message, hr, heffect⟩ | ⟨hs, n, -, hspent⟩ := h
  · exact hafter r _ (hsucceeds.mpr ⟨r, message, hr⟩) heffect
  · rw [hspent]
    exact .same (.inl fun h => hs (hsucceeds.mp h))

theorem contentsAfter_perform (c : Campus) (now : Instant) (a : Action) :
    ContentsAfter c now a (a.perform c now).campus.contents := by
  by_cases ha : a.WritesContents
  · cases a with
    | createContent admin d =>
      refine contentsAfter_of_brings (create_brings c admin now d) rfl fun n c' hs heffect => ?_
      cases heffect with
      | madeContent hn => exact .created rfl hs hn
    | updateContent admin id d =>
      refine contentsAfter_of_brings (update_brings c admin now id d) rfl fun n c' hs heffect => ?_
      cases heffect with
      | changedContent hn hid howner happly hmoves =>
        exact .updated rfl hs hn hid howner (updates_of_apply happly hmoves)
    | deleteContent admin id =>
      refine contentsAfter_of_brings (delete_brings c admin now id) rfl fun n c' hs heffect => ?_
      cases heffect with
      | erasedContent => exact .erased rfl id
      | touchedStudent ha => cases ha
    | _ => exact ha.elim
  · rw [contents_perform c now ha]
    exact .same (.inr ha)

/-- Contents stay orderly, whatever is done. -/
theorem orderly_perform (hc : Orderly c.contents) (now : Instant) (a : Action) :
    Orderly (a.perform c now).campus.contents := by
  have hafter := contentsAfter_perform c now a
  generalize (a.perform c now).campus.contents = rows at hafter ⊢
  cases hafter with
  | same => exact hc
  | @created admin d n ha hs hn =>
    refine hc.append hn.fresh (hn.id ▸ c.ids.ne_empty _) ?_
    obtain hp | hp | hm := hn.place
    · exact .inl (.inl hp)
    · exact .inl (.inr hp)
    · exact .inr hm
  | @updated admin id d n n' ha hs hn hid howner hn' =>
    refine (hn'.replaces hc hn).orderly hc ?_
    obtain hp | hp | ⟨m, hm, hne, -⟩ := hn'.place
    · obtain htop | ⟨m, hm, hne⟩ := hc.parent n hn
      · exact .inl (hp ▸ htop)
      · exact .inr ⟨m, hm.congr hn'.classId hp, hne⟩
    · exact .inl (.inl hp)
    · exact .inr ⟨m, hm, hne⟩
  | erased ha key => exact hc.erased key now

/-- Ways up keep ending, as long as no content is moved into a folder that lies in it and `top`
has the empty parents that are made. -/
theorem forall_ends_perform (hnone : top none) (hstops : Stops top c.contents)
    (hc : Orderly c.contents) (hends : ∀ k ∈ c.contents, Ends top c.contents k)
    (hstray : a.Strays c now → top (some "")) (hinward : ¬ a.MovesInward c now) :
    ∀ k ∈ (a.perform c now).campus.contents, Ends top (a.perform c now).campus.contents k := by
  have hafter := contentsAfter_perform c now a
  generalize (a.perform c now).campus.contents = rows at hafter ⊢
  cases hafter with
  | same => exact hends
  | @created admin d n ha hs hn =>
    refine forall_ends_append hends ?_
    obtain hp | hp | hm := hn.place
    · exact .inl (hp ▸ hnone)
    · exact .inl (hp ▸ hstray ⟨admin, d, ha, hn.parent.symm.trans hp, hs⟩)
    · exact .inr hm
  | @updated admin id d n n' ha hs hn hid howner hn' =>
    refine (hn'.replaces hc hn).forall_ends hends ?_
    obtain hp | hp | ⟨m, hm, -, hd⟩ := hn'.place
    · -- the way from the old content does not come back to it
      cases hends n hn with
      | top htop => exact .inl (hp ▸ htop)
      | @up _ m hm hm' =>
        refine .inr ⟨m, hm.congr hn'.classId hp, fun hback => ?_⟩
        exact (Ends.up hm hm').not_cyclic hc.ids hstops (TransGen.head' hm hback)
    · exact .inl (hp ▸ hnone)
    · refine .inr ⟨m, hm, fun hr => hinward ⟨admin, id, d, n, m, ha, ?_, hm.mem, hd, hr, hs⟩⟩
      exact hid ▸ own?_eq hc hn howner
  | erased ha key => exact forall_ends_erased key now hnone hends

theorem not_forest_of_strays (hc : Orderly c.contents) (h : a.Strays c now) :
    ¬ Forest (a.perform c now).campus.contents := by
  obtain ⟨admin, d, ha, hd, hs⟩ := h
  have hnamed := (orderly_perform hc now a).named
  have hafter := contentsAfter_perform c now a
  generalize (a.perform c now).campus.contents = rows at hafter hnamed ⊢
  cases hafter with
  | same hfail =>
    subst ha
    exact absurd trivial (hfail.resolve_left (not_not_intro hs))
  | @created admin' d' n ha' _ hn =>
    obtain ⟨-, rfl⟩ := createContent.inj (ha.symm.trans ha')
    have hempty : n.parentId = some "" := hn.parent.trans hd
    intro hforest
    cases hforest n (by simp) with
    | top htop => cases hempty.symm.trans htop
    | @up _ m hm _ =>
      have hid : some m.id = some "" := hm.parent.symm.trans hempty
      exact hnamed m hm.mem (Option.some.inj hid)
  | updated ha' => cases ha.symm.trans ha'
  | erased ha' => cases ha.symm.trans ha'

theorem not_forest_of_movesInward (hc : Orderly c.contents) (h : a.MovesInward c now) :
    ¬ Forest (a.perform c now).campus.contents := by
  obtain ⟨admin, id, d, n, m, ha, hn, hmem, hd, hbelow, hs⟩ := h
  obtain ⟨hn, hid, -⟩ := own?_eq_some hn
  have hafter := contentsAfter_perform c now a
  generalize (a.perform c now).campus.contents = rows at hafter ⊢
  cases hafter with
  | same hfail =>
    subst ha
    exact absurd trivial (hfail.resolve_left (not_not_intro hs))
  | created ha' => cases ha.symm.trans ha'
  | @updated admin' id' d' n₁ n' ha' _ hn₁ hid₁ _ hn' =>
    obtain ⟨rfl, rfl, rfl⟩ := updateContent.inj (ha.symm.trans ha')
    obtain rfl := eq_of_id_eq hc.ids hn hn₁ (hid.trans hid₁.symm)
    obtain ⟨-, m', hm', hid'⟩ := hn'.moves m.id hd
    obtain rfl := eq_of_id_eq hc.ids hm'.mem hmem hid'
    have hreplaces := hn'.replaces hc hn
    intro hforest
    refine hreplaces.not_ends (stops_none _) hm' hbelow (hforest n' ?_)
    exact Campus.mem_replaced_self hn hn'.id
  | erased ha' => cases ha.symm.trans ha'

/-- From a forest an action leads to a forest, unless it makes content with an empty parent or
moves content into a folder that lies in it. -/
theorem forest_perform_iff (hc : Orderly c.contents) (hforest : Forest c.contents) :
    Forest (a.perform c now).campus.contents ↔ ¬ a.Strays c now ∧ ¬ a.MovesInward c now := by
  constructor
  · intro h
    exact ⟨fun hs => not_forest_of_strays hc hs h, fun hm => not_forest_of_movesInward hc hm h⟩
  · rintro ⟨hstray, hinward⟩
    exact forall_ends_perform rfl (stops_none _) hc hforest (fun h => absurd h hstray) hinward

end Action

namespace Lessons

open Contents

variable {c : Campus} {n m : Content} {student id : Id} {fuel : Nat} {below ns : List Content}

theorem content?_eq_some (hc : Orderly c.contents) (hm : m ∈ c.contents) :
    c.content? m.id = some m :=
  Campus.find?_eq_some hc.ids hm (decide_eq_true rfl) fun _ h => of_decide_eq_true h

theorem wayTo_top (h : AtTop n.parentId) : wayTo c (fuel + 1) n below = some (n :: below) := by
  rcases h with h | h <;> simp [wayTo, h, Option.filter]

theorem wayTo_up (hc : Orderly c.contents) (h : LiesIn c.contents n m) :
    wayTo c (fuel + 1) n below = wayTo c fuel m (n :: below) := by
  simp [wayTo, h.parent, Option.filter, hc.named m h.mem, content?_eq_some hc h.mem]

/-- A way that is found leads to the top. -/
theorem ends_of_wayTo (hc : Orderly c.contents) (hn : n ∈ c.contents)
    (h : wayTo c fuel n below = some ns) : Ends AtTop c.contents n := by
  induction fuel generalizing n below with
  | zero => cases h
  | succ fuel ih =>
    obtain htop | ⟨m, hm, -⟩ := hc.parent n hn
    · exact .top htop
    · rw [wayTo_up hc hm] at h
      exact .up hm (ih hm.mem h)

/-- A way that ends comes by no content twice, and is found by going up as often as it is long. -/
theorem exists_wayTo (hc : Orderly c.contents) (hn : n ∈ c.contents)
    (h : Ends AtTop c.contents n) :
    ∃ l : List Content, l.Nodup ∧ l ⊆ c.contents ∧
      (∀ k ∈ l, ReflTransGen (LiesIn c.contents) n k) ∧
      ∀ fuel below, l.length ≤ fuel → wayTo c fuel n below = some (l.reverse ++ below) := by
  induction h with
  | @top n htop =>
    refine ⟨[n], List.nodup_singleton n, by simpa using hn, ?_, fun fuel below hfuel => ?_⟩
    · intro k hk
      rw [List.mem_singleton.mp hk]
    · obtain ⟨fuel, rfl⟩ := Nat.exists_eq_add_of_le' hfuel
      exact wayTo_top htop
  | @up n m hm hends ih =>
    obtain ⟨l, hnodup, hsub, hreach, hway⟩ := ih hm.mem
    have hnl : n ∉ l := fun hnl =>
      hends.not_cyclic hc.ids hc.stops (TransGen.tail' (hreach n hnl) hm)
    refine ⟨n :: l, List.nodup_cons.mpr ⟨hnl, hnodup⟩, List.cons_subset.mpr ⟨hn, hsub⟩, ?_, ?_⟩
    · intro k hk
      rcases List.mem_cons.mp hk with rfl | hk
      · exact .refl
      · exact .head hm (hreach k hk)
    · intro fuel below hfuel
      obtain ⟨fuel, rfl⟩ := Nat.exists_eq_add_of_le' (Nat.le_trans (Nat.le_add_left 1 _) hfuel)
      rw [List.length_cons] at hfuel
      rw [wayTo_up hc hm, hway fuel _ (by omega), List.reverse_cons, List.append_assoc]
      rfl

/-- Going up as often as there are contents, and once more, tells whether the way ends. -/
theorem wayTo_eq_none_iff (hc : Orderly c.contents) (hn : n ∈ c.contents) :
    wayTo c (c.contents.length + 1) n [] = none ↔ ¬ Ends AtTop c.contents n := by
  constructor
  · intro hnone hends
    obtain ⟨l, hnodup, hsub, -, hway⟩ := exists_wayTo hc hn hends
    have hlen : l.length ≤ c.contents.length := (hnodup.subperm hsub).length_le
    rw [hway _ [] (by omega)] at hnone
    cases hnone
  · intro hends
    cases h : wayTo c (c.contents.length + 1) n [] with
    | none => rfl
    | some ns => exact absurd (ends_of_wayTo hc hn h) hends

theorem ambiguous_of_isEnrolled {classId : Id} {f : Failure}
    (h : isEnrolled c student classId = .error f) : f = .ambiguous := by
  unfold isEnrolled at h
  split at h
  · cases h
  · cases h
  · cases h
    rfl

/-- The way to a content is asked for without end if the student is enrolled and the way up does
not end, and not otherwise. -/
theorem way_endless_iff (hc : Orderly c.contents) (student id : Id) :
    (way c student id).result = .error .endless ↔ ∃ n, c.content? id = some n ∧
      isEnrolled c student n.classId = .ok true ∧ ¬ Ends AtTop c.contents n := by
  unfold way
  cases hn : c.content? id with
  | none => simp [Deed.refused]
  | some n =>
    have hmem : n ∈ c.contents := List.mem_of_find?_eq_some hn
    simp only [Option.some.injEq, exists_eq_left', ← wayTo_eq_none_iff hc hmem]
    unfold whenEnrolled
    split
    next f hf =>
      obtain rfl := ambiguous_of_isEnrolled hf
      simp [Deed.broken, hf]
    next hno => simp [Deed.refused, hno]
    next hyes =>
      split
      next ns hns => simp [Deed.answered, hns]
      next hnone => simp [Deed.broken, hyes, hnone]

end Lessons

namespace Campus

open Contents

theorem orderly_nil : Orderly [] := ⟨.nil, by simp, by simp⟩

/-- What holds of no contents, and actions keep, holds of the contents of every campus: setting up
makes none. -/
theorem Arises.contents_invariant {allowed : Campus → Instant → Action → Prop}
    {P : List Content → Prop} {c : Campus} (hempty : P [])
    (hperform : ∀ c now a, P c.contents → allowed c now a → P (a.perform c now).campus.contents)
    (h : c.Arises allowed) : P c.contents := by
  refine h.invariant (P := fun c => P c.contents) (fun _ => hempty) (fun c c' hc hstep => ?_)
    hperform
  rw [hstep.sameRegister.contents]
  exact hc

theorem Arises.orderly {allowed : Campus → Instant → Action → Prop} {c : Campus}
    (h : c.Arises allowed) : Orderly c.contents :=
  h.contents_invariant orderly_nil fun _ now a hc _ => Action.orderly_perform hc now a

/-- On every campus contents are orderly, and the way to one of them is asked for without end only
if it has none. From a forest of contents an action leads to a forest, unless it makes content with
an empty parent or moves one into a folder that lies in it; where neither was ever done, contents
are a forest. For the ways to end it is enough that nothing was moved so. -/
theorem contents_form_forest (c : Campus) (hc : c.Arises fun _ _ _ => True) :
    Orderly c.contents ∧
    (Forest c.contents → ∀ now a, Forest (Action.perform c now a).campus.contents ↔
      ¬ a.Strays c now ∧ ¬ a.MovesInward c now) ∧
    (∀ student id, (Lessons.way c student id).result = .error .endless ↔
      ∃ n, c.content? id = some n ∧ Lessons.isEnrolled c student n.classId = .ok true ∧
        ¬ Ends AtTop c.contents n) ∧
    (c.Arises (fun c now a => ¬ a.Strays c now ∧ ¬ a.MovesInward c now) → Forest c.contents) ∧
    (c.Arises (fun c now a => ¬ a.MovesInward c now) →
      ∀ student id, (Lessons.way c student id).result ≠ .error .endless) := by
  have ho := hc.orderly
  refine ⟨ho, fun hf now a => Action.forest_perform_iff ho hf, Lessons.way_endless_iff ho,
    fun hc => ?_, fun hc student id => ?_⟩
  · refine (hc.contents_invariant (P := fun rows => Orderly rows ∧ Forest rows)
      ⟨orderly_nil, by simp [Forest]⟩ ?_).2
    rintro c now a ⟨ho, hf⟩ ha
    exact ⟨Action.orderly_perform ho now a, (Action.forest_perform_iff ho hf).mpr ha⟩
  · have hends := (hc.contents_invariant (P := fun rows => Orderly rows ∧
      ∀ k ∈ rows, Ends AtTop rows k) ⟨orderly_nil, by simp⟩ ?_).2
    · rw [Ne, Lessons.way_endless_iff ho]
      rintro ⟨n, hn, -, hnot⟩
      exact hnot (hends n (List.mem_of_find?_eq_some hn))
    · rintro c now a ⟨ho, hends⟩ ha
      exact ⟨Action.orderly_perform ho now a, Action.forall_ends_perform (.inl rfl) ho.stops ho
        hends (fun _ => .inr rfl) ha⟩

/-- A class with an access code. -/
def course : Action := .createClass "a" ⟨some "Turma", none, some "T1", .obj []⟩

/-- Makes a folder in the class, inside the folder that is given. -/
def mkFolder (parent : Option Id) : Action :=
  .createContent "a"
    ⟨some "pasta", some "Pasta", none, some (idOf 1), parent, 0, .shown, .obj [], []⟩

theorem mkFolder_admitted {c : Campus} {parent : Option Id} (h : parent ≠ some "") :
    ¬ (mkFolder parent).Strays c 0 ∧ ¬ (mkFolder parent).MovesInward c 0 := by
  constructor
  · rintro ⟨admin, d, ha, hd, -⟩
    cases ha
    exact h hd
  · rintro ⟨_, _, _, _, _, ha, -⟩
    cases ha

/-- A class with a folder in a folder. -/
def nested : Campus :=
  (Campus.empty .counting).run 0 [course, mkFolder none, mkFolder (some (idOf 2))]

def outer : Content :=
  ⟨idOf 2, "Pasta", none, idOf 1, none, some 0, .shown, "a", 0, 0, .obj [],
    .folder none none (some false)⟩

def inner : Content := { outer with id := idOf 3, parentId := some outer.id }

/-- Moves the outer folder into the inner one. -/
def moveOuter : Action :=
  .updateContent "a" outer.id
    ⟨none, none, some (some inner.id), none, none, none, none, none, none, none, none, none⟩

theorem contents_nested : nested.contents = [outer, inner] := rfl

/-- The contents are a forest as long as one folder lies in the other, and no longer when that is
moved into the first. -/
theorem contents_form_forest_nested :
    Forest nested.contents ∧ ¬ Forest (moveOuter.perform nested 0).campus.contents := by
  have hc : nested.Arises fun _ _ _ => True := .run (.empty _) fun _ _ => trivial
  obtain ⟨-, hstep, -, hforest, -⟩ := contents_form_forest nested hc
  have hnested : Forest nested.contents := by
    refine hforest (.perform (.perform (.perform (.empty _) ?_) ?_) ?_)
    · constructor
      · rintro ⟨_, _, h, -⟩
        cases h
      · rintro ⟨_, _, _, _, _, h, -⟩
        cases h
    · exact mkFolder_admitted nofun
    · exact mkFolder_admitted fun h => idOf_ne_empty 2 (Option.some.inj h)
  refine ⟨hnested, fun h => ((hstep hnested 0 moveOuter).mp h).2 ?_⟩
  have hlies : LiesIn nested.contents inner outer := by
    rw [contents_nested]
    exact ⟨by simp, rfl, rfl, rfl⟩
  exact ⟨"a", outer.id, _, outer, inner, rfl, rfl, by simp [contents_nested], rfl, .single hlies,
    _, _, rfl⟩

/-- The folders after that, one in the other. -/
def circle : Campus := nested.run 0 [moveOuter]

/-- The same class with a student. -/
def visited : Campus := circle.run 0
  [.signUp ⟨some "Ana", some "ana@x.org", some "1", some "1", none, some "T1"⟩]

/-- A class with a folder of which the parent is empty. -/
def stray : Campus := (Campus.empty .counting).run 0 [course, mkFolder (some "")]

/-- A folder that is moved into one below it closes a circle, in which a student is led around
without end; and content that is made with an empty parent lies in no folder, and not at the top
either. -/
theorem contents_in_circle :
    (∃ as, (∀ a ∈ as, a.ManagesClasses) ∧ circle = (Campus.empty .counting).run 0 as) ∧
    ¬ Forest circle.contents ∧
    (Lessons.way visited (idOf 4) outer.id).result = .error .endless ∧
    (∃ as, (∀ a ∈ as, a.ManagesClasses) ∧ stray = (Campus.empty .counting).run 0 as) ∧
    ¬ Forest stray.contents := by
  refine ⟨⟨[course, mkFolder none, mkFolder (some (idOf 2)), moveOuter], ?_, rfl⟩,
    not_forest nofun (by decide), rfl, ⟨[course, mkFolder (some "")], ?_, rfl⟩,
    not_forest nofun (by decide)⟩
  · simp [course, mkFolder, moveOuter, Action.ManagesClasses, Action.WritesContents]
  · simp [course, mkFolder, Action.ManagesClasses, Action.WritesContents]

end Campus

end LogicTutor

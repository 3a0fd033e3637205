import LogicTutor.Campus.Setup
import LogicTutor.Proofs.Campus.Frame
import LogicTutor.Proofs.Campus.Table
import Mathlib.Logic.Relation

/-! What setting up a campus does, step by step, and the campuses that come about by setting up and
by actions. -/
namespace LogicTutor

open Campus Relation

namespace Setup

variable {c c' : Campus} {now : Instant}

/-- One step of setting up: an administrator, an area, or a subarea of an area that is there. -/
inductive Step : Campus → Campus → Prop
  | admin {c : Campus} (a : Admin) : Step c { c.spend 1 with admins := c.admins ++ [a] }
  | area {c : Campus} {a : Area} (hfresh : ∀ b ∈ c.areas, b.id ≠ a.id) :
      Step c { c.spend 1 with areas := c.areas ++ [a] }
  | subarea {c : Campus} {s : Subarea} (hfresh : ∀ t ∈ c.subareas, t.id ≠ s.id)
      (hnamed : s.id ≠ "") (harea : ∃ a ∈ c.areas, a.id = s.areaId) :
      Step c { c.spend 1 with subareas := c.subareas ++ [s] }

theorem addAdmin_step {name email password : String}
    (h : addAdmin c name email password = some c') : Step c c' := by
  unfold addAdmin at h
  split at h
  · cases h
  · cases hadd : (c.spend 1).addAdmin ⟨c.nextId, name, email, some password, some true⟩ with
    | error f =>
      rw [hadd] at h
      cases h
    | ok c'' =>
      rw [hadd] at h
      obtain rfl := Option.some.inj h
      obtain ⟨-, rfl⟩ := eq_of_insertRow hadd
      exact .admin _

theorem addSubareas_steps (areaId : Id) (place : Nat) (names : List String) (c : Campus)
    (made : Nat) (harea : ∃ a ∈ c.areas, a.id = areaId) :
    ReflTransGen Step c (addSubareas now areaId place names (c, made)).1 := by
  induction names generalizing place c made with
  | nil => exact .refl
  | cons name names ih =>
    unfold addSubareas
    split
    · exact ih _ c made harea
    · split
      next c' h =>
        obtain ⟨hfresh, rfl⟩ := eq_of_insertRow h
        exact .head (.subarea hfresh (c.ids.ne_empty _) harea) (ih _ _ _ harea)
      next => exact ih _ c made harea

theorem addPlan_steps (p : Progress) (planned : Plan × Nat) :
    ReflTransGen Step p.campus (addPlan now p planned).campus := by
  obtain ⟨plan, place⟩ := planned
  unfold addPlan
  dsimp only
  split
  next a ha => exact addSubareas_steps _ _ _ _ _ ⟨a, List.mem_of_find?_eq_some ha, rfl⟩
  next =>
    split
    next c' h =>
      obtain ⟨hfresh, rfl⟩ := eq_of_insertRow h
      refine .head (.area hfresh) (addSubareas_steps _ _ _ _ _ ?_)
      exact ⟨_, List.mem_append_right _ (List.mem_singleton.mpr rfl), rfl⟩
    next => exact .refl

theorem addPlans_steps (now : Instant) (plans : List (Plan × Nat)) (p : Progress) :
    ReflTransGen Step p.campus (plans.foldl (addPlan now) p).campus := by
  induction plans generalizing p with
  | nil => exact .refl
  | cons plan plans ih => exact (addPlan_steps p plan).trans (ih _)

/-- Every command comes to a number of steps. -/
theorem run_steps (command : Command) (c : Campus) (now : Instant) (lines : List String) :
    ReflTransGen Step c (command.run c now lines).2 := by
  cases command with
  | firstAdmin =>
    unfold Command.run
    dsimp only
    split
    next c' h => exact .single (addAdmin_step h)
    next => exact .refl
  | newAdmin name email password =>
    unfold Command.run
    dsimp only
    split
    · exact .refl
    split
    · exact .refl
    split
    · exact .refl
    split
    next c' h => exact .single (addAdmin_step h)
    next => exact .refl
  | areas =>
    have hsteps := addPlans_steps now (plans.zipIdx 1) ⟨c, 0, 0, ""⟩
    unfold Command.run addAreas
    dsimp only
    exact hsteps

end Setup

namespace Campus

/-- The campuses that come about from the empty one by setting up, and by actions as `allowed` has
them. -/
inductive Arises (allowed : Campus → Instant → Action → Prop) : Campus → Prop
  | empty (ids : Ids) : Arises allowed (.empty ids)
  | setup {c : Campus} (h : Arises allowed c) (command : Setup.Command) (now : Instant)
      (lines : List String) : Arises allowed (command.run c now lines).2
  | perform {c : Campus} {now : Instant} {a : Action} (h : Arises allowed c)
      (ha : allowed c now a) : Arises allowed (a.perform c now).campus

/-- What the empty campus has, and every step of setting up and every action keep, all of them
have. -/
theorem Arises.invariant {allowed : Campus → Instant → Action → Prop} {P : Campus → Prop}
    {c : Campus} (hempty : ∀ ids, P (.empty ids)) (hsetup : ∀ c c', P c → Setup.Step c c' → P c')
    (hperform : ∀ c now a, P c → allowed c now a → P (a.perform c now).campus)
    (h : Arises allowed c) : P c := by
  induction h with
  | empty ids => exact hempty ids
  | @setup c _ command now lines ih =>
    have hsteps := Setup.run_steps command c now lines
    generalize (command.run c now lines).2 = c' at hsteps ⊢
    induction hsteps with
    | refl => exact ih
    | tail _ hstep ih => exact hsetup _ _ ih hstep
  | perform _ ha ih => exact hperform _ _ _ ih ha

theorem Arises.run {allowed : Action → Prop} {as : List Action} {c : Campus} {now : Instant}
    (h : c.Arises fun _ _ a => allowed a) (has : ∀ a ∈ as, allowed a) :
    (c.run now as).Arises fun _ _ a => allowed a := by
  induction as generalizing c with
  | nil => exact h
  | cons a as ih =>
    obtain ⟨ha, has⟩ := List.forall_mem_cons.mp has
    exact ih (.perform h ha) has

end Campus

end LogicTutor

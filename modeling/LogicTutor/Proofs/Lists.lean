import Mathlib.Data.List.Induction

/-! Lists in general: elements where they first appear, association lists, and numbered entries. -/
namespace LogicTutor

section FirstAppearances

variable {α β : Type} [BEq α] [LawfulBEq α] [BEq β] [LawfulBEq β]

theorem nodup_eraseDups (l : List α) : l.eraseDups.Nodup := by
  induction hk : l.length using Nat.strongRecOn generalizing l with
  | ind k ih =>
    cases l with
    | nil => simp
    | cons a as =>
      rw [List.eraseDups_cons, List.nodup_cons]
      refine ⟨by simp, ih _ ?_ _ rfl⟩
      have := List.length_filter_le (fun b => !(b == a)) as
      simp only [List.length_cons] at hk
      omega

theorem eraseDups_concat (l : List α) (a : α) [Decidable (a ∈ l)] :
    (l ++ [a]).eraseDups = if a ∈ l then l.eraseDups else l.eraseDups ++ [a] := by
  rw [List.eraseDups_append]
  split <;> simp_all [List.removeAll, List.eraseDups_cons]

/-- Repeated elements do not count for the first appearances among their images. -/
theorem eraseDups_filterMap_eraseDups (q : α → Option β) (l : List α) :
    (l.eraseDups.filterMap q).eraseDups = (l.filterMap q).eraseDups := by
  classical
  induction l using List.reverseRecOn with
  | nil => rfl
  | append_singleton l a ih =>
    rw [eraseDups_concat, List.filterMap_append]
    cases hb : q a with
    | none =>
      have hnil : [a].filterMap q = [] := by simp [hb]
      split <;> simp [List.filterMap_append, hnil, ih]
    | some b =>
      have hsingle : [a].filterMap q = [b] := by simp [hb]
      rw [hsingle, eraseDups_concat]
      have hmem : b ∈ l.eraseDups.filterMap q ↔ b ∈ l.filterMap q := by
        simp only [List.mem_filterMap, List.mem_eraseDups]
      split
      next ha => rw [if_pos (List.mem_filterMap.mpr ⟨a, ha, hb⟩), ih]
      next => rw [List.filterMap_append, hsingle, eraseDups_concat, ih]; simp only [hmem]

end FirstAppearances

theorem lookup_cons {α : Type} (key n : String) (y : α) (es : List (String × α)) :
    ((key, y) :: es).lookup n = if n = key then some y else es.lookup n := by
  rw [List.lookup_cons]
  by_cases h : n = key
  · simp [h]
  · rw [beq_false_of_ne h, if_neg h]

/-- In an association list made from its keys a key has the value that was made for it. -/
theorem lookup_map {α : Type} (q : String → α) (keys : List String) (n : String) :
    (keys.map fun k => (k, q k)).lookup n = if n ∈ keys then some (q n) else none := by
  induction keys with
  | nil => rfl
  | cons k keys ih =>
    rw [List.map_cons, lookup_cons, ih]
    by_cases h : n = k <;> simp [h]

end LogicTutor

import LogicTutor.Campus.Store
import Mathlib.Data.List.Nodup

/-! Tables of rows that are told apart by identifiers: what a new row, a changed row and a removed
row do to the identifiers and to a selection of the rows. -/
namespace LogicTutor.Campus

variable {α : Type} {id : α → Id} {row r s : α} {rows : List α} {key : Id} {p : α → Bool}

theorem eq_of_key_eq (hids : (rows.map id).Nodup) (hr : r ∈ rows) (hs : s ∈ rows)
    (h : id r = id s) : r = s := List.inj_on_of_nodup_map hids hr hs h

/-- A row that is looked for by its identifier, and perhaps by something else, is found. -/
theorem find?_eq_some (hids : (rows.map id).Nodup) (hr : r ∈ rows) (hp : p r = true)
    (hkey : ∀ s, p s = true → id s = id r) : rows.find? p = some r := by
  have hsome : (rows.find? p).isSome := List.find?_isSome.mpr ⟨r, hr, hp⟩
  obtain ⟨s, hs⟩ := Option.isSome_iff_exists.mp hsome
  rw [hs, eq_of_key_eq hids (List.mem_of_find?_eq_some hs) hr (hkey s (List.find?_some hs))]

/-- A row that was looked for by its identifier has it. -/
theorem mem_of_find?_id (h : rows.find? (fun r => id r = key) = some r) : r ∈ rows ∧ id r = key :=
  ⟨List.mem_of_find?_eq_some h, of_decide_eq_true (List.find?_some h :)⟩

theorem mem_of_find?_id_and (h : rows.find? (fun r => id r = key && p r) = some r) :
    r ∈ rows ∧ id r = key ∧ p r = true := by
  have hr := List.find?_some h
  rw [Bool.and_eq_true, decide_eq_true_eq] at hr
  exact ⟨List.mem_of_find?_eq_some h, hr⟩

theorem nodup_append (hids : (rows.map id).Nodup) (hfresh : ∀ r ∈ rows, id r ≠ id row) :
    ((rows ++ [row]).map id).Nodup := by
  rw [List.map_append, List.nodup_append]
  refine ⟨hids, List.nodup_singleton _, ?_⟩
  rintro _ hr _ hrow rfl
  obtain ⟨r, hr, hid⟩ := List.mem_map.mp hr
  exact hfresh r hr (hid.trans (List.mem_singleton.mp hrow))

theorem map_id_replaced : (replaced id row rows).map id = rows.map id := by
  unfold replaced
  rw [List.map_map]
  refine List.map_congr_left fun r _ => ?_
  dsimp only [Function.comp_apply, substitute]
  split
  next h => exact h.symm
  next => rfl

theorem nodup_replaced (hids : (rows.map id).Nodup) : ((replaced id row rows).map id).Nodup := by
  rw [map_id_replaced]
  exact hids

theorem nodup_without (hids : (rows.map id).Nodup) : ((without id key rows).map id).Nodup :=
  hids.sublist (List.filter_sublist.map id)

theorem mem_replaced (hr : r ∈ replaced id row rows) : r = row ∨ r ∈ rows ∧ id r ≠ id row := by
  obtain ⟨s, hs, rfl⟩ := List.mem_map.mp hr
  unfold substitute
  split
  · exact .inl rfl
  next h => exact .inr ⟨hs, h⟩

theorem mem_replaced_self (hs : s ∈ rows) (hid : id row = id s) : row ∈ replaced id row rows :=
  List.mem_map.mpr ⟨s, hs, if_pos hid.symm⟩

theorem exists_mem_replaced (h : ∃ r ∈ rows, id r = key) :
    ∃ r ∈ replaced id row rows, id r = key := by
  rw [← List.mem_map] at h ⊢
  rw [map_id_replaced]
  exact h

theorem mem_without : r ∈ without id key rows ↔ r ∈ rows ∧ id r ≠ key := by
  simp [without]

/-- A change to rows that are not selected, before or after, does not show in the selection. -/
theorem filter_map_eq {f : α → α} (h : ∀ r ∈ rows, f r = r ∨ p r = false ∧ p (f r) = false) :
    (rows.map f).filter p = rows.filter p := by
  induction rows with
  | nil => rfl
  | cons r rows ih =>
    obtain ⟨hr, hrows⟩ := List.forall_mem_cons.mp h
    rw [List.map_cons, List.filter_cons, List.filter_cons, ih hrows]
    rcases hr with hr | ⟨hr, hfr⟩
    · rw [hr]
    · simp [hr, hfr]

theorem filter_replaced (hrow : p row = false) (h : ∀ r ∈ rows, id r = id row → p r = false) :
    (replaced id row rows).filter p = rows.filter p := by
  refine filter_map_eq fun r hr => ?_
  by_cases hid : id r = id row
  · rw [substitute, if_pos hid]
    exact .inr ⟨h r hr hid, hrow⟩
  · exact .inl (if_neg hid)

theorem filter_without (h : ∀ r ∈ rows, id r = key → p r = false) :
    (without id key rows).filter p = rows.filter p := by
  unfold without
  rw [List.filter_filter]
  refine List.filter_congr fun r hr => ?_
  by_cases hid : id r = key
  · rw [h r hr hid, Bool.false_and]
  · simp [hid]

theorem filter_append_singleton (hrow : p row = false) :
    (rows ++ [row]).filter p = rows.filter p := by
  simp [hrow]

end LogicTutor.Campus

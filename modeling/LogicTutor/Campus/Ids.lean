import LogicTutor.Campus.Row

/-! Identifiers. They are drawn one after the other, and nothing is known of them but that none is
drawn twice and none is empty. -/
namespace LogicTutor

/-- What identifiers are drawn from. -/
structure Ids where
  nth : Nat → Id
  injective : ∀ m n, nth m = nth n → m = n
  ne_empty : ∀ n, nth n ≠ ""

namespace Campus

/-- The identifier with a number, in hexadecimal groups. -/
def idOf (n : Nat) : Id :=
  let ds := Nat.toDigits 16 n
  let all := List.replicate (32 - ds.length) '0' ++ ds
  let group := fun (start size : Nat) => String.ofList ((all.drop start).take size)
  "-".intercalate
    [group 0 8, group 8 4, group 12 4, group 16 4, String.ofList (all.drop 20)]

theorem idOf_ne_empty (n : Nat) : idOf n ≠ "" := by
  intro h
  have hlist := congrArg String.toList h
  simp [idOf] at hlist

/-! The number can be read off the digits. -/

def digitOf (d : Char) : Nat := (List.range 16).findIdx fun k => k.digitChar = d

def valueOf (ds : List Char) : Nat := ds.foldl (fun n d => 16 * n + digitOf d) 0

def numberOf (id : Id) : Nat := valueOf (id.toList.filter (· ≠ '-'))

theorem digitOf_digitChar : ∀ {d : Nat}, d < 16 → digitOf d.digitChar = d := by decide

theorem valueOf_toDigits (n : Nat) : valueOf (Nat.toDigits 16 n) = n := by
  induction n using Nat.strongRecOn with
  | ind n ih =>
    by_cases hn : n < 16
    · rw [Nat.toDigits_of_lt_base hn]
      simpa [valueOf] using digitOf_digitChar hn
    · have hless : n / 16 < n := by omega
      rw [Nat.toDigits_of_base_le (by decide) (by omega), valueOf, List.foldl_append]
      show 16 * valueOf (Nat.toDigits 16 (n / 16)) + digitOf (n % 16).digitChar = n
      rw [ih _ hless, digitOf_digitChar (Nat.mod_lt n (by decide)), Nat.div_add_mod]

theorem valueOf_replicate_append (k : Nat) (ds : List Char) :
    valueOf (List.replicate k '0' ++ ds) = valueOf ds := by
  induction k with
  | zero => rfl
  | succ k ih => exact ih

theorem dash_not_mem_toDigits (n : Nat) : '-' ∉ Nat.toDigits 16 n := by
  have hdigit : ∀ {d : Nat}, d < 16 → '-' ≠ d.digitChar := by decide
  induction n using Nat.strongRecOn with
  | ind n ih =>
    by_cases hn : n < 16
    · rw [Nat.toDigits_of_lt_base hn, List.mem_singleton]
      exact hdigit hn
    · have hless : n / 16 < n := by omega
      rw [Nat.toDigits_of_base_le (by decide) (by omega), List.mem_append, List.mem_singleton]
      rintro (h | h)
      · exact ih _ hless h
      · exact hdigit (Nat.mod_lt n (by decide)) h

theorem numberOf_idOf (n : Nat) : numberOf (idOf n) = n := by
  unfold numberOf idOf
  dsimp only
  generalize hall : List.replicate (32 - (Nat.toDigits 16 n).length) '0' ++ Nat.toDigits 16 n = all
  have hdigits : ∀ d ∈ all, d ≠ '-' := by
    rintro d hd rfl
    rw [← hall, List.mem_append] at hd
    rcases hd with hd | hd
    · cases List.eq_of_mem_replicate hd
    · exact dash_not_mem_toDigits n hd
  have hkeep (ds : List Char) (hds : ds ⊆ all) : ds.filter (· ≠ '-') = ds :=
    List.filter_eq_self.mpr fun d hd => decide_eq_true (hdigits d (hds hd))
  have hrest (start : Nat) : (all.drop start).filter (· ≠ '-') = all.drop start :=
    hkeep _ (List.drop_subset _ _)
  have hgroup (start size : Nat) :
      ((all.drop start).take size).filter (· ≠ '-') = (all.drop start).take size :=
    hkeep _ (List.Subset.trans (List.take_subset _ _) (List.drop_subset _ _))
  have hjoin (start size : Nat) :
      (all.drop start).take size ++ all.drop (start + size) = all.drop start := by
    rw [← List.drop_drop, List.take_append_drop]
  have hdash : "-".toList.filter (· ≠ '-') = [] := by decide
  simp only [String.toList_intercalate, List.map_cons, List.map_nil, String.toList_ofList,
    List.intercalate, List.intersperse, List.flatten_cons, List.flatten_nil, List.filter_append,
    List.append_nil, List.nil_append, hdash, hgroup, hrest]
  rw [hjoin 16 4, hjoin 12 4, hjoin 8 4, hjoin 0 8, List.drop_zero, ← hall,
    valueOf_replicate_append, valueOf_toDigits]

end Campus

/-- Identifiers counted up. -/
def Ids.counting : Ids where
  nth := Campus.idOf
  injective m n h := by rw [← Campus.numberOf_idOf m, h, Campus.numberOf_idOf]
  ne_empty := Campus.idOf_ne_empty

end LogicTutor

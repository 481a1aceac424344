import Mathlib

/-! Rows grouped and counted by a key, and rows sorted by one:

      a b a c a     counts   a ↦ 3, b ↦ 1, c ↦ 1
      b c a         sorted   a b c

    A sorted sequence does not depend on the order of the rows, if no two of them have the same key. -/

namespace Grouping

variable {α κ ι : Type*}

/-! ### Counting -/

section Counting

variable [DecidableEq κ] {keys : List κ} {k : κ}

/-- How often each key occurs, for those that do. -/
def counts (keys : List κ) : List (κ × Nat) :=
  keys.dedup.map fun k => (k, keys.countP fun a => decide (a = k))

/-- `counts.get(k, 0)` -/
def get (counts : List (κ × Nat)) (k : κ) : Nat := (counts.lookup k).getD 0

/-- `sum(counts.values())` -/
def total (counts : List (κ × Nat)) : Nat := (counts.map Prod.snd).sum

theorem get_map {ks : List κ} {f : κ → Nat} (hf : k ∉ ks → f k = 0) :
    get (ks.map fun k => (k, f k)) k = f k := by
  induction ks with
  | nil => exact (hf List.not_mem_nil).symm
  | cons a ks ih =>
    rw [List.map_cons, get, List.lookup_cons]
    by_cases ha : k = a
    · rw [ha, beq_self_eq_true]
      rfl
    · rw [beq_false_of_ne ha]
      exact ih fun hmem => hf fun hcons => (List.mem_cons.mp hcons).elim ha hmem

@[simp] theorem get_counts : get (counts keys) k = keys.countP fun a => decide (a = k) := by
  refine get_map fun hmem => List.countP_eq_zero.mpr fun a ha heq => hmem ?_
  rw [← of_decide_eq_true heq]
  exact List.mem_dedup.mpr ha

/-- The counts of some keys, added up. -/
theorem sum_counts (p : κ → Bool) : ((keys.dedup.filter p).map fun k =>
    keys.countP fun a => decide (a = k)).sum = keys.countP p := by
  rw [← List.sum_map_count_dedup_filter_eq_countP]
  refine congrArg List.sum (List.map_congr_left fun k _ => ?_)
  rw [List.count_eq_countP]
  exact List.countP_congr fun a _ => by simp

@[simp] theorem total_counts : total (counts keys) = keys.length := by
  have hsum := @sum_counts κ _ keys fun _ => true
  rw [List.filter_true, List.countP_true] at hsum
  rw [total, counts, List.map_map]
  exact hsum

/-- What falls into one of a row of bins is counted once over the row. -/
theorem sum_bins {α : Type*} (p : α → Bool) (bin : α → Int) (first : Int) {n : Nat} (l : List α)
    (h : ∀ a ∈ l, first ≤ bin a ∧ bin a < first + n) :
    ((List.range n).map fun i : Nat =>
      l.countP fun a => p a && decide (bin a = first + i)).sum = l.countP p := by
  have hone : ∀ (d : Int) (m : Nat), first ≤ d → ((List.range m).map fun i : Nat =>
      if d = first + i then 1 else 0).sum = if d < first + m then 1 else 0 := by
    intro d m hlow
    induction m with
    | zero =>
      rw [if_neg (by omega)]
      rfl
    | succ m ih =>
      rw [List.range_succ, List.map_append, List.sum_append, List.map_singleton,
        List.sum_singleton, ih]
      split_ifs <;> omega
  induction l with
  | nil =>
    refine List.sum_eq_zero fun x hx => ?_
    obtain ⟨i, -, rfl⟩ := List.mem_map.mp hx
    rfl
  | cons a l ih =>
    obtain ⟨ha, hl⟩ := List.forall_mem_cons.mp h
    have hfirst := hone (bin a) n ha.1
    rw [if_pos ha.2] at hfirst
    cases hp : p a with
    | false => simpa only [List.countP_cons, hp, Bool.false_and, Bool.false_eq_true, if_false,
        Nat.add_zero] using ih hl
    | true =>
      simp only [List.countP_cons, hp, Bool.true_and, decide_eq_true_eq, if_true,
        List.sum_map_add, hfirst, ih hl]

end Counting

/-! ### Sorting by a key -/

section Sorting

variable [LinearOrder κ] {key : α → κ} {xs ys : List α}

/-- `sorted(xs, key=key)` -/
def sortBy (key : α → κ) (xs : List α) : List α := xs.insertionSort fun a b => key a ≤ key b

theorem sortBy_perm : (sortBy key xs).Perm xs := List.perm_insertionSort _ _

@[simp] theorem mem_sortBy {a : α} : a ∈ sortBy key xs ↔ a ∈ xs := List.mem_insertionSort _

@[simp] theorem length_sortBy : (sortBy key xs).length = xs.length := List.length_insertionSort _ _

theorem sortBy_sorted : (sortBy key xs).Pairwise fun a b => key a ≤ key b := by
  have htotal : Std.Total fun a b : α => key a ≤ key b := ⟨fun _ _ => le_total _ _⟩
  have htrans : IsTrans α fun a b => key a ≤ key b := ⟨fun _ _ _ h h' => h.trans h'⟩
  exact List.pairwise_insertionSort _ _

theorem eq_of_sorted (hinj : ∀ a ∈ xs, ∀ b ∈ xs, key a = key b → a = b) (hperm : xs.Perm ys)
    (hxs : xs.Pairwise fun a b => key a ≤ key b) (hys : ys.Pairwise fun a b => key a ≤ key b) :
    xs = ys := by
  refine List.Perm.eq_of_pairwise (fun a b ha hb hab hba => ?_) hxs hys hperm
  exact hinj a ha b (hperm.symm.subset hb) (le_antisymm hab hba)

/-- Rows with different keys have one order. -/
theorem sortBy_eq_of_perm (hinj : ∀ a ∈ xs, ∀ b ∈ xs, key a = key b → a = b)
    (hperm : xs.Perm ys) : sortBy key xs = sortBy key ys := by
  refine eq_of_sorted (fun a ha b hb => hinj a (mem_sortBy.mp ha) b (mem_sortBy.mp hb)) ?_
    sortBy_sorted sortBy_sorted
  exact (sortBy_perm.trans hperm).trans sortBy_perm.symm

theorem sortBy_strict (hnodup : xs.Nodup) (hinj : ∀ a ∈ xs, ∀ b ∈ xs, key a = key b → a = b) :
    (sortBy key xs).Pairwise fun a b => key a < key b := by
  have hdistinct : (sortBy key xs).Nodup := sortBy_perm.nodup_iff.mpr hnodup
  refine (sortBy_sorted.and hdistinct).imp_of_mem fun {a b} ha hb h => ?_
  refine lt_of_le_of_ne h.1 fun heq => h.2 ?_
  exact hinj a (mem_sortBy.mp ha) b (mem_sortBy.mp hb) heq

end Sorting

end Grouping

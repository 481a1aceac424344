import Mathlib

/-! Edits of a map. A list of edits leads from one map to another and back:

      replay   m  ──▸  m'    every edit writes what comes after it
      revert   m' ──▸  m     every edit writes what was before it, the last one first

    The edits are the difference of the maps when the keys they list are those at which the maps
    differ, and both ways lead to the other map. Edits that name each key once, with the values of
    both maps, are a difference. A list of rows with distinct keys is such a map, and what is done to
    one of its rows is one edit. -/

namespace Edits

variable {κ ν ω : Type*} [DecidableEq κ] {m m' : κ → Option ν}

structure Edit (κ ν : Type*) where
  key : κ
  before : Option ν
  after : Option ν

def Edit.map (f : ν → ω) (e : Edit κ ν) : Edit κ ω := ⟨e.key, e.before.map f, e.after.map f⟩

def Edit.invert (e : Edit κ ν) : Edit κ ν := ⟨e.key, e.after, e.before⟩

/-- Take the edits one after the other. -/
def replay (m : κ → Option ν) (edits : List (Edit κ ν)) : κ → Option ν :=
  edits.foldl (fun m e => Function.update m e.key e.after) m

/-- Take the edits back, the last one first. -/
def revert (m : κ → Option ν) (edits : List (Edit κ ν)) : κ → Option ν :=
  replay m (edits.map Edit.invert).reverse

/-- The edits list the keys at which the maps differ, and lead from each map to the other. -/
structure Difference (m m' : κ → Option ν) (edits : List (Edit κ ν)) : Prop where
  listed : ∀ key, key ∈ edits.map Edit.key ↔ m key ≠ m' key
  replayed : replay m edits = m'
  reverted : revert m' edits = m

/-! ### Replaying -/

theorem replay_cons (e : Edit κ ν) (edits : List (Edit κ ν)) :
    replay m (e :: edits) = replay (Function.update m e.key e.after) edits := rfl

theorem replay_append (edits edits' : List (Edit κ ν)) :
    replay m (edits ++ edits') = replay (replay m edits) edits' := by
  simp [replay]

/-- A key that no edit names keeps its value. -/
theorem replay_of_not_mem {edits : List (Edit κ ν)} {key : κ}
    (h : key ∉ edits.map Edit.key) : replay m edits key = m key := by
  induction edits generalizing m with
  | nil => rfl
  | cons e edits ih =>
    simp only [List.map_cons, List.mem_cons, not_or] at h
    rw [replay_cons, ih h.2, Function.update_of_ne h.1]

/-- The last edit of a key decides about it. -/
theorem replay_last {earlier later : List (Edit κ ν)} {e : Edit κ ν}
    (h : e.key ∉ later.map Edit.key) : replay m (earlier ++ e :: later) e.key = e.after := by
  rw [replay_append, replay_cons, replay_of_not_mem h, Function.update_self]

theorem replay_of_nodup {edits : List (Edit κ ν)} (hnodup : (edits.map Edit.key).Nodup)
    {e : Edit κ ν} (he : e ∈ edits) : replay m edits e.key = e.after := by
  rcases List.append_of_mem he with ⟨earlier, later, rfl⟩
  refine replay_last fun hmem => ?_
  rw [List.map_append, List.map_cons] at hnodup
  exact (List.nodup_cons.mp (List.nodup_append.mp hnodup).2.1).1 hmem

/-- The last edits decide about the keys they name once. -/
theorem replay_append_of_nodup (earlier : List (Edit κ ν)) {edits : List (Edit κ ν)}
    (hnodup : (edits.map Edit.key).Nodup) {e : Edit κ ν} (he : e ∈ edits) :
    replay m (earlier ++ edits) e.key = e.after := by
  rw [replay_append]
  exact replay_of_nodup hnodup he

/-- Edits that name each key once turn a map into any map that has what they write, and agrees
    elsewhere. -/
theorem replay_eq {edits : List (Edit κ ν)} (hnodup : (edits.map Edit.key).Nodup)
    (hafter : ∀ e ∈ edits, e.after = m' e.key)
    (hother : ∀ key, key ∉ edits.map Edit.key → m key = m' key) : replay m edits = m' := by
  funext key
  by_cases hkey : key ∈ edits.map Edit.key
  · rcases List.mem_map.mp hkey with ⟨e, he, rfl⟩
    rw [replay_of_nodup hnodup he, hafter e he]
  · rw [replay_of_not_mem hkey, hother key hkey]

omit [DecidableEq κ] in
theorem keys_invert (edits : List (Edit κ ν)) :
    (edits.map Edit.invert).map Edit.key = edits.map Edit.key := by
  simp [Edit.invert, Function.comp_def]

/-! ### Differences -/

/-- The edits name each key once, with the values of both maps; the other keys have not changed. -/
structure Describes (m m' : κ → Option ν) (edits : List (Edit κ ν)) : Prop where
  nodup : (edits.map Edit.key).Nodup
  before : ∀ e ∈ edits, e.before = m e.key
  after : ∀ e ∈ edits, e.after = m' e.key
  changed : ∀ e ∈ edits, e.before ≠ e.after
  other : ∀ key, key ∉ edits.map Edit.key → m key = m' key

theorem Describes.difference {edits : List (Edit κ ν)} (h : Describes m m' edits) :
    Difference m m' edits where
  listed key := by
    constructor
    · intro hkey
      rcases List.mem_map.mp hkey with ⟨e, he, rfl⟩
      rw [← h.before e he, ← h.after e he]
      exact h.changed e he
    · intro hne
      by_contra hkey
      exact hne (h.other key hkey)
  replayed := replay_eq h.nodup h.after h.other
  reverted := by
    refine replay_eq ?_ ?_ ?_
    · rw [List.map_reverse, keys_invert]
      exact List.nodup_reverse.mpr h.nodup
    · intro e he
      rcases List.mem_map.mp (List.mem_reverse.mp he) with ⟨e₀, he₀, rfl⟩
      exact h.before e₀ he₀
    · intro key hkey
      rw [List.map_reverse, keys_invert, List.mem_reverse] at hkey
      exact (h.other key hkey).symm

/-! ### Rows with distinct keys -/

section Rows

variable {ρ : Type*} {key : ρ → κ} {rows : List ρ} {row : ρ} {k : κ}

/-- The row with a key. -/
def lookup (key : ρ → κ) (rows : List ρ) (k : κ) : Option ρ := rows.find? fun row => key row = k

theorem lookup_eq_none : lookup key rows k = none ↔ ∀ row ∈ rows, key row ≠ k := by
  simp [lookup]

theorem lookup_eq_some (hnodup : (rows.map key).Nodup) :
    lookup key rows k = some row ↔ row ∈ rows ∧ key row = k := by
  constructor
  · intro h
    exact ⟨List.mem_of_find?_eq_some h, by simpa using List.find?_some h⟩
  · rintro ⟨hmem, rfl⟩
    cases hfound : lookup key rows (key row) with
    | none => exact absurd rfl (lookup_eq_none.mp hfound row hmem)
    | some other =>
      have hkey : key other = key row := by simpa using List.find?_some hfound
      rw [List.inj_on_of_nodup_map hnodup (List.mem_of_find?_eq_some hfound) hmem hkey]

theorem key_of_lookup (h : lookup key rows k = some row) : key row = k := by
  simpa using List.find?_some h

theorem mem_of_lookup (h : lookup key rows k = some row) : row ∈ rows := List.mem_of_find?_eq_some h

/-- A row of a new key comes in. -/
theorem lookup_insert (hnew : lookup key rows (key row) = none) :
    lookup key (rows ++ [row]) = Function.update (lookup key rows) (key row) (some row) := by
  funext k
  by_cases hk : k = key row
  · subst hk
    rw [Function.update_self, lookup, List.find?_append, ← lookup, hnew]
    simp
  · rw [Function.update_of_ne hk, lookup, List.find?_append, ← lookup]
    simp [Ne.symm hk]

/-- The row of a key is replaced. -/
theorem lookup_replace (hold : (lookup key rows (key row)).isSome = true) :
    lookup key (rows.map fun other => if key other = key row then row else other) =
      Function.update (lookup key rows) (key row) (some row) := by
  have hkey : ∀ other, key (if key other = key row then row else other) = key other := by
    intro other
    split
    · simp [*]
    · rfl
  funext k
  rw [lookup, List.find?_map]
  simp only [Function.comp_def, hkey]
  by_cases hk : k = key row
  · subst hk
    rcases Option.isSome_iff_exists.mp hold with ⟨old, hfound⟩
    rw [lookup] at hfound
    rw [Function.update_self, hfound, Option.map_some, if_pos (by simpa using List.find?_some hfound)]
  · rw [Function.update_of_ne hk, lookup]
    cases hfound : rows.find? fun other => decide (key other = k) with
    | none => rfl
    | some other =>
      have hother : key other = k := by simpa using List.find?_some hfound
      rw [Option.map_some, if_neg (hother ▸ hk)]

/-- The row of a key is taken out. -/
theorem lookup_remove : lookup key (rows.filter fun row => key row ≠ k) =
    Function.update (lookup key rows) k none := by
  funext k'
  by_cases hk : k' = k
  · subst hk
    rw [Function.update_self, lookup_eq_none]
    intro row hrow
    simpa using List.of_mem_filter hrow
  · rw [Function.update_of_ne hk, lookup, lookup, List.find?_filter]
    congr 1
    funext row
    by_cases hrow : key row = k'
    · simp [hrow, hk]
    · simp [hrow]

omit [DecidableEq κ] in
/-- Edits that rows stand for, each with the key of its row, have keys of the rows. -/
theorem keys_filterMap {f : ρ → Option (Edit κ ν)}
    (hf : ∀ row e, f row = some e → e.key = key row) :
    ((rows.filterMap f).map Edit.key).Sublist (rows.map key) := by
  induction rows with
  | nil => exact .slnil
  | cons row rows ih =>
    cases hrow : f row with
    | none => simpa [hrow] using ih.cons (key row)
    | some e => simpa [hrow, hf row e hrow] using ih.cons_cons (key row)

end Rows

end Edits

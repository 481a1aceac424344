import Mathlib

/-! Relational tables: rows with a unique key. A table is a list of rows together with the proof
    that no two rows share their key, so every operation that builds a table keeps the uniqueness
    constraint by construction:

      insert?      →  fails where the database raises an integrity error
      modifyWhere  →  rewrites the selected rows and may not touch their key

    Rows keep their insertion order, which is the order in which an unordered query sees them. -/

namespace Relational

variable {ρ κ : Type*}

/-- Two readings of a row that always agree. As data, the agreement of a rewrite with what it rewrites
    is found by evaluating both readings. -/
structure Agrees (g g' : ρ → κ) : Type where
  eq : ∀ r, g r = g' r

def Agrees.refl (g : ρ → κ) : Agrees g g := ⟨fun _ => rfl⟩

/-- The rewrite leaves the keys of the rows alone. -/
structure KeepsKey (key : ρ → κ) (f : ρ → ρ) : Type where
  agrees : Agrees (fun r => key (f r)) key

namespace KeepsKey

variable {key : ρ → κ} {f : ρ → ρ}

theorem eq (h : KeepsKey key f) (r : ρ) : key (f r) = key r := h.agrees.eq r

def of (h : ∀ r, key (f r) = key r) : KeepsKey key f := ⟨⟨h⟩⟩

end KeepsKey

/-- A table of rows `ρ` whose key is unique. -/
structure Table (key : ρ → κ) where
  rows : List ρ
  keysNodup : (rows.map key).Nodup

namespace Table

variable {key : ρ → κ} {t t' : Table key} {r r' : ρ} {k k' : κ}

instance : Membership ρ (Table key) := ⟨fun t r => r ∈ t.rows⟩

theorem mem_iff : r ∈ t ↔ r ∈ t.rows := Iff.rfl

/-- The table with no rows. -/
def empty : Table key := ⟨[], List.nodup_nil⟩

@[simp] theorem not_mem_empty : r ∉ (empty : Table key) := List.not_mem_nil

/-- Rewrite every row selected by `p`; the rewrite keeps the key. -/
def modifyWhere (t : Table key) (p : ρ → Bool) (f : ρ → ρ)
    (hf : KeepsKey key f := by exact ⟨.refl _⟩) : Table key where
  rows := t.rows.map fun r => if p r then f r else r
  keysNodup := by
    have hkey : key ∘ (fun r => if p r then f r else r) = key := by
      funext r
      by_cases hp : p r <;> simp [hp, hf.eq]
    rw [List.map_map, hkey]
    exact t.keysNodup

theorem modifyWhere_rows {p : ρ → Bool} {f : ρ → ρ} {hf : KeepsKey key f} :
    (t.modifyWhere p f hf).rows = t.rows.map fun r => if p r then f r else r := rfl

/-- Every row after a rewrite comes from one row before it. -/
theorem mem_modifyWhere {p : ρ → Bool} {f : ρ → ρ} {hf : KeepsKey key f} :
    r' ∈ t.modifyWhere p f hf ↔ ∃ r ∈ t, (if p r then f r else r) = r' :=
  List.mem_map

/-- A rewrite that reaches no row changes nothing. -/
theorem modifyWhere_eq_self {p : ρ → Bool} {f : ρ → ρ} {hf : KeepsKey key f}
    (h : ∀ r ∈ t, ¬p r = true) : t.modifyWhere p f hf = t := by
  have hrows : (t.modifyWhere p f hf).rows = t.rows := by
    rw [modifyWhere]
    simp only
    conv_rhs => rw [← List.map_id t.rows]
    exact List.map_congr_left fun r hr => if_neg (h r hr)
  cases t
  simp only [modifyWhere] at hrows ⊢
  simp only [hrows]

/-- Two rows of a table with the same key are the same row. -/
theorem eq_of_key_eq (hr : r ∈ t) (hr' : r' ∈ t) (h : key r = key r') : r = r' :=
  List.inj_on_of_nodup_map t.keysNodup hr hr' h

/-! ### Scans -/

/-- The first row that satisfies `p`. -/
def first? (t : Table key) (p : ρ → Bool) : Option ρ := t.rows.find? p

theorem mem_of_first? {p : ρ → Bool} (h : t.first? p = some r) : r ∈ t :=
  List.mem_of_find?_eq_some h

theorem first?_some {p : ρ → Bool} (h : t.first? p = some r) : p r = true :=
  List.find?_some h

theorem first?_eq_none {p : ρ → Bool} : t.first? p = none ↔ ∀ r ∈ t, ¬p r = true :=
  List.find?_eq_none

/-- When at most one row satisfies `p`, the first one that does is that row. -/
theorem first?_eq_some_of_unique {p : ρ → Bool} (hr : r ∈ t) (hp : p r = true)
    (unique : ∀ r' ∈ t, p r' = true → r' = r) : t.first? p = some r := by
  cases h : t.first? p with
  | none => exact absurd hp (first?_eq_none.mp h r hr)
  | some r' => rw [unique r' (mem_of_first? h) (first?_some h)]

/-- The number of rows that satisfy `p`. -/
def count (t : Table key) (p : ρ → Bool) : Nat := t.rows.countP p

@[simp] theorem count_empty {p : ρ → Bool} : (empty : Table key).count p = 0 := rfl

/-- No row satisfies `p` exactly when their number is zero. -/
theorem count_eq_zero {p : ρ → Bool} : t.count p = 0 ↔ ∀ r ∈ t, ¬p r = true :=
  List.countP_eq_zero

/-- At most one row satisfies `p` when any two that do are the same. -/
theorem count_le_one {p : ρ → Bool}
    (unique : ∀ r ∈ t, ∀ r' ∈ t, p r = true → p r' = true → r = r') : t.count p ≤ 1 := by
  have hnodup : (t.rows.filter p).Nodup := t.keysNodup.of_map.filter _
  rw [count, List.countP_eq_length_filter]
  by_contra hmany
  have hone : 1 < (t.rows.filter p).length := by omega
  have hzero : 0 < (t.rows.filter p).length := by omega
  obtain ⟨h₀, hp₀⟩ := List.mem_filter.mp (List.getElem_mem hzero)
  obtain ⟨h₁, hp₁⟩ := List.mem_filter.mp (List.getElem_mem hone)
  have hsame := (hnodup.getElem_inj_iff).mp (unique _ h₀ _ h₁ hp₀ hp₁)
  omega

/-- A rewrite that puts no new row into `q` does not raise the number of rows in `q`. -/
theorem count_modifyWhere_le {p q : ρ → Bool} {f : ρ → ρ} {hf : KeepsKey key f}
    (h : ∀ r ∈ t, p r = true → q (f r) = true → q r = true) :
    (t.modifyWhere p f hf).count q ≤ t.count q := by
  rw [count, count, modifyWhere, List.countP_map]
  refine List.countP_mono_left fun r hr hq => ?_
  by_cases hp : p r = true
  · simp only [Function.comp_apply, if_pos hp] at hq
    exact h r hr hp hq
  · simpa only [Function.comp_apply, if_neg hp] using hq

/-! ### Keys -/

section Lookup

variable [DecidableEq κ]

/-- The row with a given key. -/
def get? (t : Table key) (k : κ) : Option ρ := t.rows.find? fun r => key r = k

/-- Add a row; `none` when its key is taken. -/
def insert? (t : Table key) (r : ρ) : Option (Table key) :=
  if h : key r ∈ t.rows.map key then none
  else some ⟨t.rows ++ [r], by
    rw [List.map_append, List.nodup_append]
    refine ⟨t.keysNodup, List.nodup_singleton _, fun a ha b hb => ?_⟩
    rw [List.map_singleton, List.mem_singleton] at hb
    rintro rfl
    exact h (hb ▸ ha)⟩

/-- Add rows one after the other; `none` as soon as a key is taken. -/
def insertAll? (t : Table key) : List ρ → Option (Table key)
  | [] => some t
  | r :: rs => (t.insert? r).bind fun t' => t'.insertAll? rs

/-- Rewrite the row with key `k`. -/
def modify (t : Table key) (k : κ) (f : ρ → ρ)
    (hf : KeepsKey key f := by exact ⟨.refl _⟩) : Table key :=
  t.modifyWhere (fun r => key r = k) f hf

/-! ### Lookup -/

theorem get?_eq_some : t.get? k = some r ↔ r ∈ t ∧ key r = k := by
  constructor
  · intro h
    exact ⟨List.mem_of_find?_eq_some h, by simpa using List.find?_some h⟩
  · rintro ⟨hr, rfl⟩
    cases h : t.get? (key r) with
    | none =>
      have := List.find?_eq_none.mp h r hr
      simp at this
    | some r' =>
      have hr' := List.mem_of_find?_eq_some h
      have hk : key r' = key r := by simpa using List.find?_some h
      rw [eq_of_key_eq hr' hr hk]

theorem get?_eq_none : t.get? k = none ↔ ∀ r ∈ t, key r ≠ k := by
  rw [get?, List.find?_eq_none]
  simp only [decide_eq_true_eq]
  exact Iff.rfl

theorem get?_key (hr : r ∈ t) : t.get? (key r) = some r := get?_eq_some.mpr ⟨hr, rfl⟩

theorem mem_of_get? (h : t.get? k = some r) : r ∈ t := (get?_eq_some.mp h).1

theorem key_of_get? (h : t.get? k = some r) : key r = k := (get?_eq_some.mp h).2

@[simp] theorem get?_empty : (empty : Table key).get? k = none := rfl

/-! ### Insertion -/

theorem insert?_eq_some :
    t.insert? r = some t' ↔ (∀ r' ∈ t, key r' ≠ key r) ∧ t'.rows = t.rows ++ [r] := by
  have hmem : key r ∈ t.rows.map key ↔ ¬∀ r' ∈ t, key r' ≠ key r := by
    simp only [List.mem_map, ne_eq, not_forall, not_not, exists_prop, mem_iff]
  rw [insert?]
  split
  · rename_i h
    simp only [reduceCtorEq, false_iff, not_and]
    exact fun h' => absurd h' (hmem.mp h)
  · rename_i h
    have hfresh := not_not.mp fun h' => h (hmem.mpr h')
    rw [Option.some_inj]
    constructor
    · rintro rfl
      exact ⟨hfresh, rfl⟩
    · rintro ⟨-, hrows⟩
      cases t'
      cases hrows
      rfl

/-- An insertion fails exactly when the key is taken. -/
theorem insert?_eq_none : t.insert? r = none ↔ ∃ r' ∈ t, key r' = key r := by
  rw [insert?]
  split
  · rename_i htaken
    simpa [mem_iff] using htaken
  · rename_i hfree
    simpa [mem_iff] using hfree

theorem mem_insert? (h : t.insert? r = some t') : r' ∈ t' ↔ r' ∈ t ∨ r' = r := by
  rw [mem_iff, (insert?_eq_some.mp h).2, List.mem_append, List.mem_singleton, mem_iff]

theorem get?_insert? (h : t.insert? r = some t') :
    t'.get? k = if k = key r then some r else t.get? k := by
  split
  · rename_i hk
    exact get?_eq_some.mpr ⟨(mem_insert? h).mpr (.inr rfl), hk.symm⟩
  · rename_i hk
    ext r'
    rw [get?_eq_some, get?_eq_some, mem_insert? h]
    constructor
    · rintro ⟨hr' | rfl, hk'⟩
      · exact ⟨hr', hk'⟩
      · exact absurd hk'.symm hk
    · exact fun ⟨hr', hk'⟩ => ⟨.inl hr', hk'⟩

theorem forall_insert? {p : ρ → Prop} (h : t.insert? r = some t') (ht : ∀ r ∈ t, p r)
    (hr : p r) : ∀ r ∈ t', p r := by
  intro r' hr'
  rcases (mem_insert? h).mp hr' with hr' | rfl
  · exact ht r' hr'
  · exact hr

theorem get?_of_insert? (h : t.insert? r = some t') : t.get? (key r) = none :=
  get?_eq_none.mpr (insert?_eq_some.mp h).1

theorem insertAll?_rows {rs : List ρ} (h : t.insertAll? rs = some t') :
    t'.rows = t.rows ++ rs := by
  induction rs generalizing t with
  | nil => simp only [insertAll?, Option.some_inj] at h; simp [h]
  | cons r rs ih =>
    simp only [insertAll?, Option.bind_eq_some_iff] at h
    obtain ⟨t₁, h₁, h₂⟩ := h
    rw [ih h₂, (insert?_eq_some.mp h₁).2, List.append_assoc, List.singleton_append]

theorem mem_insertAll? {rs : List ρ} (h : t.insertAll? rs = some t') :
    r ∈ t' ↔ r ∈ t ∨ r ∈ rs := by
  rw [mem_iff, insertAll?_rows h, List.mem_append, mem_iff]

/-! ### Rewriting -/

theorem modify_def {f : ρ → ρ} {hf : KeepsKey key f} :
    t.modify k f hf = t.modifyWhere (fun r => key r = k) f hf := rfl

theorem mem_modify {f : ρ → ρ} {hf : KeepsKey key f} :
    r' ∈ t.modify k f hf ↔ ∃ r ∈ t, (if key r = k then f r else r) = r' := by
  rw [modify, mem_modifyWhere]
  simp only [decide_eq_true_eq]

/-- A rewrite brings in no new key. -/
theorem keys_modify {f : ρ → ρ} {hf : KeepsKey key f} :
    ∀ r' ∈ t.modify k f hf, ∃ r ∈ t, key r = key r' := by
  intro r' hr'
  obtain ⟨r, hr, rfl⟩ := mem_modify.mp hr'
  refine ⟨r, hr, ?_⟩
  split
  · exact (hf.eq r).symm
  · rfl

/-- The image of a row under a rewrite of the row with key `k`. -/
theorem mem_modify_image {f : ρ → ρ} {hf : KeepsKey key f} (hr : r ∈ t) :
    (if key r = k then f r else r) ∈ t.modify k f hf := mem_modify.mpr ⟨r, hr, rfl⟩

/-- Rows with another key stay as they are. -/
theorem mem_modify_of_ne {f : ρ → ρ} {hf : KeepsKey key f} (hr : r ∈ t)
    (hk : key r ≠ k) : r ∈ t.modify k f hf := by
  have himage : (if key r = k then f r else r) ∈ t.modify k f hf := mem_modify_image hr
  rwa [if_neg hk] at himage

/-- A property of all rows survives a rewrite that keeps it for the row it rewrites. -/
theorem forall_modify {f : ρ → ρ} {hf : KeepsKey key f} {p : ρ → Prop}
    (h : ∀ r ∈ t, p r) (hmod : ∀ r, t.get? k = some r → p r → p (f r)) :
    ∀ r ∈ t.modify k f hf, p r := by
  intro r' hr'
  obtain ⟨r, hr, rfl⟩ := mem_modify.mp hr'
  split
  · rename_i hk
    exact hmod r (get?_eq_some.mpr ⟨hr, hk⟩) (h r hr)
  · exact h r hr

theorem get?_modifyWhere {p : ρ → Bool} {f : ρ → ρ} {hf : KeepsKey key f} :
    (t.modifyWhere p f hf).get? k = (t.get? k).map fun r => if p r then f r else r := by
  have hkey : ∀ r, key (if p r then f r else r) = key r := fun r => by
    by_cases hp : p r <;> simp [hp, hf.eq]
  ext r'
  rw [get?_eq_some, mem_modifyWhere, Option.map_eq_some_iff]
  constructor
  · rintro ⟨⟨r, hr, rfl⟩, hk⟩
    exact ⟨r, get?_eq_some.mpr ⟨hr, (hkey r).symm.trans hk⟩, rfl⟩
  · rintro ⟨r, hr, rfl⟩
    obtain ⟨hr, hk⟩ := get?_eq_some.mp hr
    exact ⟨⟨r, hr, rfl⟩, (hkey r).trans hk⟩

theorem get?_modify {f : ρ → ρ} {hf : KeepsKey key f} :
    (t.modify k f hf).get? k' = if k' = k then (t.get? k).map f else t.get? k' := by
  rw [modify, get?_modifyWhere]
  split
  · rename_i h
    subst h
    cases hr : t.get? k' with
    | none => rfl
    | some r => simp [key_of_get? hr]
  · rename_i h
    cases hr : t.get? k' with
    | none => rfl
    | some r => simp [key_of_get? hr, h]

theorem get?_modify_self {f : ρ → ρ} {hf : KeepsKey key f} (h : t.get? k = some r) :
    (t.modify k f hf).get? k = some (f r) := by
  rw [get?_modify, if_pos rfl, h, Option.map_some]

theorem get?_modify_ne {f : ρ → ρ} {hf : KeepsKey key f} (h : k' ≠ k) :
    (t.modify k f hf).get? k' = t.get? k' := by
  rw [get?_modify, if_neg h]

/-- Changing a row neither adds nor removes a key. -/
theorem isSome_get?_modify {f : ρ → ρ} {hf : KeepsKey key f} :
    ((t.modify k f hf).get? k').isSome = (t.get? k').isSome := by
  rw [get?_modify]
  split
  · rename_i hk
    rw [Option.isSome_map, hk]
  · rfl

theorem count_insert? {p : ρ → Bool} (h : t.insert? r = some t') :
    t'.count p = t.count p + if p r then 1 else 0 := by
  rw [count, count, (insert?_eq_some.mp h).2, List.countP_append, List.countP_singleton]

theorem count_modify_le {q : ρ → Bool} {f : ρ → ρ} {hf : KeepsKey key f}
    (h : ∀ r ∈ t, key r = k → q (f r) = true → q r = true) :
    (t.modify k f hf).count q ≤ t.count q :=
  count_modifyWhere_le fun r hr hp => h r hr (of_decide_eq_true hp)

end Lookup

/-! ### Evolution -/

/-- Every row of `t` is still in `t'`, changed no further than `rel` allows. -/
def Evolves (rel : ρ → ρ → Prop) (t t' : Table key) : Prop :=
  ∀ r ∈ t, ∃ r' ∈ t', key r' = key r ∧ rel r r'

namespace Evolves

variable {rel rel' : ρ → ρ → Prop} {t'' : Table key}

theorem refl (hrel : ∀ r, rel r r) : Evolves rel t t := fun r hr => ⟨r, hr, rfl, hrel r⟩

theorem trans (hrel : ∀ a b c, rel a b → rel b c → rel a c) (h : Evolves rel t t')
    (h' : Evolves rel t' t'') : Evolves rel t t'' := by
  intro r hr
  obtain ⟨r', hr', hkey, hr₁⟩ := h r hr
  obtain ⟨r'', hr'', hkey', hr₂⟩ := h' r' hr'
  exact ⟨r'', hr'', hkey'.trans hkey, hrel _ _ _ hr₁ hr₂⟩

theorem mono (h : Evolves rel t t') (hrel : ∀ r r', rel r r' → rel' r r') :
    Evolves rel' t t' := by
  intro r hr
  obtain ⟨r', hr', hkey, hr₁⟩ := h r hr
  exact ⟨r', hr', hkey, hrel _ _ hr₁⟩

theorem get? [DecidableEq κ] (h : Evolves rel t t') (hr : t.get? k = some r) :
    ∃ r', t'.get? k = some r' ∧ rel r r' := by
  obtain ⟨hmem, rfl⟩ := get?_eq_some.mp hr
  obtain ⟨r', hr', hkey, hr₁⟩ := h r hmem
  exact ⟨r', get?_eq_some.mpr ⟨hr', hkey⟩, hr₁⟩

/-- When no new key has come in, every row after comes from one before. -/
theorem comesFrom (h : Evolves rel t t') (hkeys : ∀ r' ∈ t', ∃ r ∈ t, key r = key r')
    (hr' : r' ∈ t') : ∃ r ∈ t, key r = key r' ∧ rel r r' := by
  obtain ⟨r, hr, hkey⟩ := hkeys r' hr'
  obtain ⟨r'', hr'', hkey', hr₁⟩ := h r hr
  obtain rfl := eq_of_key_eq hr'' hr' (hkey'.trans hkey)
  exact ⟨r, hr, hkey, hr₁⟩

theorem insert? [DecidableEq κ] (hrel : ∀ r, rel r r) (h : t.insert? r = some t') :
    Evolves rel t t' :=
  fun r hr => ⟨r, (mem_insert? h).mpr (.inl hr), rfl, hrel r⟩

theorem modifyWhere {p : ρ → Bool} {f : ρ → ρ} {hf : KeepsKey key f}
    (hrel : ∀ r ∈ t, rel r (if p r then f r else r)) : Evolves rel t (t.modifyWhere p f hf) := by
  intro r hr
  refine ⟨_, mem_modifyWhere.mpr ⟨r, hr, rfl⟩, ?_, hrel r hr⟩
  split
  · exact hf.eq r
  · rfl

theorem modify [DecidableEq κ] {f : ρ → ρ} {hf : KeepsKey key f} (hrel : ∀ r, rel r r)
    (hmod : ∀ r, t.get? k = some r → rel r (f r)) : Evolves rel t (t.modify k f hf) := by
  refine modifyWhere fun r hr => ?_
  split
  · rename_i hk
    exact hmod r (get?_eq_some.mpr ⟨hr, of_decide_eq_true hk⟩)
  · exact hrel r

end Evolves

/-! ### Removal -/

section Erase

variable [DecidableEq κ] {k k' : κ}

/-- The table without the row with key `k`. -/
def erase (t : Table key) (k : κ) : Table key :=
  ⟨t.rows.filter fun r => key r ≠ k, t.keysNodup.sublist (List.filter_sublist.map key)⟩

theorem mem_erase : r ∈ t.erase k ↔ r ∈ t ∧ key r ≠ k := by
  rw [mem_iff, erase, List.mem_filter, decide_eq_true_eq, mem_iff]

theorem get?_erase_of_ne (h : k' ≠ k) : (t.erase k).get? k' = t.get? k' := by
  ext r
  rw [get?_eq_some, get?_eq_some, mem_erase]
  constructor
  · rintro ⟨⟨hr, -⟩, hk⟩
    exact ⟨hr, hk⟩
  · rintro ⟨hr, rfl⟩
    exact ⟨⟨hr, h⟩, rfl⟩

end Erase

/-! ### Counting rows across tables -/

/-- Rows that can be told apart by the keys of rows of another table are no more than those. -/
theorem count_le {p q : ρ → Bool}
    (h : ∀ r' ∈ t', q r' = true → ∃ r ∈ t, p r = true ∧ key r = key r') :
    t'.count q ≤ t.count p := by
  have hkeys : ((t'.rows.filter q).map key).Nodup :=
    t'.keysNodup.sublist (List.filter_sublist.map key)
  have hsubset : (t'.rows.filter q).map key ⊆ (t.rows.filter p).map key := by
    intro k hk
    obtain ⟨r', hr', rfl⟩ := List.mem_map.mp hk
    obtain ⟨hmem, hq⟩ := List.mem_filter.mp hr'
    obtain ⟨r, hr, hp, hkey⟩ := h r' hmem hq
    exact List.mem_map.mpr ⟨r, List.mem_filter.mpr ⟨hr, hp⟩, hkey⟩
  have hlength := (hkeys.subperm hsubset).length_le
  rwa [List.length_map, List.length_map, ← List.countP_eq_length_filter,
    ← List.countP_eq_length_filter] at hlength

/-! ### Overlays -/

section Overlay

variable [DecidableEq κ] {k : κ}

/-- The table as it looks to a reader that holds a copy of one of its rows. -/
def overlay (t : Table key) : Option ρ → Table key
  | none => t
  | some row => t.modify (key row) (fun r => if key r = key row then row else r) (.of (by
      intro r
      split
      · rename_i h
        exact h.symm
      · rfl))

/-- The copy hides the row with its key, if there is one. -/
theorem get?_overlay {copy : Option ρ} :
    (t.overlay copy).get? k = (t.get? k).map fun r =>
      match copy with
      | none => r
      | some row => if key row = k then row else r := by
  cases copy with
  | none => simp [overlay]
  | some row =>
    rw [overlay, get?_modify]
    by_cases hk : k = key row
    · subst hk
      rw [if_pos rfl]
      refine Option.map_congr fun r hr => ?_
      rw [if_pos (key_of_get? hr)]
      exact (if_pos rfl).symm
    · rw [if_neg hk]
      simp [Ne.symm hk]

end Overlay

/-! The lemmas above are the interface of the rewrites: a unifier that unfolds one of them loses
    the proof that it keeps the keys. -/

attribute [irreducible] modifyWhere modify

end Table

end Relational

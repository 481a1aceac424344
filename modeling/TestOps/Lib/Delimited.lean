import Mathlib

/-! Sequences that are written one after the other with a separator between them, and read back by
    splitting at the separator:

      join  →  [x].intercalate [l₁, l₂, ..]
      split →  l.splitOn x

    What contains the separator comes back in pieces. A reader may also drop a class of elements from
    both ends of a sequence, before or after the splitting. -/

namespace Delimited

variable {α : Type*} [DecidableEq α] {p : α → Bool} {x c : α} {l : List α}

/-! ### Splitting -/

/-- What has been joined comes back item by item, each in as many pieces as it is itself. -/
theorem splitOn_intercalate {ls : List (List α)} (h : ls ≠ []) :
    ([x].intercalate ls).splitOn x = ls.flatMap (List.splitOn x) := by
  induction ls with
  | nil => exact absurd rfl h
  | cons l ls ih =>
    cases ls with
    | nil => simp
    | cons l' ls =>
      rw [List.intercalate_cons_cons, List.append_assoc, List.singleton_append,
        List.splitOn_append_cons_self, ih (by simp), List.flatMap_cons (x := l)]

omit [DecidableEq α] in
/-- No piece contains an element of the class at which it was split. -/
theorem eq_false_of_mem_splitOnP {piece : List α} (h : piece ∈ l.splitOnP p) :
    ∀ a ∈ piece, p a = false := by
  induction l generalizing piece with
  | nil =>
    rw [List.splitOnP_nil, List.mem_singleton] at h
    subst h
    exact fun a ha => absurd ha List.not_mem_nil
  | cons b l ih =>
    rw [List.splitOnP_cons_eq_if_modifyHead] at h
    split at h
    · rcases List.mem_cons.mp h with rfl | h
      · exact fun a ha => absurd ha List.not_mem_nil
      · exact ih h
    · rename_i hne
      obtain ⟨first, rest, hsplit⟩ := List.exists_cons_of_ne_nil (List.splitOnP_ne_nil p l)
      rw [hsplit] at h ih
      rcases List.mem_cons.mp h with rfl | h
      · exact List.forall_mem_cons.mpr ⟨Bool.eq_false_iff.mpr hne, ih List.mem_cons_self⟩
      · exact ih (List.mem_cons_of_mem _ h)

/-- No piece contains the separator. -/
theorem not_mem_of_mem_splitOn {piece : List α} (h : piece ∈ l.splitOn x) : x ∉ piece := by
  intro hmem
  rw [List.splitOn_eq_splitOnP] at h
  simpa using eq_false_of_mem_splitOnP h x hmem

omit [DecidableEq α] in
/-- Pieces without an element of the class, joined around one of its elements, are split again. -/
theorem splitOnP_intercalate {ls : List (List α)} (hsep : p x = true) (hne : ls ≠ [])
    (h : ∀ piece ∈ ls, ∀ a ∈ piece, p a = false) : ([x].intercalate ls).splitOnP p = ls := by
  induction ls with
  | nil => exact absurd rfl hne
  | cons l ls ih =>
    obtain ⟨hl, hls⟩ := List.forall_mem_cons.mp h
    cases ls with
    | nil => simpa using List.splitOnP_eq_singleton hl
    | cons l' ls =>
      rw [List.intercalate_cons_cons, List.append_assoc, List.singleton_append,
        List.splitOnP_append_cons_of_forall_mem hl x hsep, ih (by simp) hls]

/-- A further element that is not the separator goes to the last piece. -/
theorem splitOn_concat (hne : c ≠ x) : ∃ pieces last, l.splitOn x = pieces ++ [last] ∧
    (l ++ [c]).splitOn x = pieces ++ [last ++ [c]] := by
  induction l with
  | nil => exact ⟨[], [], by simp, by simp [List.splitOn_cons_eq_if_modifyHead, hne]⟩
  | cons a l ih =>
    obtain ⟨pieces, last, hsplit, hsplit'⟩ := ih
    rw [List.cons_append, List.splitOn_cons_eq_if_modifyHead, List.splitOn_cons_eq_if_modifyHead,
      hsplit, hsplit']
    split
    · exact ⟨[] :: pieces, last, rfl, rfl⟩
    · cases pieces with
      | nil => exact ⟨[], a :: last, rfl, rfl⟩
      | cons first pieces => exact ⟨(a :: first) :: pieces, last, rfl, rfl⟩

/-! ### Trimming -/

/-- Without the elements of a class at both ends. -/
def trim (p : α → Bool) (l : List α) : List α := (l.dropWhile p).rdropWhile p

omit [DecidableEq α] in
@[simp] theorem trim_nil : trim p [] = [] := rfl

omit [DecidableEq α] in
theorem trim_cons (h : p c = true) : trim p (c :: l) = trim p l := by
  rw [trim, List.dropWhile_cons_of_pos h, trim]

omit [DecidableEq α] in
theorem trim_concat (h : p c = true) : trim p (l ++ [c]) = trim p l := by
  rw [trim, trim, List.dropWhile_append]
  split
  · rename_i hnil
    rw [List.isEmpty_iff] at hnil
    rw [List.dropWhile_cons_of_pos h, hnil]
    rfl
  · rw [List.rdropWhile_concat_pos _ _ _ h]

omit [DecidableEq α] in
theorem mem_of_mem_trim (h : c ∈ trim p l) : c ∈ l :=
  (List.dropWhile_sublist p).subset ((List.rdropWhile_prefix p _).subset h)

omit [DecidableEq α] in
theorem trim_trim : trim p (trim p l) = trim p l := by
  have hhead : ((l.dropWhile p).rdropWhile p).dropWhile p = (l.dropWhile p).rdropWhile p := by
    rw [List.dropWhile_eq_self_iff]
    intro hlength
    have hne : l.dropWhile p ≠ [] := by
      intro hnil
      rw [hnil] at hlength
      exact absurd hlength (by simp)
    have hfirst := List.head_dropWhile_not p hne
    have hsame := (List.rdropWhile_prefix p (l.dropWhile p)).getElem hlength
    rw [hsame, ← List.head_eq_getElem hne, hfirst]
    exact Bool.false_ne_true
  rw [trim, trim, hhead, List.rdropWhile_idempotent]

omit [DecidableEq α] in
/-- Nothing is dropped from a sequence without elements of the class. -/
theorem trim_eq_self (h : ∀ a ∈ l, p a = false) : trim p l = l := by
  have hfront : l.dropWhile p = l := by
    rw [List.dropWhile_eq_self_iff]
    intro hlength
    rw [h _ (List.getElem_mem hlength)]
    exact Bool.false_ne_true
  rw [trim, hfront, List.rdropWhile_eq_self_iff]
  intro hne
  rw [h _ (List.getLast_mem hne)]
  exact Bool.false_ne_true

omit [DecidableEq α] in
theorem trim_eq_nil_iff : trim p l = [] ↔ ∀ a ∈ l, p a = true := by
  rw [trim, List.rdropWhile_eq_nil_iff]
  constructor
  · intro h a ha
    rw [← List.takeWhile_append_dropWhile (p := p) (l := l)] at ha
    rcases List.mem_append.mp ha with ha | ha
    · exact List.mem_takeWhile_imp ha
    · exact h a ha
  · exact fun h a ha => h a ((List.dropWhile_sublist p).subset ha)

/-! ### Trimming the pieces -/

/-- The trimmed pieces do not depend on what of the class stands in front. -/
theorem map_trim_splitOn_cons (hx : p x = false) (hc : p c = true) :
    ((c :: l).splitOn x).map (trim p) = (l.splitOn x).map (trim p) := by
  have hne : c ≠ x := by
    rintro rfl
    rw [hx] at hc
    cases hc
  rw [List.splitOn_cons_eq_if_modifyHead, if_neg (by simpa using hne)]
  obtain ⟨first, rest, hsplit⟩ := List.exists_cons_of_ne_nil (List.splitOn_ne_nil x l)
  rw [hsplit, List.modifyHead_cons, List.map_cons, List.map_cons, trim_cons hc]

theorem map_trim_splitOn_concat (hx : p x = false) (hc : p c = true) :
    ((l ++ [c]).splitOn x).map (trim p) = (l.splitOn x).map (trim p) := by
  have hne : c ≠ x := by
    rintro rfl
    rw [hx] at hc
    cases hc
  obtain ⟨pieces, last, hsplit, hsplit'⟩ := splitOn_concat (l := l) hne
  rw [hsplit, hsplit', List.map_append, List.map_append, List.map_singleton, List.map_singleton,
    trim_concat hc]

/-- Trimming the whole before the splitting changes nothing if the pieces are trimmed afterwards. -/
theorem map_trim_splitOn_trim (hx : p x = false) :
    ((trim p l).splitOn x).map (trim p) = (l.splitOn x).map (trim p) := by
  have hfront : ((l.dropWhile p).splitOn x).map (trim p) = (l.splitOn x).map (trim p) := by
    induction l with
    | nil => rfl
    | cons a l ih =>
      rw [List.dropWhile_cons]
      split
      · rename_i ha
        rw [ih, map_trim_splitOn_cons hx ha]
      · rfl
  have hback : ∀ m : List α, ((m.rdropWhile p).splitOn x).map (trim p) =
      (m.splitOn x).map (trim p) := by
    intro m
    induction m using List.reverseRecOn with
    | nil => rfl
    | append_singleton m a ih =>
      rw [List.rdropWhile_concat]
      split
      · rename_i ha
        rw [ih, map_trim_splitOn_concat hx ha]
      · rfl
  rw [trim, hback, hfront]

end Delimited

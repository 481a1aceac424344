import Mathlib

/-! Lines of a text that is still being written. A line ends with `lf`, `cr` or `cr lf`; a line is
    complete once its `lf` is there.

      text       a b lf c d cr lf e f
      complete   ├───────────────┤
      split        [a b] [c d] [e f]

    What is complete stays complete, and its lines are followed by the lines of what is appended, so
    that a reader may start over behind the last complete line. -/

namespace Lines

variable {α : Type*} {lf cr x : α} {xs ys rest : List α}

/-! ### Pieces -/

/-- Characters in front of the first line. -/
def glue (xs : List α) : List (List α) → List (List α)
  | [] => [xs]
  | line :: lines => (xs ++ line) :: lines

theorem glue_glue (ls : List (List α)) : glue xs (glue ys ls) = glue (xs ++ ys) ls := by
  cases ls with
  | nil => rfl
  | cons line lines => simp only [glue, List.append_assoc]

theorem glue_append {ls ls' : List (List α)} (hls : ls ≠ []) :
    glue xs (ls ++ ls') = glue xs ls ++ ls' := by
  cases ls with
  | nil => exact absurd rfl hls
  | cons line lines => rfl

theorem dropLast_modifyHead (f : List α → List α) (ls : List (List α)) :
    (ls.modifyHead f).dropLast = ls.dropLast.modifyHead f := by
  rcases ls with _ | ⟨line, _ | ⟨line', lines⟩⟩ <;> rfl

/-- Nothing follows the last `lf`. -/
def Closed (lf : α) (xs : List α) : Prop := ∀ x ∈ xs.getLast?, x = lf

theorem closed_nil : Closed lf [] := by simp [Closed]

theorem Closed.cases (h : Closed lf xs) : xs = [] ∨ ∃ ys, xs = ys ++ [lf] := by
  induction xs using List.reverseRecOn with
  | nil => exact Or.inl rfl
  | append_singleton ys y _ =>
    have hy : y = lf := h y (by simp)
    exact Or.inr ⟨ys, by rw [hy]⟩

/-- A line with its end, or without one. -/
def Ended (lf : α) (line piece : List α) : Prop := line = piece ++ [lf] ∨ line = piece

theorem Ended.glue {ls ls' : List (List α)} (h : List.Forall₂ (Ended lf) ls ls') (xs : List α) :
    List.Forall₂ (Ended lf) (glue xs ls) (glue xs ls') := by
  cases h with
  | nil => exact .cons (Or.inr rfl) .nil
  | cons hline hlines =>
    refine .cons ?_ hlines
    rcases hline with rfl | rfl
    · exact Or.inl (List.append_assoc _ _ _).symm
    · exact Or.inr rfl

/-! ### Encodings -/

section

variable {β : Type*} {lf' cr' : β} {encode : β → List α}

/-- An encoding keeps the line ends and adds none. -/
structure KeepsLines (lf cr : α) (lf' cr' : β) (encode : β → List α) : Prop where
  newline : encode lf' = [lf]
  carriageReturn : encode cr' = [cr]
  other : ∀ b, b ≠ lf' → b ≠ cr' → encode b ≠ [] ∧ ∀ x ∈ encode b, x ≠ lf ∧ x ≠ cr

theorem KeepsLines.head (h : KeepsLines lf cr lf' cr' encode) (hne : lf ≠ cr) {b : β}
    (hb : b ≠ lf') (text : List β) : ((b :: text).flatMap encode).head? ≠ some lf := by
  rw [List.flatMap_cons]
  rcases eq_or_ne b cr' with rfl | hcr
  · rw [h.carriageReturn]
    simpa using hne.symm
  · obtain ⟨hnil, hplain⟩ := h.other b hb hcr
    cases hencode : encode b with
    | nil => exact absurd hencode hnil
    | cons x rest =>
      rw [hencode] at hplain
      simpa using (hplain x List.mem_cons_self).1

theorem map_glue {b : β} (ls : List (List β)) :
    (glue [b] ls).map (·.flatMap encode) = glue (encode b) (ls.map (·.flatMap encode)) := by
  cases ls with
  | nil => simp [glue]
  | cons line lines => simp [glue]

end

/-! ### Cutting a text into lines -/

variable [DecidableEq α]

/-- The lines of a text, without their ends. -/
def split (lf cr : α) : List α → List (List α)
  | [] => []
  | [x] => if x = lf ∨ x = cr then [[]] else [[x]]
  | x :: y :: rest =>
    if x = cr ∧ y = lf then [] :: split lf cr rest
    else if x = lf ∨ x = cr then [] :: split lf cr (y :: rest)
    else glue [x] (split lf cr (y :: rest))

/-- Every end of a line becomes `lf`. -/
def universal (lf cr : α) : List α → List α
  | [] => []
  | [x] => if x = cr then [lf] else [x]
  | x :: y :: rest =>
    if x = cr ∧ y = lf then lf :: universal lf cr rest
    else if x = cr then lf :: universal lf cr (y :: rest)
    else x :: universal lf cr (y :: rest)

/-- The lines of a text, each with its `lf`. -/
def kept (lf : α) : List α → List (List α)
  | [] => []
  | x :: rest => if x = lf then [lf] :: kept lf rest else glue [x] (kept lf rest)

@[simp] theorem split_nil : split lf cr [] = [] := rfl

theorem split_singleton (x : α) :
    split lf cr [x] = if x = lf ∨ x = cr then [[]] else [[x]] := rfl

theorem split_cons_cons (x y : α) (rest : List α) :
    split lf cr (x :: y :: rest) =
      if x = cr ∧ y = lf then [] :: split lf cr rest
      else if x = lf ∨ x = cr then [] :: split lf cr (y :: rest)
      else glue [x] (split lf cr (y :: rest)) := rfl

theorem universal_singleton (x : α) : universal lf cr [x] = if x = cr then [lf] else [x] := rfl

theorem universal_cons_cons (x y : α) (rest : List α) :
    universal lf cr (x :: y :: rest) =
      if x = cr ∧ y = lf then lf :: universal lf cr rest
      else if x = cr then lf :: universal lf cr (y :: rest)
      else x :: universal lf cr (y :: rest) := rfl

@[simp] theorem kept_nil : kept lf [] = [] := rfl

theorem kept_cons (x : α) (rest : List α) :
    kept lf (x :: rest) = if x = lf then [lf] :: kept lf rest else glue [x] (kept lf rest) := rfl

theorem split_lf (hne : lf ≠ cr) : split lf cr (lf :: rest) = [] :: split lf cr rest := by
  cases rest with
  | nil => rw [split_singleton, if_pos (Or.inl rfl), split_nil]
  | cons y rest => rw [split_cons_cons, if_neg (fun h => hne h.1), if_pos (Or.inl rfl)]

theorem split_cr_lf : split lf cr (cr :: lf :: rest) = [] :: split lf cr rest := by
  rw [split_cons_cons, if_pos ⟨rfl, rfl⟩]

theorem split_cr (h : rest.head? ≠ some lf) : split lf cr (cr :: rest) = [] :: split lf cr rest := by
  cases rest with
  | nil => rw [split_singleton, if_pos (Or.inr rfl), split_nil]
  | cons y rest =>
    have hy : y ≠ lf := by simpa using h
    rw [split_cons_cons, if_neg (fun h => hy h.2), if_pos (Or.inr rfl)]

theorem split_cons (hlf : x ≠ lf) (hcr : x ≠ cr) :
    split lf cr (x :: rest) = glue [x] (split lf cr rest) := by
  cases rest with
  | nil => rw [split_singleton, if_neg (by simp [hlf, hcr]), split_nil, glue]
  | cons y rest => rw [split_cons_cons, if_neg (fun h => hcr h.1), if_neg (by simp [hlf, hcr])]

/-- Characters that end no line. -/
theorem split_plain (hplain : ∀ x ∈ xs, x ≠ lf ∧ x ≠ cr) (hne : xs ≠ []) :
    split lf cr (xs ++ rest) = glue xs (split lf cr rest) := by
  induction xs with
  | nil => exact absurd rfl hne
  | cons x xs ih =>
    obtain ⟨hlf, hcr⟩ := hplain x List.mem_cons_self
    rw [List.cons_append, split_cons hlf hcr]
    cases xs with
    | nil => rfl
    | cons y ys =>
      rw [ih (fun z hz => hplain z (List.mem_cons_of_mem _ hz)) (List.cons_ne_nil _ _), glue_glue]
      rfl

theorem split_ne_nil (hne : lf ≠ cr) (h : xs ≠ []) : split lf cr xs ≠ [] := by
  cases xs with
  | nil => exact absurd rfl h
  | cons x rest =>
    rcases eq_or_ne x lf with rfl | hlf
    · rw [split_lf hne]
      exact List.cons_ne_nil _ _
    · rcases eq_or_ne x cr with rfl | hcr
      · cases rest with
        | nil => simp [split_singleton]
        | cons y rest =>
          rw [split_cons_cons]
          split_ifs
          all_goals simp_all
      · rw [split_cons hlf hcr]
        cases split lf cr rest with
        | nil => exact List.cons_ne_nil _ _
        | cons line lines => exact List.cons_ne_nil _ _

/-- What stands before an `lf` is cut on its own. -/
theorem split_append (hne : lf ≠ cr) (before after : List α) :
    split lf cr (before ++ lf :: after) =
      split lf cr (before ++ [lf]) ++ split lf cr after := by
  induction before using List.twoStepInduction with
  | nil => simp [split_lf hne]
  | singleton x =>
    rcases eq_or_ne x lf with rfl | hlf
    · simp [split_lf hne]
    · rcases eq_or_ne x cr with rfl | hcr
      · simp [split_cr_lf]
      · simp [split_cons hlf hcr, split_lf hne, glue]
  | cons_cons x y before ih ih' =>
    have hcons : split lf cr (y :: before ++ [lf]) ≠ [] := split_ne_nil hne (by simp)
    rcases eq_or_ne x lf with rfl | hlf
    · simp only [List.cons_append, split_lf hne] at ih' ⊢
      rw [ih' y]
    · rcases eq_or_ne x cr with rfl | hcr
      · rcases eq_or_ne y lf with rfl | hy
        · simp only [List.cons_append, split_cr_lf, ih]
        · have hhead (zs : List α) : (y :: zs).head? ≠ some lf := by simpa using hy
          simp only [List.cons_append] at ih' ⊢
          rw [split_cr (hhead _), split_cr (hhead _), ih' y, List.cons_append]
      · simp only [List.cons_append, split_cons hlf hcr] at ih' hcons ⊢
        rw [ih' y, glue_append hcons]

/-! ### Complete lines -/

/-- The length up to the last `lf`. -/
def completeSize (lf : α) (xs : List α) : Nat := (xs.reverse.dropWhile (· ≠ lf)).length

instance : Decidable (Closed lf xs) := inferInstanceAs (Decidable (∀ x ∈ xs.getLast?, x = lf))

/-- The complete lines of a text. -/
def completeLines (lf cr : α) (xs : List α) : List (List α) :=
  split lf cr (xs.take (completeSize lf xs))

theorem Closed.reverse (h : Closed lf xs) : xs.reverse.dropWhile (· ≠ lf) = xs.reverse := by
  rcases h.cases with rfl | ⟨ys, rfl⟩
  · rfl
  · simp

theorem Closed.completeSize (h : Closed lf xs) : completeSize lf xs = xs.length := by
  rw [Lines.completeSize, h.reverse, List.length_reverse]

theorem completeSize_append (h : Closed lf xs) :
    completeSize lf (xs ++ ys) = xs.length + completeSize lf ys := by
  have hxs : (xs.reverse.dropWhile (· ≠ lf)).length = xs.length := h.completeSize
  rw [completeSize, completeSize, List.reverse_append, List.dropWhile_append]
  split
  · rename_i hempty
    rw [List.isEmpty_iff.mp hempty, hxs]
    rfl
  · rw [List.length_append, List.length_reverse, Nat.add_comm]

theorem split_closed_append (hne : lf ≠ cr) (h : Closed lf xs) :
    split lf cr (xs ++ ys) = split lf cr xs ++ split lf cr ys := by
  rcases h.cases with rfl | ⟨before, rfl⟩
  · rfl
  · rw [List.append_assoc]
    exact split_append hne before ys

theorem take_completeSize (lf : α) (xs : List α) :
    xs.take (completeSize lf xs) = (xs.reverse.dropWhile (· ≠ lf)).reverse := by
  have hsplit : xs = (xs.reverse.dropWhile (· ≠ lf)).reverse ++
      (xs.reverse.takeWhile (· ≠ lf)).reverse := by
    rw [← List.reverse_append, List.takeWhile_append_dropWhile, List.reverse_reverse]
  conv_lhs => rw [hsplit]
  rw [List.take_left' (by rw [completeSize, List.length_reverse, ← hsplit])]

/-- The complete lines of a text end with an `lf`. -/
theorem closed_take_completeSize (lf : α) (xs : List α) :
    Closed lf (xs.take (completeSize lf xs)) := by
  rw [take_completeSize]
  intro x hx
  rw [List.getLast?_reverse] at hx
  have hnot := List.head?_dropWhile_not (fun y => decide (y ≠ lf)) xs.reverse
  rw [Option.mem_def.mp hx] at hnot
  simpa using hnot

theorem completeSize_le (lf : α) (xs : List α) : completeSize lf xs ≤ xs.length := by
  rw [completeSize]
  exact (List.dropWhile_suffix _).length_le.trans_eq (by simp)

/-- A reader may start over behind the complete lines. -/
theorem completeSize_resume (lf : α) (seen chunk : List α) :
    completeSize lf (seen ++ chunk) = completeSize lf seen +
      completeSize lf ((seen ++ chunk).drop (completeSize lf seen)) := by
  have hle := completeSize_le lf seen
  have hclosed := closed_take_completeSize lf seen
  have hsplit : seen ++ chunk = seen.take (completeSize lf seen) ++
      (seen ++ chunk).drop (completeSize lf seen) := by
    rw [List.drop_append_of_le_length hle, ← List.append_assoc, List.take_append_drop]
  conv_lhs => rw [hsplit, completeSize_append hclosed, List.length_take_of_le hle]

/-- The lines that a reader finds when it starts over are the ones that have come. -/
theorem completeLines_resume (hne : lf ≠ cr) (seen chunk : List α) :
    completeLines lf cr (seen ++ chunk) = completeLines lf cr seen ++
      completeLines lf cr ((seen ++ chunk).drop (completeSize lf seen)) := by
  have hle := completeSize_le lf seen
  have htake : (seen ++ chunk).take (completeSize lf (seen ++ chunk)) =
      seen.take (completeSize lf seen) ++
        ((seen ++ chunk).drop (completeSize lf seen)).take
          (completeSize lf ((seen ++ chunk).drop (completeSize lf seen))) := by
    rw [completeSize_resume, List.take_add, List.take_append_of_le_length hle]
  rw [completeLines, htake, split_closed_append hne (closed_take_completeSize lf seen)]
  rfl

theorem completeSize_mono (lf : α) (seen chunk : List α) :
    completeSize lf seen ≤ completeSize lf (seen ++ chunk) := by
  rw [completeSize_resume]
  exact Nat.le_add_right _ _

theorem completeSize_eq_zero (h : lf ∉ xs) : completeSize lf xs = 0 := by
  have hall : xs.reverse.dropWhile (· ≠ lf) = [] := by
    rw [List.dropWhile_eq_nil_iff]
    exact fun x hx => by simpa using fun heq : x = lf => h (heq ▸ List.mem_reverse.mp hx)
  rw [completeSize, hall]
  rfl

theorem completeLines_eq_nil (h : lf ∉ xs) : completeLines lf cr xs = [] := by
  rw [completeLines, completeSize_eq_zero h]
  rfl

theorem completeLines_lf (hne : lf ≠ cr) :
    completeLines lf cr (lf :: xs) = [] :: completeLines lf cr xs := by
  have hclosed : Closed lf [lf] := by simp [Closed]
  rw [completeLines, ← List.singleton_append, completeSize_append hclosed, List.take_add]
  simp [split_lf hne, completeLines]

theorem completeSize_cons (hmem : lf ∈ xs) :
    completeSize lf (x :: xs) = completeSize lf xs + 1 := by
  have hsome : xs.reverse.dropWhile (· ≠ lf) ≠ [] := by
    intro hnil
    have hall := List.dropWhile_eq_nil_iff.mp hnil lf (List.mem_reverse.mpr hmem)
    simp at hall
  rw [completeSize, List.reverse_cons, List.dropWhile_append,
    if_neg (by simpa using hsome), List.length_append]
  rfl

theorem take_completeSize_ne_nil (hmem : lf ∈ xs) : xs.take (completeSize lf xs) ≠ [] := by
  rw [take_completeSize]
  intro hnil
  have hall := List.dropWhile_eq_nil_iff.mp (List.reverse_eq_nil_iff.mp hnil) lf
    (List.mem_reverse.mpr hmem)
  simp at hall

theorem completeLines_cons (hne : lf ≠ cr) (hlf : x ≠ lf) (hcr : x ≠ cr) (hmem : lf ∈ xs) :
    completeLines lf cr (x :: xs) = (completeLines lf cr xs).modifyHead (x :: ·) := by
  rw [completeLines, completeSize_cons hmem, List.take_succ_cons, split_cons hlf hcr]
  cases h : split lf cr (xs.take (completeSize lf xs)) with
  | nil => exact absurd h (split_ne_nil hne (take_completeSize_ne_nil hmem))
  | cons line lines => rw [completeLines, h]; rfl

/-- Without `cr`, the complete lines are what `lf` closes. -/
theorem completeLines_of_plain (hne : lf ≠ cr) (h : cr ∉ xs) :
    completeLines lf cr xs = (xs.splitOn lf).dropLast := by
  induction xs with
  | nil => rfl
  | cons x xs ih =>
    obtain ⟨hx, hxs⟩ := List.ne_and_not_mem_of_not_mem_cons h
    rw [List.splitOn, List.splitOnP_cons_eq_if_modifyHead, ← List.splitOn]
    rcases eq_or_ne x lf with rfl | hlf
    · rw [if_pos (by simp), completeLines_lf hne, ih hxs,
        List.dropLast_cons_of_ne_nil]
      exact List.splitOnP_ne_nil _ _
    · rw [if_neg (by simpa using hlf), dropLast_modifyHead, ← ih hxs]
      by_cases hmem : lf ∈ xs
      · rw [completeLines_cons hne hlf (Ne.symm hx) hmem]
      · rw [completeLines_eq_nil (by simp [hmem, Ne.symm hlf]), completeLines_eq_nil hmem]
        rfl

/-! ### Encoded texts -/

variable {β : Type*} [DecidableEq β] {lf' cr' : β} {encode : β → List α}

theorem KeepsLines.split_plain (h : KeepsLines lf cr lf' cr' encode) {b : β} (hlf : b ≠ lf')
    (hcr : b ≠ cr') {text : List β}
    (ih : split lf cr (text.flatMap encode) = (split lf' cr' text).map (·.flatMap encode)) :
    split lf cr ((b :: text).flatMap encode) =
      (split lf' cr' (b :: text)).map (·.flatMap encode) := by
  obtain ⟨hnil, hplain⟩ := h.other b hlf hcr
  rw [List.flatMap_cons, Lines.split_plain hplain hnil, ih, split_cons hlf hcr, map_glue]

/-- The lines of an encoded text are the encoded lines. -/
theorem split_flatMap (hne : lf ≠ cr) (hne' : lf' ≠ cr')
    (h : KeepsLines lf cr lf' cr' encode) (text : List β) :
    split lf cr (text.flatMap encode) = (split lf' cr' text).map (·.flatMap encode) := by
  induction text using List.twoStepInduction with
  | nil => rfl
  | singleton b =>
    rcases eq_or_ne b lf' with rfl | hlf
    · simp [h.newline, split_singleton]
    · rcases eq_or_ne b cr' with rfl | hcr
      · simp [h.carriageReturn, split_singleton]
      · exact h.split_plain hlf hcr rfl
  | cons_cons b c text ih ih' =>
    rcases eq_or_ne b lf' with rfl | hlf
    · rw [List.flatMap_cons, h.newline, List.singleton_append, split_lf hne, ih', split_lf hne']
      rfl
    · rcases eq_or_ne b cr' with rfl | hcr
      · rcases eq_or_ne c lf' with rfl | hc
        · rw [List.flatMap_cons, List.flatMap_cons, h.carriageReturn, h.newline,
            List.singleton_append, List.singleton_append, split_cr_lf, ih, split_cr_lf]
          rfl
        · have hhead : (c :: text).head? ≠ some lf' := by simpa using hc
          rw [List.flatMap_cons, h.carriageReturn, List.singleton_append,
            split_cr (h.head hne hc text), ih', split_cr hhead]
          rfl
      · exact h.split_plain hlf hcr (ih' c)

/-! ### Lines with their ends -/

theorem kept_plain (hlf : x ≠ lf) (ys : List α) : kept lf (x :: ys) = glue [x] (kept lf ys) := by
  rw [kept_cons, if_neg hlf]

theorem universal_cons (hcr : x ≠ cr) (ys : List α) :
    universal lf cr (x :: ys) = x :: universal lf cr ys := by
  cases ys with
  | nil => rw [universal_singleton, if_neg hcr]; rfl
  | cons y ys => rw [universal_cons_cons, if_neg (fun h => hcr h.1), if_neg hcr]

/-- A reader of text finds the same lines, each with its end if it has one. -/
theorem kept_universal (hne : lf ≠ cr) (xs : List α) :
    List.Forall₂ (Ended lf) (kept lf (universal lf cr xs)) (split lf cr xs) := by
  have hplain {x : α} {xs : List α} (hcr : x ≠ cr)
      (ih : List.Forall₂ (Ended lf) (kept lf (universal lf cr xs)) (split lf cr xs)) :
      List.Forall₂ (Ended lf) (kept lf (universal lf cr (x :: xs))) (split lf cr (x :: xs)) := by
    rw [universal_cons hcr]
    rcases eq_or_ne x lf with rfl | hlf
    · rw [kept_cons, if_pos rfl, split_lf hne]
      exact .cons (Or.inl rfl) ih
    · rw [kept_plain hlf, split_cons hlf hcr]
      exact Ended.glue ih [x]
  induction xs using List.twoStepInduction with
  | nil => exact .nil
  | singleton x =>
    rcases eq_or_ne x cr with rfl | hcr
    · simp [universal_singleton, kept_cons, split_singleton, Ended]
    · exact hplain hcr .nil
  | cons_cons x y xs ih ih' =>
    rcases eq_or_ne x cr with rfl | hcr
    · rcases eq_or_ne y lf with rfl | hy
      · rw [universal_cons_cons, if_pos ⟨rfl, rfl⟩, kept_cons, if_pos rfl, split_cr_lf]
        exact .cons (Or.inl rfl) ih
      · have hhead : (y :: xs).head? ≠ some lf := by simpa using hy
        rw [universal_cons_cons, if_neg (fun h => hy h.2), if_pos rfl, kept_cons, if_pos rfl,
          split_cr hhead]
        exact .cons (Or.inl rfl) (ih' y)
    · exact hplain hcr (ih' y)

end Lines

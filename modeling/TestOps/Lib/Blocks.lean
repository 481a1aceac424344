import TestOps.Lib.Framing

/-! Blocks of lines in a stream that arrives in pieces. Every line is closed by a separator and every
    block by one more, so a block ends where two separators stand side by side:

      stream    a  b  ¶  c  ¶  ¶  d  ¶  ¶  e
      pieces    a  b | ¶  c  ¶ | ¶  d | ¶  ¶  e
      blocks           (a b ¶ c)      (d)        e is left

    The reader keeps what is left of a piece for the next one. It finds the same blocks however the
    stream is cut. -/

namespace Blocks

open Framing

variable {α : Type*} [DecidableEq α] {sep : α} {text text' rest line : List α} {fuel : Nat}

/-- The position of the first two separators side by side. -/
def boundary (sep : α) : List α → Option Nat
  | a :: b :: text =>
    if a = sep ∧ b = sep then some 0 else (boundary sep (b :: text)).map (· + 1)
  | _ => none

/-- The complete blocks of a buffer and what is left of it. -/
def cut (sep : α) : Nat → List α → List (List α) × List α
  | 0, text => ([], text)
  | fuel + 1, text =>
    match boundary sep text with
    | none => ([], text)
    | some k =>
      (cut sep fuel (text.drop (k + 2))).map (fun blocks => text.take k :: blocks) id

def split (sep : α) (text : List α) : List (List α) × List α := cut sep text.length text

/-- A stream of blocks. -/
def stream (sep : α) (blocks : List (List α)) : List α :=
  blocks.flatMap fun block => block ++ [sep, sep]

/-- No block ends before the separators that close it. -/
def Closed (sep : α) (block : List α) : Prop := boundary sep (block ++ [sep]) = none

/-! ### Boundaries -/

@[simp] theorem boundary_singleton (a : α) : boundary sep [a] = none := rfl

theorem boundary_cons_cons (a b : α) (text : List α) :
    boundary sep (a :: b :: text) =
      if a = sep ∧ b = sep then some 0 else (boundary sep (b :: text)).map (· + 1) := rfl

theorem boundary_length {k : Nat} (h : boundary sep text = some k) : k + 2 ≤ text.length := by
  induction text generalizing k with
  | nil => cases h
  | cons a text ih =>
    cases text with
    | nil => cases h
    | cons b text =>
      rw [boundary_cons_cons] at h
      split at h
      · cases h
        simp
      · obtain ⟨k, hk, rfl⟩ := Option.map_eq_some_iff.mp h
        have := ih hk
        simp only [List.length_cons] at this ⊢
        omega

/-- A boundary stays where it is when more arrives. -/
theorem boundary_append {k : Nat} (h : boundary sep text = some k) :
    boundary sep (text ++ text') = some k := by
  induction text generalizing k with
  | nil => cases h
  | cons a text ih =>
    cases text with
    | nil => cases h
    | cons b text =>
      rw [boundary_cons_cons] at h
      rw [List.cons_append, List.cons_append, boundary_cons_cons]
      split at h
      · rename_i hsep
        rw [if_pos hsep, h]
      · rename_i hsep
        obtain ⟨k, hk, rfl⟩ := Option.map_eq_some_iff.mp h
        have hih := ih hk
        rw [List.cons_append] at hih
        rw [if_neg hsep, hih]
        rfl

/-- A closed block is found in front of whatever follows it. -/
theorem Closed.boundary_append {block : List α} (h : Closed sep block) :
    boundary sep (block ++ sep :: sep :: rest) = some block.length := by
  unfold Closed at h
  induction block with
  | nil =>
    rw [List.nil_append, boundary_cons_cons, if_pos ⟨rfl, rfl⟩]
    rfl
  | cons a block ih =>
    cases block with
    | nil =>
      rw [List.singleton_append, boundary_cons_cons] at h
      split at h
      · cases h
      · rename_i hsep
        rw [List.singleton_append, boundary_cons_cons, if_neg hsep, boundary_cons_cons,
          if_pos ⟨rfl, rfl⟩]
        rfl
    | cons b block =>
      rw [List.cons_append, List.cons_append, boundary_cons_cons] at h
      split at h
      · cases h
      · rename_i hsep
        have hih := ih (Option.map_eq_none_iff.mp h)
        rw [List.cons_append] at hih
        rw [List.cons_append, List.cons_append, boundary_cons_cons, if_neg hsep, hih]
        rfl

/-- A line in front of a text without boundary makes none. -/
theorem boundary_line (hne : line ≠ []) (hsep : sep ∉ line) (hrest : boundary sep rest = none)
    (hhead : rest.head? ≠ some sep) : boundary sep (line ++ sep :: rest) = none := by
  induction line with
  | nil => exact absurd rfl hne
  | cons a line ih =>
    obtain ⟨ha, hline⟩ := not_or.mp (mt List.mem_cons.mpr hsep)
    cases line with
    | nil =>
      cases rest with
      | nil =>
        rw [List.singleton_append, boundary_cons_cons, if_neg fun h => ha h.1.symm]
        rfl
      | cons b rest =>
        have hb : b ≠ sep := fun h => hhead (congrArg some h)
        rw [List.singleton_append, boundary_cons_cons, if_neg fun h => ha h.1.symm,
          boundary_cons_cons, if_neg fun h => hb h.2, hrest]
        rfl
    | cons b line =>
      rw [List.cons_append, List.cons_append, boundary_cons_cons, if_neg fun h => ha h.1.symm,
        Option.map_eq_none_iff]
      exact ih (List.cons_ne_nil _ _) hline

/-- A block of proper lines is closed. -/
theorem closed_lines {lines : List (List α)} (hlines : ∀ line ∈ lines, line ≠ [] ∧ sep ∉ line) :
    boundary sep (close sep lines) = none := by
  induction lines with
  | nil => rfl
  | cons line lines ih =>
    obtain ⟨⟨hne, hsep⟩, hlines⟩ := List.forall_mem_cons.mp hlines
    rw [close, List.flatMap_cons, List.append_assoc, List.singleton_append]
    refine boundary_line hne hsep (ih hlines) ?_
    cases lines with
    | nil => simp
    | cons next lines =>
      obtain ⟨⟨hne', hsep'⟩, -⟩ := List.forall_mem_cons.mp hlines
      obtain ⟨b, next, rfl⟩ := List.exists_cons_of_ne_nil hne'
      intro h
      exact hsep' (Option.some.inj h ▸ List.mem_cons_self)

/-! ### Pieces -/

theorem cut_none (h : boundary sep text = none) : cut sep (fuel + 1) text = ([], text) := by
  rw [cut, h]

theorem cut_some {k : Nat} (h : boundary sep text = some k) :
    cut sep (fuel + 1) text =
      (cut sep fuel (text.drop (k + 2))).map (fun blocks => text.take k :: blocks) id := by
  rw [cut, h]

/-- More fuel than characters makes no difference. -/
theorem cut_fuel {fuel' : Nat} (hfuel : text.length ≤ fuel) (hfuel' : text.length ≤ fuel') :
    cut sep fuel text = cut sep fuel' text := by
  induction fuel generalizing text fuel' with
  | zero =>
    obtain rfl := List.length_eq_zero_iff.mp (Nat.le_zero.mp hfuel)
    cases fuel' <;> rfl
  | succ fuel ih =>
    cases fuel' with
    | zero =>
      obtain rfl := List.length_eq_zero_iff.mp (Nat.le_zero.mp hfuel')
      rfl
    | succ fuel' =>
      cases hk : boundary sep text with
      | none => rw [cut_none hk, cut_none hk]
      | some k =>
        have hlength := boundary_length hk
        have hdrop : (text.drop (k + 2)).length = text.length - (k + 2) := List.length_drop
        have hrest : (text.drop (k + 2)).length ≤ fuel' := by omega
        rw [cut_some hk, cut_some hk, ih (by omega) hrest]

theorem split_none (h : boundary sep text = none) : split sep text = ([], text) := by
  rw [split]
  cases text.length with
  | zero => rfl
  | succ n => exact cut_none h

theorem split_some {k : Nat} (h : boundary sep text = some k) :
    split sep text =
      (split sep (text.drop (k + 2))).map (fun blocks => text.take k :: blocks) id := by
  have hlength := boundary_length h
  have hdrop : (text.drop (k + 2)).length = text.length - (k + 2) := List.length_drop
  obtain ⟨n, hn⟩ := Nat.exists_eq_succ_of_ne_zero (n := text.length) (by omega)
  have hfuel : (text.drop (k + 2)).length ≤ n := by omega
  rw [split, hn, cut_some h, split, cut_fuel hfuel (Nat.le_refl _)]

/-- The blocks of two pieces are the blocks of the whole. -/
theorem split_append (text text' : List α) :
    split sep (text ++ text') =
      (split sep ((split sep text).2 ++ text')).map (fun blocks => (split sep text).1 ++ blocks)
        id := by
  induction hn : text.length using Nat.strong_induction_on generalizing text with
  | h n ih =>
    cases hk : boundary sep text with
    | none =>
      rw [split_none hk]
      rfl
    | some k =>
      have hlength := boundary_length hk
      have hdrop : (text.drop (k + 2)).length = text.length - (k + 2) := List.length_drop
      rw [split_some (boundary_append hk), split_some hk, List.drop_append_of_le_length hlength,
        List.take_append_of_le_length (by omega), ih _ (by omega) _ rfl]
      rfl

/-- The reader finds the blocks of a stream, and nothing is left. -/
theorem split_stream {blocks : List (List α)} (h : ∀ block ∈ blocks, Closed sep block) :
    split sep (stream sep blocks) = (blocks, []) := by
  induction blocks with
  | nil => rfl
  | cons block blocks ih =>
    obtain ⟨hblock, hblocks⟩ := List.forall_mem_cons.mp h
    have hstream : stream sep (block :: blocks) =
        block ++ sep :: sep :: stream sep blocks := by
      rw [stream, List.flatMap_cons, List.append_assoc]
      rfl
    have hdrop : (block ++ sep :: sep :: stream sep blocks).drop (block.length + 2) =
        stream sep blocks := List.drop_length_add_append ..
    rw [hstream, split_some hblock.boundary_append, hdrop, List.take_left, ih hblocks]
    rfl

end Blocks

import Mathlib

/-! Replacing the occurrences of one sequence in another, from left to right:

      text   … ┊ old ┊ … … ┊ old ┊ …
      ──▸    … ┊ new ┊ … … ┊ new ┊ …

    Where what is put in shares no element with what is looked for, an occurrence in the result is one
    in the text, beside those that have been replaced; and two replacements of the same length can be
    done in either order, unless occurrences overlap. -/

namespace Replace

variable {α : Type*} [DecidableEq α]

/-- The first elements are passed over. -/
def replaceFrom (old new : List α) : Nat → List α → List α
  | _, [] => []
  | k + 1, _ :: text => replaceFrom old new k text
  | 0, c :: text =>
    if old <+: c :: text then new ++ replaceFrom old new (old.length - 1) text
    else c :: replaceFrom old new 0 text

/-- `str.replace`, of a sequence that is not empty -/
def replace (old new text : List α) : List α := replaceFrom old new 0 text

variable {old new s t u text rest : List α} {c : α}

/-! ### Equations -/

theorem replaceFrom_eq {k : Nat} : replaceFrom old new k text = replace old new (text.drop k) := by
  induction text generalizing k with
  | nil =>
    rw [List.drop_nil]
    cases k with
    | zero => rfl
    | succ k => rfl
  | cons c text ih =>
    cases k with
    | zero => rfl
    | succ k => exact ih

@[simp] theorem replace_nil : replace old new [] = [] := rfl

theorem replace_cons (h : ¬old <+: c :: text) :
    replace old new (c :: text) = c :: replace old new text := if_neg h

theorem replace_append (hne : old ≠ []) :
    replace old new (old ++ rest) = new ++ replace old new rest := by
  cases old with
  | nil => exact absurd rfl hne
  | cons c old =>
    have hprefix : c :: old <+: c :: (old ++ rest) := List.prefix_append (c :: old) rest
    rw [List.cons_append, replace, replaceFrom, if_pos hprefix, replaceFrom_eq, List.length_cons,
      Nat.add_sub_cancel, List.drop_left]

/-- A text is empty, goes on with some element, or with an occurrence. -/
theorem replace_induction {motive : List α → Prop} (hne : old ≠ []) (nil : motive [])
    (cons : ∀ c text, ¬old <+: c :: text → motive text → motive (c :: text))
    (append : ∀ rest, motive rest → motive (old ++ rest)) (text : List α) : motive text := by
  induction hlength : text.length using Nat.strong_induction_on generalizing text with
  | h n ih =>
    by_cases hprefix : old <+: text
    · obtain ⟨rest, rfl⟩ := hprefix
      have hpos := List.length_pos_of_ne_nil hne
      rw [List.length_append] at hlength
      exact append rest (ih rest.length (by omega) rest rfl)
    · cases text with
      | nil => exact nil
      | cons c text =>
        rw [List.length_cons] at hlength
        exact cons c text hprefix (ih text.length (by omega) text rfl)

/-! ### Occurrences in the result -/

/-- What begins the result begins the text, and has no occurrence. -/
theorem prefix_of_replace (hne : old ≠ []) (hnew : new ≠ []) (hu : u.Disjoint new)
    (h : u <+: replace old new text) : u <+: text ∧ ¬old <:+: u := by
  induction text using replace_induction hne generalizing u with
  | nil =>
    rw [replace_nil, List.prefix_nil] at h
    rw [h]
    exact ⟨List.prefix_rfl, fun hinfix => hne (List.infix_nil.mp hinfix)⟩
  | cons c text hprefix ih =>
    rw [replace_cons hprefix] at h
    cases u with
    | nil => exact ⟨List.nil_prefix, fun hinfix => hne (List.infix_nil.mp hinfix)⟩
    | cons d u =>
      obtain ⟨rfl, htail⟩ := List.cons_prefix_cons.mp h
      obtain ⟨htext, hfree⟩ := ih (List.disjoint_of_disjoint_cons_left hu) htail
      have hboth : d :: u <+: d :: text := List.cons_prefix_cons.mpr ⟨rfl, htext⟩
      refine ⟨hboth, fun hinfix => ?_⟩
      rcases List.infix_cons_iff.mp hinfix with hstart | hlater
      · exact hprefix (hstart.trans hboth)
      · exact hfree hlater
  | append rest ih =>
    rw [replace_append hne] at h
    cases u with
    | nil => exact ⟨List.nil_prefix, fun hinfix => hne (List.infix_nil.mp hinfix)⟩
    | cons d u =>
      obtain ⟨e, new, rfl⟩ := List.exists_cons_of_ne_nil hnew
      obtain ⟨rfl, -⟩ := List.cons_prefix_cons.mp h
      exact absurd List.mem_cons_self (List.disjoint_left.mp hu List.mem_cons_self)

omit [DecidableEq α] in
theorem infix_of_append (hu : u.Disjoint new) (hne : u ≠ []) (h : u <:+: new ++ rest) :
    u <:+: rest := by
  induction new with
  | nil => exact h
  | cons e new ih =>
    rw [List.disjoint_cons_right] at hu
    rw [List.cons_append, List.infix_cons_iff] at h
    rcases h with h | h
    · cases u with
      | nil => exact absurd rfl hne
      | cons d u =>
        obtain ⟨rfl, -⟩ := List.cons_prefix_cons.mp h
        exact absurd List.mem_cons_self hu.1
    · exact ih hu.2 h

/-- What occurs in the result occurs in the text, and has no occurrence. -/
theorem infix_of_replace (hne : old ≠ []) (hnew : new ≠ []) (hu : u.Disjoint new) (hne' : u ≠ [])
    (h : u <:+: replace old new text) : u <:+: text ∧ ¬old <:+: u := by
  induction text using replace_induction hne with
  | nil => exact absurd (List.infix_nil.mp h) hne'
  | cons c text hprefix ih =>
    have hcons := h
    rw [replace_cons hprefix, List.infix_cons_iff] at hcons
    rcases hcons with hstart | hlater
    · rw [← replace_cons hprefix] at hstart
      obtain ⟨htext, hfree⟩ := prefix_of_replace hne hnew hu hstart
      exact ⟨htext.isInfix, hfree⟩
    · obtain ⟨htext, hfree⟩ := ih hlater
      exact ⟨htext.trans (List.suffix_cons c text).isInfix, hfree⟩
  | append rest ih =>
    rw [replace_append hne] at h
    obtain ⟨htext, hfree⟩ := ih (infix_of_append hu hne' h)
    exact ⟨htext.trans (List.suffix_append old rest).isInfix, hfree⟩

/-- After the replacement there is no occurrence. -/
theorem not_infix_replace (hne : old ≠ []) (hnew : new ≠ []) (h : old.Disjoint new) :
    ¬old <:+: replace old new text := fun hinfix =>
  (infix_of_replace hne hnew h hne hinfix).2 List.infix_rfl

/-! ### Two replacements -/

/-- An occurrence of the one may begin within an occurrence of the other. -/
def Overlaps (s t : List α) : Prop := ∃ k, 0 < k ∧ k < s.length ∧ s.drop k <+: t

/-- Nothing is replaced where no occurrence begins. -/
theorem replace_append_of_free (h : ∀ k < t.length, ¬s <+: t.drop k ++ rest) :
    replace s new (t ++ rest) = t ++ replace s new rest := by
  induction t with
  | nil => rfl
  | cons c t ih =>
    have hfirst : ¬s <+: c :: (t ++ rest) := h 0 (Nat.succ_pos _)
    rw [List.cons_append, replace_cons hfirst, List.cons_append]
    exact congrArg _ (ih fun k hk => h (k + 1) (Nat.succ_lt_succ hk))

theorem replace_new (hne : s ≠ []) (h : s.Disjoint new) :
    replace s new (new ++ rest) = new ++ replace s new rest := by
  refine replace_append_of_free fun k hk hprefix => ?_
  obtain ⟨c, s, rfl⟩ := List.exists_cons_of_ne_nil hne
  have hdrop : new.drop k ≠ [] := fun hnil => absurd (List.drop_eq_nil_iff.mp hnil) (by omega)
  obtain ⟨d, tail, htail⟩ := List.exists_cons_of_ne_nil hdrop
  rw [htail] at hprefix
  obtain ⟨rfl, -⟩ := List.cons_prefix_cons.mp hprefix
  have hmem : c ∈ new := List.mem_of_mem_drop (htail ▸ List.mem_cons_self)
  exact List.disjoint_left.mp h List.mem_cons_self hmem

/-- An occurrence of another sequence of the same length stays as it is. -/
theorem replace_other (hlength : s.length = t.length) (hst : s ≠ t) (hfree : ¬Overlaps t s) :
    replace s new (t ++ rest) = t ++ replace s new rest := by
  refine replace_append_of_free fun k hk hprefix => ?_
  cases k with
  | zero =>
    rw [List.drop_zero] at hprefix
    have hsame := List.prefix_of_prefix_length_le hprefix (List.prefix_append t rest) hlength.le
    exact hst (hsame.eq_of_length hlength)
  | succ k =>
    refine hfree ⟨k + 1, Nat.succ_pos k, hk, ?_⟩
    refine List.prefix_of_prefix_length_le (List.prefix_append _ rest) hprefix ?_
    rw [List.length_drop]
    omega

/-- Sequences of the same length are replaced in either order, unless they overlap. -/
theorem replace_comm (hs : s ≠ []) (ht : t ≠ []) (hnew : new ≠ []) (hs' : s.Disjoint new)
    (ht' : t.Disjoint new) (hlength : s.length = t.length) (hst : s ≠ t) (hfree : ¬Overlaps s t)
    (hfree' : ¬Overlaps t s) :
    replace s new (replace t new text) = replace t new (replace s new text) := by
  induction hsize : text.length using Nat.strong_induction_on generalizing text with
  | h n ih =>
    by_cases htext : t <+: text
    · obtain ⟨rest, rfl⟩ := htext
      have hpos := List.length_pos_of_ne_nil ht
      rw [List.length_append] at hsize
      rw [replace_append ht, replace_new hs hs', replace_other hlength hst hfree',
        replace_append ht, ih rest.length (by omega) rfl]
    · by_cases hstext : s <+: text
      · obtain ⟨rest, rfl⟩ := hstext
        have hpos := List.length_pos_of_ne_nil hs
        rw [List.length_append] at hsize
        rw [replace_append hs, replace_new ht ht', replace_other hlength.symm hst.symm hfree,
          replace_append hs, ih rest.length (by omega) rfl]
      · cases text with
        | nil => rfl
        | cons c text =>
          -- an occurrence in the result of the other replacement would be one in the text
          have hkept : ∀ {a b : List α}, a ≠ [] → b ≠ [] → a.Disjoint new → ¬b <+: c :: text →
              ¬a <+: c :: text → ¬a <+: c :: replace b new text := by
            intro a b ha hb ha' hbtext hatext hprefix
            rw [← replace_cons hbtext] at hprefix
            exact hatext (prefix_of_replace hb hnew ha' hprefix).1
          rw [List.length_cons] at hsize
          rw [replace_cons htext, replace_cons hstext,
            replace_cons (hkept hs ht hs' htext hstext), replace_cons (hkept ht hs ht' hstext htext),
            ih text.length (by omega) rfl]

/-! ### One replacement after the other -/

omit [DecidableEq α] in
/-- A fold over a sorted sequence does not depend on how ties are broken, where those commute. -/
theorem foldl_eq_of_sorted {σ ι : Type*} [DecidableEq ι] {f : σ → ι → σ} {key : ι → Nat}
    {xs ys : List ι} (hperm : xs.Perm ys) (hxs : xs.Pairwise fun a b => key b ≤ key a)
    (hys : ys.Pairwise fun a b => key b ≤ key a)
    (hcomm : ∀ a ∈ xs, ∀ b ∈ xs, key a = key b → ∀ x, f (f x a) b = f (f x b) a) (x : σ) :
    xs.foldl f x = ys.foldl f x := by
  induction xs generalizing ys x with
  | nil => rw [hperm.nil_eq]
  | cons a xs ih =>
    obtain ⟨front, back, rfl⟩ := List.append_of_mem (hperm.subset List.mem_cons_self)
    obtain ⟨hfirst, htail⟩ := List.pairwise_cons.mp hxs
    have hrest : xs.Perm (front ++ back) := (hperm.trans List.perm_middle).cons_inv
    have hsorted : (front ++ back).Pairwise fun a b => key b ≤ key a :=
      hys.sublist ((List.append_sublist_append_left front).mpr (List.sublist_cons_self a back))
    -- all that stands before the first element has the same key
    have hfront : ∀ b ∈ front, b ∈ xs ∧ key a = key b := by
      intro b hb
      have hmem : b ∈ xs := hrest.symm.subset (List.mem_append_left _ hb)
      have hle := (List.pairwise_append.mp hys).2.2 b hb a List.mem_cons_self
      exact ⟨hmem, le_antisymm hle (hfirst b hmem)⟩
    have hmove : ∀ (bs : List ι) (x : σ), (∀ b ∈ bs, b ∈ xs ∧ key a = key b) →
        f (bs.foldl f x) a = bs.foldl f (f x a) := by
      intro bs
      induction bs with
      | nil => exact fun _ _ => rfl
      | cons b bs ihbs =>
        intro x hbs
        rw [List.forall_mem_cons] at hbs
        rw [List.foldl_cons, List.foldl_cons, ihbs (f x b) hbs.2,
          hcomm a List.mem_cons_self b (List.mem_cons_of_mem _ hbs.1.1) hbs.1.2 x]
    rw [List.foldl_cons, List.foldl_append, List.foldl_cons, hmove front x hfront,
      ← List.foldl_append]
    exact ih hrest htail hsorted (fun b hb c hc => hcomm b (List.mem_cons_of_mem _ hb) c
      (List.mem_cons_of_mem _ hc)) (f x a)

end Replace

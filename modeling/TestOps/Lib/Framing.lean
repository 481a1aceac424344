import Mathlib

/-! Documents in one stream. A document is a name and a content, and each of the two is closed by a
    separator; a name does not contain the separator, a content may:

      frame [(n₁, c₁), (n₂, c₂), ..]  =  n₁ 0 c₁ 0 n₂ 0 c₂ 0 ..

    The stream tells the documents apart as long as nothing between two separators of a content looks
    like a name. Where something does, the content can be cut there into two documents. -/

namespace Framing

variable {α : Type*}

/-! ### Separated pieces -/

/-- Every piece, closed by the separator. -/
def close (sep : α) (pieces : List (List α)) : List α := pieces.flatMap fun piece => piece ++ [sep]

theorem close_append {sep : α} {pieces pieces' : List (List α)} :
    close sep (pieces ++ pieces') = close sep pieces ++ close sep pieces' :=
  List.flatMap_append

/-- Closing every piece is closing what is joined. -/
theorem close_eq_intercalate {sep : α} {pieces : List (List α)} (hne : pieces ≠ []) :
    close sep pieces = [sep].intercalate pieces ++ [sep] := by
  induction pieces with
  | nil => exact absurd rfl hne
  | cons x pieces ih =>
    cases pieces with
    | nil => simp [close]
    | cons y pieces =>
      rw [List.intercalate_cons_cons, close, List.flatMap_cons]
      have hrest := ih (List.cons_ne_nil _ _)
      rw [close] at hrest
      rw [hrest]
      simp only [List.append_assoc]

/-- The separator tells pieces apart that do not contain it. -/
theorem append_sep_cancel {sep : α} {x y u v : List α} (hx : sep ∉ x) (hy : sep ∉ y)
    (h : x ++ sep :: u = y ++ sep :: v) : x = y ∧ u = v := by
  induction x generalizing y with
  | nil =>
    cases y with
    | nil => exact ⟨rfl, (List.cons.inj h).2⟩
    | cons b y =>
      obtain ⟨rfl, -⟩ := List.cons.inj h
      exact absurd List.mem_cons_self hy
  | cons a x ih =>
    cases y with
    | nil =>
      obtain ⟨rfl, -⟩ := List.cons.inj h
      exact absurd List.mem_cons_self hx
    | cons b y =>
      obtain ⟨rfl, hrest⟩ := List.cons.inj h
      obtain ⟨rfl, rfl⟩ := ih (fun hmem => hx (List.mem_cons_of_mem _ hmem))
        (fun hmem => hy (List.mem_cons_of_mem _ hmem)) hrest
      exact ⟨rfl, rfl⟩

theorem close_injective {sep : α} {pieces pieces' : List (List α)}
    (hp : ∀ piece ∈ pieces, sep ∉ piece) (hp' : ∀ piece ∈ pieces', sep ∉ piece)
    (h : close sep pieces = close sep pieces') : pieces = pieces' := by
  induction pieces generalizing pieces' with
  | nil =>
    cases pieces' with
    | nil => rfl
    | cons => simp [close] at h
  | cons x pieces ih =>
    cases pieces' with
    | nil => simp [close] at h
    | cons y pieces' =>
      obtain ⟨hx, hleft⟩ := List.forall_mem_cons.mp hp
      obtain ⟨hy, hleft'⟩ := List.forall_mem_cons.mp hp'
      simp only [close, List.flatMap_cons, List.append_assoc, List.singleton_append] at h
      obtain ⟨hxy, hrest⟩ := append_sep_cancel hx hy h
      rw [hxy, ih hleft hleft' hrest]

section Split

variable [BEq α] [LawfulBEq α] {sep : α}

theorem not_mem_of_mem_splitOn {xs piece : List α} (h : piece ∈ xs.splitOn sep) : sep ∉ piece := by
  induction xs generalizing piece with
  | nil =>
    rw [List.splitOn_nil, List.mem_singleton] at h
    rw [h]
    exact List.not_mem_nil
  | cons x xs ih =>
    rw [List.splitOn_cons_eq_if_modifyHead] at h
    split at h
    · rcases List.mem_cons.mp h with rfl | h
      · exact List.not_mem_nil
      · exact ih h
    · rename_i hne
      cases hsplit : xs.splitOn sep with
      | nil => exact absurd hsplit (List.splitOn_ne_nil _ _)
      | cons y ys =>
        rw [hsplit] at h ih
        rcases List.mem_cons.mp h with rfl | h
        · intro hmem
          rcases List.mem_cons.mp hmem with rfl | hmem
          · exact hne (beq_self_eq_true _)
          · exact ih List.mem_cons_self hmem
        · exact ih (List.mem_cons_of_mem _ h)

/-- A content is its pieces, one separator between any two of them. -/
theorem close_splitOn (xs : List α) : close sep (xs.splitOn sep) = xs ++ [sep] := by
  rw [close_eq_intercalate (List.splitOn_ne_nil _ _), List.intercalate_splitOn]

end Split

/-! ### Documents -/

/-- The documents one after the other, each a name and a content. -/
def frame (sep : α) (documents : List (List α × List α)) : List α :=
  documents.flatMap fun document => document.1 ++ [sep] ++ document.2 ++ [sep]

theorem frame_append {sep : α} {documents documents' : List (List α × List α)} :
    frame sep (documents ++ documents') = frame sep documents ++ frame sep documents' :=
  List.flatMap_append

/-- A content that has a name between two separators is framed like two documents. -/
theorem frame_split {sep : α} {before after : List (List α × List α)} {name name' x y : List α} :
    frame sep (before ++ (name, x ++ [sep] ++ name' ++ [sep] ++ y) :: after) =
      frame sep (before ++ (name, x) :: (name', y) :: after) := by
  simp [frame, List.append_assoc]

section Documents

variable [BEq α] [LawfulBEq α] {sep : α} {IsName : List α → Prop}

/-- The names and the pieces of the contents, in the order of the stream. -/
def pieces (sep : α) (documents : List (List α × List α)) : List (List α) :=
  documents.flatMap fun document => document.1 :: document.2.splitOn sep

theorem close_pieces {documents : List (List α × List α)} :
    close sep (pieces sep documents) = frame sep documents := by
  induction documents with
  | nil => rfl
  | cons document documents ih =>
    have hcons : pieces sep (document :: documents) =
        (document.1 :: document.2.splitOn sep) ++ pieces sep documents := rfl
    rw [hcons, close_append, ih]
    have hhead : close sep (document.1 :: document.2.splitOn sep) =
        document.1 ++ [sep] ++ close sep (document.2.splitOn sep) := rfl
    rw [hhead, close_splitOn]
    simp [frame, List.append_assoc]

omit [LawfulBEq α] in
/-- What follows a content in the pieces is nothing, or a name. -/
theorem pieces_head {documents : List (List α × List α)}
    (hnames : ∀ document ∈ documents, IsName document.1) :
    ∀ piece ∈ (pieces sep documents).head?, IsName piece := by
  cases documents with
  | nil => intro piece h; cases h
  | cons document documents =>
    intro piece h
    cases h
    exact hnames document List.mem_cons_self

omit [BEq α] [LawfulBEq α] in
/-- Pieces of a content end where the first name stands. -/
theorem append_names_cancel {xs ys us vs : List (List α)} (hx : ∀ piece ∈ xs, ¬IsName piece)
    (hy : ∀ piece ∈ ys, ¬IsName piece) (hu : ∀ piece ∈ us.head?, IsName piece)
    (hv : ∀ piece ∈ vs.head?, IsName piece) (h : xs ++ us = ys ++ vs) : xs = ys ∧ us = vs := by
  induction xs generalizing ys with
  | nil =>
    cases ys with
    | nil => exact ⟨rfl, h⟩
    | cons y ys =>
      rw [List.nil_append] at h
      subst h
      exact absurd (hu y rfl) (hy y List.mem_cons_self)
  | cons x xs ih =>
    obtain ⟨hx₁, hx⟩ := List.forall_mem_cons.mp hx
    cases ys with
    | nil =>
      rw [List.nil_append] at h
      subst h
      exact absurd (hv x rfl) hx₁
    | cons y ys =>
      obtain ⟨rfl, hrest⟩ := List.cons.inj h
      obtain ⟨rfl, rfl⟩ := ih hx (List.forall_mem_cons.mp hy).2 hrest
      exact ⟨rfl, rfl⟩

theorem pieces_injective {documents documents' : List (List α × List α)}
    (hnames : ∀ document ∈ documents, IsName document.1)
    (hplain : ∀ document ∈ documents, ∀ piece ∈ document.2.splitOn sep, ¬IsName piece)
    (hnames' : ∀ document ∈ documents', IsName document.1)
    (hplain' : ∀ document ∈ documents', ∀ piece ∈ document.2.splitOn sep, ¬IsName piece)
    (h : pieces sep documents = pieces sep documents') : documents = documents' := by
  induction documents generalizing documents' with
  | nil =>
    cases documents' with
    | nil => rfl
    | cons => simp [pieces] at h
  | cons document documents ih =>
    cases documents' with
    | nil => simp [pieces] at h
    | cons document' documents' =>
      obtain ⟨-, hnames⟩ := List.forall_mem_cons.mp hnames
      obtain ⟨-, hnames'⟩ := List.forall_mem_cons.mp hnames'
      obtain ⟨hd, hplain⟩ := List.forall_mem_cons.mp hplain
      obtain ⟨hd', hplain'⟩ := List.forall_mem_cons.mp hplain'
      simp only [pieces, List.flatMap_cons, List.cons_append] at h
      obtain ⟨hname, htail⟩ := List.cons.inj h
      obtain ⟨hcontent, hrest⟩ :=
        append_names_cancel hd hd' (pieces_head hnames) (pieces_head hnames') htail
      have hjoin : ∀ xs : List α, [sep].intercalate (xs.splitOn sep) = xs :=
        fun _ => List.intercalate_splitOn sep
      have hsame : document.2 = document'.2 := by
        rw [← hjoin document.2, hcontent, hjoin]
      rw [Prod.ext hname hsame, ih hnames hplain hnames' hplain' hrest]

/-- The stream tells documents apart whose contents have no name between their separators. -/
theorem frame_injective {documents documents' : List (List α × List α)}
    (hsep : ∀ name, IsName name → sep ∉ name)
    (hnames : ∀ document ∈ documents, IsName document.1)
    (hplain : ∀ document ∈ documents, ∀ piece ∈ document.2.splitOn sep, ¬IsName piece)
    (hnames' : ∀ document ∈ documents', IsName document.1)
    (hplain' : ∀ document ∈ documents', ∀ piece ∈ document.2.splitOn sep, ¬IsName piece)
    (h : frame sep documents = frame sep documents') : documents = documents' := by
  have hpieces : ∀ ds : List (List α × List α), (∀ document ∈ ds, IsName document.1) →
      ∀ piece ∈ pieces sep ds, sep ∉ piece := by
    intro ds hnames piece hmem
    obtain ⟨document, hdocument, hmem⟩ := List.mem_flatMap.mp hmem
    rcases List.mem_cons.mp hmem with rfl | hmem
    · exact hsep _ (hnames document hdocument)
    · exact not_mem_of_mem_splitOn hmem
  rw [← close_pieces, ← close_pieces] at h
  exact pieces_injective hnames hplain hnames' hplain'
    (close_injective (hpieces _ hnames) (hpieces _ hnames') h)

end Documents

/-! ### Text as bytes -/

/-- The bytes of a text. -/
def utf8 (text : String) : List UInt8 := text.toList.flatMap String.utf8EncodeChar

theorem utf8_eq (text : String) : utf8 text = text.toByteArray.data.toList := by
  rw [← String.utf8Encode_toList, List.utf8Encode]
  simp [utf8]

theorem utf8_injective {text text' : String} (h : utf8 text = utf8 text') : text = text' := by
  rw [utf8_eq, utf8_eq] at h
  exact String.toByteArray_inj.mp (ByteArray.ext (Array.toList_inj.mp h))

/-- Only the character of code 0 has a byte 0. -/
theorem zero_mem_utf8 {text : String} (h : (0 : UInt8) ∈ utf8 text) : '\x00' ∈ text.toList := by
  have hzero : ∀ n : Nat, (0 : UInt8) = UInt8.ofNat n → n % 256 = 0 := by
    intro n hn
    have hnat := congrArg UInt8.toNat hn
    rw [UInt8.toNat_ofNat'] at hnat
    exact hnat.symm
  obtain ⟨c, hc, hmem⟩ := List.mem_flatMap.mp h
  have hval : c.val.toNat = 0 := by
    simp only [String.utf8EncodeChar] at hmem
    split at hmem
    · have := hzero _ (List.mem_singleton.mp hmem)
      omega
    · split at hmem
      · simp only [List.mem_cons, List.not_mem_nil, or_false] at hmem
        rcases hmem with hmem | hmem
        all_goals have := hzero _ hmem; omega
      · split at hmem
        · simp only [List.mem_cons, List.not_mem_nil, or_false] at hmem
          rcases hmem with hmem | hmem | hmem
          all_goals have := hzero _ hmem; omega
        · simp only [List.mem_cons, List.not_mem_nil, or_false] at hmem
          rcases hmem with hmem | hmem | hmem | hmem
          all_goals have := hzero _ hmem; omega
  have hnul : c = '\x00' := Char.ext (UInt32.toNat_inj.mp hval)
  rwa [← hnul]

end Framing

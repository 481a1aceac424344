import TestOps.Lib.Delimited
import TestOps.Lib.Json
import TestOps.Lib.Utf8

/-! Addresses, as they are split into their parts, and the escapes in them.

      workspace://host/a%20b?c#d
      ╰scheme─╯   ╰┬─╯╰─┬──╯ ┬ ┬
               netloc  path  │ fragment
                           query

    An escape is a percent sign and two hexadecimal digits. Whoever puts a text into an address without
    escaping it gets back what stands before a question mark or a number sign, and no escapes. -/

namespace Url

/-! ### Splitting -/

structure SplitResult where
  scheme : List Char
  netloc : List Char
  path : List Char
  query : List Char
  fragment : List Char
  deriving DecidableEq

/-- Which network locations are accepted, among those with brackets or with characters outside of
    ASCII. -/
abbrev Locations := List Char → Bool

def isAscii (c : Char) : Bool := decide (c.toNat < 128)

def isSchemeChar (c : Char) : Bool := c.isAlphanum || c = '+' || c = '-' || c = '.'

/-- Tabs and line breaks, which are removed wherever they stand. -/
def isRemoved (c : Char) : Bool := c = '\t' || c = '\r' || c = '\n'

def endsLocation (c : Char) : Bool := c = '/' || c = '?' || c = '#'

/-- Control characters and spaces do not begin an address. -/
def cleaned (url : List Char) : List Char :=
  (url.dropWhile fun c => decide (c.toNat ≤ 32)).filter fun c => !isRemoved c

/-- The scheme, and what follows its colon. -/
def splitScheme (url : List Char) : List Char × List Char :=
  let scheme := url.takeWhile (· ≠ ':')
  if url.head?.any Char.isAlpha ∧ ':' ∈ url ∧ scheme.all isSchemeChar then
    (scheme.map Char.toLower, (url.dropWhile (· ≠ ':')).tail)
  else ([], url)

def splitLocation (url : List Char) : List Char × List Char :=
  if url.take 2 = ['/', '/'] then
    ((url.drop 2).takeWhile fun c => !endsLocation c, (url.drop 2).dropWhile fun c => !endsLocation c)
  else ([], url)

/-- A text up to a character, and after it. -/
def cut (c : Char) (text : List Char) : List Char × List Char :=
  (text.takeWhile (· ≠ c), (text.dropWhile (· ≠ c)).tail)

/-- A location that is accepted without looking at its host. -/
def isPlainLocation (netloc : List Char) : Bool :=
  netloc.all fun c => isAscii c && c ≠ '[' && c ≠ ']'

/-- A split raises for a location that is not well formed. -/
def urlsplit (locations : Locations) (url : List Char) : Option SplitResult :=
  let (scheme, rest) := splitScheme (cleaned url)
  let (netloc, rest) := splitLocation rest
  if isPlainLocation netloc || locations netloc then
    let (rest, fragment) := cut '#' rest
    let (path, query) := cut '?' rest
    some ⟨scheme, netloc, path, query, fragment⟩
  else none

/-- What stands before the last at sign of a network location. -/
def SplitResult.userinfo (parts : SplitResult) : Option (List Char) :=
  if '@' ∈ parts.netloc then some (parts.netloc.reverse.dropWhile (· ≠ '@')).tail.reverse else none

def SplitResult.hostinfo (parts : SplitResult) : List Char :=
  (parts.netloc.reverse.takeWhile (· ≠ '@')).reverse

def SplitResult.username (parts : SplitResult) : Option (List Char) :=
  parts.userinfo.map fun info => (cut ':' info).1

def SplitResult.password (parts : SplitResult) : Option (List Char) :=
  parts.userinfo.bind fun info => if ':' ∈ info then some (cut ':' info).2 else none

/-- The host, and what follows it. -/
def SplitResult.hostAndPort (parts : SplitResult) : List Char × List Char :=
  let info := parts.hostinfo
  if '[' ∈ info then cut ']' (cut '[' info).2
  else (info.takeWhile (· ≠ ':'), info.dropWhile (· ≠ ':'))

/-- The host in lower case, but for the zone of an address. -/
def SplitResult.hostname (lower : List Char → List Char) (parts : SplitResult) :
    Option (List Char) :=
  let host := parts.hostAndPort.1
  if host = [] then none
  else some (lower (cut '%' host).1 ++ host.dropWhile (· ≠ '%'))

/-- The number behind the host's colon; reading it raises when it is none, or not a port. -/
def SplitResult.port (parts : SplitResult) : Option (Option Nat) :=
  let rest := parts.hostAndPort.2
  if ':' ∈ rest then
    let digits := (cut ':' rest).2
    if digits ≠ [] ∧ digits.all Char.isDigit then
      let number := digits.foldl (fun n c => 10 * n + (c.toNat - '0'.toNat)) 0
      if number ≤ 65535 then some (some number) else none
    else none
  else some none

/-- The schemes after which a network location may stand. -/
def usesNetloc : List String :=
  ["ftp", "http", "gopher", "nntp", "telnet", "imap", "wais", "file", "mms", "https", "shttp",
    "snews", "prospero", "rtsp", "rtsps", "rtspu", "rsync", "svn", "svn+ssh", "sftp", "nfs", "git",
    "git+ssh", "ws", "wss", "itms-services"]

def urlunsplit (parts : SplitResult) : List Char :=
  let rooted := if parts.path = [] ∨ parts.path.head? = some '/' then parts.path
    else '/' :: parts.path
  let url :=
    if parts.netloc ≠ [] then '/' :: '/' :: parts.netloc ++ rooted
    else if parts.path.take 2 = ['/', '/'] then '/' :: '/' :: parts.path
    else if String.ofList parts.scheme ∈ usesNetloc ∧
        (parts.path = [] ∨ parts.path.head? = some '/') then '/' :: '/' :: parts.path
    else parts.path
  (if parts.scheme = [] then [] else parts.scheme ++ [':']) ++ url ++
    (if parts.query = [] then [] else '?' :: parts.query) ++
    if parts.fragment = [] then [] else '#' :: parts.fragment

/-! ### Escapes -/

def asciiBytes (text : List Char) : List UInt8 := text.map fun c => UInt8.ofNat c.toNat

/-- What follows a percent sign is the rest of an escape. -/
def isEscape : List Char → Bool
  | a :: b :: _ => (Json.hexValue a).isSome && (Json.hexValue b).isSome
  | _ => false

def hasEscape : List Char → Bool
  | [] => false
  | c :: cs => c = '%' && isEscape cs || hasEscape cs

/-- What follows a percent sign, up to the next one. -/
def unquoteItem (item : List Char) : List UInt8 :=
  match item with
  | a :: b :: rest =>
    match Json.hexValue a, Json.hexValue b with
    | some x, some y => UInt8.ofNat (16 * x + y) :: asciiBytes rest
    | _, _ => asciiBytes ('%' :: item)
  | _ => asciiBytes ('%' :: item)

def unquoteToBytes (run : List Char) : List UInt8 :=
  match run.splitOn '%' with
  | [] => []
  | first :: items => asciiBytes first ++ items.flatMap unquoteItem

/-- Whatever is not UTF-8 is replaced. -/
def decode (bs : List UInt8) : List Char :=
  (Utf8.Decoder.start.bytes bs).2 ++ (Utf8.Decoder.start.bytes bs).1.flush

/-- Runs of ASCII characters are decoded, each for itself. -/
def unquoteRuns (run : List Char) : List Char → List Char
  | [] => decode (unquoteToBytes run)
  | c :: cs =>
    if isAscii c then unquoteRuns (run ++ [c]) cs
    else decode (unquoteToBytes run) ++ c :: unquoteRuns [] cs

def unquote (text : List Char) : List Char :=
  if '%' ∈ text then unquoteRuns [] text else text

/-! ### Decoding makes no text longer -/

/-- One more byte gives at most one character more. -/
theorem byte_length {d : Utf8.Decoder} {b : Nat} :
    (d.byte b).2.length + (d.byte b).1.flush.length ≤ d.flush.length + 1 := by
  have hlead : (Utf8.Decoder.lead b).2.length + (Utf8.Decoder.lead b).1.flush.length ≤ 1 := by
    unfold Utf8.Decoder.lead
    split
    · simp [Utf8.Decoder.flush, Utf8.Decoder.start]
    · split
      · simp [Utf8.Decoder.flush]
      · split
        · simp [Utf8.Decoder.flush]
        · split
          · simp [Utf8.Decoder.flush]
          · simp [Utf8.Decoder.flush, Utf8.Decoder.start]
  unfold Utf8.Decoder.byte
  split
  · exact hlead.trans (Nat.le_add_left _ _)
  · rename_i hneeded
    have hpending : d.flush.length = 1 := by
      rw [Utf8.Decoder.flush, if_neg hneeded]
      rfl
    split
    · split
      · simp [Utf8.Decoder.flush, Utf8.Decoder.start]
      · rename_i hmore
        have hleft : d.needed - 1 ≠ 0 := by omega
        simp [Utf8.Decoder.flush, hleft]
    · simp only [List.length_cons, hpending]
      omega

theorem bytes_length {d : Utf8.Decoder} {bs : List UInt8} :
    (d.bytes bs).2.length + (d.bytes bs).1.flush.length ≤ d.flush.length + bs.length := by
  induction bs generalizing d with
  | nil => simp [Utf8.Decoder.bytes]
  | cons b bs ih =>
    have hbyte := @byte_length d b.toNat
    have hrest := @ih (d.byte b.toNat).1
    simp only [Utf8.Decoder.bytes, Prod.map, id, List.length_append, List.length_cons]
    omega

theorem decode_length {bs : List UInt8} : (decode bs).length ≤ bs.length := by
  have h := @bytes_length Utf8.Decoder.start bs
  rw [decode, List.length_append]
  exact h.trans (by simp [Utf8.Decoder.flush, Utf8.Decoder.start])

theorem decode_asciiBytes {text : List Char} (h : ∀ c ∈ text, isAscii c = true) :
    decode (asciiBytes text) = text := by
  have hbytes : Utf8.Decoder.start.bytes (asciiBytes text) = (Utf8.Decoder.start, text) := by
    induction text with
    | nil => rfl
    | cons c cs ih =>
      have hascii : c.toNat < 128 := of_decide_eq_true (h c List.mem_cons_self)
      have hone := Utf8.Decoder.bytes_one (n := c.toNat) (by omega)
      rw [asciiBytes, List.map_cons, ← List.singleton_append, Utf8.Decoder.bytes_append, hone]
      change Prod.map id _ (Utf8.Decoder.start.bytes (asciiBytes cs)) = _
      rw [ih fun d hd => h d (List.mem_cons_of_mem _ hd), Char.ofNat_toNat]
      rfl
  rw [decode, hbytes]
  simp [Utf8.Decoder.flush, Utf8.Decoder.start]

/-! ### Where the escapes are -/

variable {text run : List Char} {c : Char}

theorem asciiBytes_length : (asciiBytes text).length = text.length := List.length_map _

theorem hexValue_percent : Json.hexValue '%' = none := by decide

/-- What cannot be a digit ends an escape. -/
theorem isEscape_append (h : Json.hexValue c = none) (rest : List Char) :
    isEscape (text ++ c :: rest) = isEscape text := by
  match text with
  | [] =>
    cases rest with
    | nil => rfl
    | cons b rest => simp [isEscape, h]
  | [a] => simp [isEscape, h]
  | _ :: _ :: _ => rfl

theorem hasEscape_of_not_mem (h : '%' ∉ text) : hasEscape text = false := by
  induction text with
  | nil => rfl
  | cons c cs ih =>
    rw [List.mem_cons, not_or] at h
    rw [hasEscape, ih h.2, decide_eq_false (Ne.symm h.1)]
    rfl

/-- Escapes do not go across a character that is no digit. -/
theorem hasEscape_append (h : Json.hexValue c = none) (rest : List Char) :
    hasEscape (text ++ c :: rest) = (hasEscape text || hasEscape (c :: rest)) := by
  induction text with
  | nil => rfl
  | cons a text ih =>
    rw [List.cons_append, hasEscape, hasEscape, ih, isEscape_append h, Bool.or_assoc]

theorem unquoteItem_spec {item : List Char} : (isEscape item = false →
      unquoteItem item = asciiBytes ('%' :: item)) ∧
    (isEscape item = true → (unquoteItem item).length < item.length) ∧
    (unquoteItem item).length ≤ item.length + 1 := by
  match item with
  | [] => simp [unquoteItem, isEscape, asciiBytes]
  | [a] => simp [unquoteItem, isEscape, asciiBytes]
  | a :: b :: rest =>
    unfold unquoteItem isEscape
    cases ha : Json.hexValue a with
    | none => simp [ha, asciiBytes]
    | some x =>
      cases hb : Json.hexValue b with
      | none => simp [ha, hb, asciiBytes]
      | some y =>
        simp [ha, hb, asciiBytes]

/-- The pieces between percent signs, with their signs, are the text. -/
theorem unquoteItems_spec (items : List (List Char)) (hitems : ∀ item ∈ items, '%' ∉ item) :
    (hasEscape (items.flatMap ('%' :: ·)) = false →
      items.flatMap unquoteItem = asciiBytes (items.flatMap ('%' :: ·))) ∧
    (hasEscape (items.flatMap ('%' :: ·)) = true →
      (items.flatMap unquoteItem).length < (items.flatMap ('%' :: ·)).length) ∧
    (items.flatMap unquoteItem).length ≤ (items.flatMap ('%' :: ·)).length := by
  induction items with
  | nil => simp [asciiBytes, hasEscape]
  | cons item items ih =>
    obtain ⟨hplain, hshort, hle⟩ := ih fun other hother => hitems other (List.mem_cons_of_mem _ hother)
    obtain ⟨hitem, hitemShort, hitemLe⟩ := @unquoteItem_spec item
    have hescape : hasEscape ((item :: items).flatMap ('%' :: ·)) =
        (isEscape item || hasEscape (items.flatMap ('%' :: ·))) := by
      rw [List.flatMap_cons, List.cons_append, hasEscape, decide_eq_true rfl, Bool.true_and]
      have hnone := hasEscape_of_not_mem (hitems item List.mem_cons_self)
      cases items with
      | nil => simp [hnone, hasEscape]
      | cons next items =>
        rw [List.flatMap_cons, List.cons_append, isEscape_append hexValue_percent,
          hasEscape_append hexValue_percent, hnone, Bool.false_or]
    have hlength : ((item :: items).flatMap ('%' :: ·)).length =
        item.length + 1 + (items.flatMap ('%' :: ·)).length := by
      rw [List.flatMap_cons, List.length_append, List.length_cons]
    have hbytes : ((item :: items).flatMap unquoteItem).length =
        (unquoteItem item).length + (items.flatMap unquoteItem).length := by
      rw [List.flatMap_cons, List.length_append]
    rw [hescape, hlength, hbytes]
    refine ⟨fun h => ?_, fun h => ?_, by omega⟩
    · rw [Bool.or_eq_false_iff] at h
      rw [List.flatMap_cons, List.flatMap_cons, hitem h.1, hplain h.2]
      simp [asciiBytes]
    · rw [Bool.or_eq_true] at h
      rcases h with h | h
      · have hless := hitemShort h
        omega
      · have hless := hshort h
        omega

theorem flatMap_percent_splitOn {first : List Char} {items : List (List Char)}
    (h : text.splitOn '%' = first :: items) : text = first ++ items.flatMap ('%' :: ·) := by
  have hjoin : ['%'].intercalate (text.splitOn '%') = text := List.intercalate_splitOn _
  rw [h] at hjoin
  rw [← hjoin]
  clear h hjoin
  induction items generalizing first with
  | nil => simp [List.intercalate]
  | cons item items ih =>
    rw [List.flatMap_cons, List.cons_append, ← ih]
    simp [List.intercalate, List.intersperse]

/-- Escapes make the text shorter, and nothing else changes it. -/
theorem unquoteToBytes_spec : (hasEscape run = false → unquoteToBytes run = asciiBytes run) ∧
    (hasEscape run = true → (unquoteToBytes run).length < run.length) ∧
    (unquoteToBytes run).length ≤ run.length := by
  obtain ⟨first, items, hsplit⟩ := List.exists_cons_of_ne_nil (List.splitOn_ne_nil '%' run)
  have hmem : ∀ piece ∈ first :: items, '%' ∉ piece := fun piece hpiece =>
    Delimited.not_mem_of_mem_splitOn (hsplit ▸ hpiece)
  have hrun := flatMap_percent_splitOn hsplit
  obtain ⟨hplain, hshort, hle⟩ := unquoteItems_spec items fun item hitem =>
    hmem item (List.mem_cons_of_mem _ hitem)
  have hunquote : unquoteToBytes run = asciiBytes first ++ items.flatMap unquoteItem := by
    rw [unquoteToBytes, hsplit]
  have hescape : hasEscape run = hasEscape (items.flatMap ('%' :: ·)) := by
    have hfirst := hasEscape_of_not_mem (hmem first List.mem_cons_self)
    rw [hrun]
    cases items with
    | nil => simp [hfirst, hasEscape]
    | cons item items =>
      rw [List.flatMap_cons, List.cons_append, hasEscape_append hexValue_percent, hfirst,
        Bool.false_or]
  have hlength : run.length = first.length + (items.flatMap ('%' :: ·)).length := by
    rw [hrun, List.length_append]
  have hbytes : (unquoteToBytes run).length =
      first.length + (items.flatMap unquoteItem).length := by
    rw [hunquote, List.length_append, asciiBytes_length]
  rw [hescape, hlength, hbytes]
  refine ⟨fun h => ?_, fun h => ?_, by omega⟩
  · rw [hunquote, hplain h]
    conv_rhs => rw [hrun]
    simp [asciiBytes]
  · have hless := hshort h
    omega

/-! ### Texts without escapes -/

theorem hexValue_of_not_ascii (h : isAscii c = false) : Json.hexValue c = none := by
  have hlarge : 128 ≤ c.toNat := by
    rw [isAscii, decide_eq_false_iff_not] at h
    omega
  unfold Json.hexValue
  rw [if_neg, if_neg, if_neg]
  · simp only [Char.le_def, UInt32.le_iff_toNat_le]
    rintro ⟨-, hle⟩
    exact absurd (le_trans hlarge hle) (by decide)
  · simp only [Char.le_def, UInt32.le_iff_toNat_le]
    rintro ⟨-, hle⟩
    exact absurd (le_trans hlarge hle) (by decide)
  · rw [Char.isDigit_iff_toNat]
    rintro ⟨-, hle⟩
    exact absurd (le_trans hlarge hle) (by decide)

theorem unquoteRuns_spec (hrun : ∀ c ∈ run, isAscii c = true) :
    (hasEscape (run ++ text) = false → unquoteRuns run text = run ++ text) ∧
    (hasEscape (run ++ text) = true → (unquoteRuns run text).length < (run ++ text).length) ∧
    (unquoteRuns run text).length ≤ (run ++ text).length := by
  induction text generalizing run with
  | nil =>
    obtain ⟨hplain, hshort, hle⟩ := @unquoteToBytes_spec run
    rw [List.append_nil, unquoteRuns]
    refine ⟨fun h => ?_, fun h => decode_length.trans_lt (hshort h), decode_length.trans hle⟩
    rw [hplain h, decode_asciiBytes hrun]
  | cons c text ih =>
    rw [unquoteRuns]
    split
    · rename_i hascii
      have hlonger : ∀ d ∈ run ++ [c], isAscii d = true := by
        intro d hd
        rcases List.mem_append.mp hd with hd | hd
        · exact hrun d hd
        · rwa [List.mem_singleton.mp hd]
      rw [List.append_cons run c text]
      exact ih hlonger
    · rename_i hascii
      rw [Bool.not_eq_true] at hascii
      obtain ⟨hplain, hshort, hle⟩ := @unquoteToBytes_spec run
      obtain ⟨hplain', hshort', hle'⟩ := @ih [] nofun
      rw [List.nil_append] at hplain' hshort' hle'
      have hdecode := @decode_length (unquoteToBytes run)
      have hescape : hasEscape (run ++ c :: text) = (hasEscape run || hasEscape text) := by
        rw [hasEscape_append (hexValue_of_not_ascii hascii), hasEscape, decide_eq_false,
          Bool.false_and, Bool.false_or]
        rintro rfl
        cases hascii
      rw [hescape, List.length_append, List.length_append, List.length_cons, List.length_cons]
      refine ⟨fun h => ?_, fun h => ?_, by omega⟩
      · rw [Bool.or_eq_false_iff] at h
        rw [hplain h.1, decode_asciiBytes hrun, hplain' h.2]
      · rw [Bool.or_eq_true] at h
        rcases h with h | h
        · have hless := hshort h
          omega
        · have hless := hshort' h
          omega

/-- A text is its own unquoted form exactly if it has no escapes. -/
theorem unquote_eq_self_iff : unquote text = text ↔ hasEscape text = false := by
  rw [unquote]
  split
  · obtain ⟨hplain, hshort, -⟩ := @unquoteRuns_spec text [] nofun
    rw [List.nil_append] at hplain hshort
    constructor
    · intro heq
      by_contra hescape
      have hless := hshort (Bool.eq_true_of_not_eq_false hescape)
      rw [heq] at hless
      exact absurd hless (Nat.lt_irrefl _)
    · exact hplain
  · rename_i hmem
    exact iff_of_true rfl (hasEscape_of_not_mem hmem)

theorem unquote_length : (unquote text).length ≤ text.length := by
  rw [unquote]
  split
  · have hle := (@unquoteRuns_spec text [] nofun).2.2
    rwa [List.nil_append] at hle
  · exact Nat.le_refl _

/-! ### Plain addresses -/

/-- A scheme in small letters. -/
def IsScheme (scheme : List Char) : Prop :=
  scheme.head?.any Char.isAlpha = true ∧
    (scheme.all fun c => isSchemeChar c && !isRemoved c && c.toLower = c) = true

/-- A location that stands for itself wherever it stands in an address. -/
def IsLocation (netloc : List Char) : Prop :=
  ∀ c ∈ netloc, isAscii c = true ∧ endsLocation c = false ∧ isRemoved c = false ∧ c ≠ '[' ∧ c ≠ ']'

instance (scheme : List Char) : Decidable (IsScheme scheme) := inferInstanceAs (Decidable (_ ∧ _))

variable {scheme netloc rest : List Char} {locations : Locations}

theorem IsScheme.char (h : IsScheme scheme) (hc : c ∈ scheme) :
    isSchemeChar c = true ∧ isRemoved c = false ∧ c.toLower = c := by
  have hall := List.all_eq_true.mp h.2 c hc
  simpa [and_assoc] using hall

/-- Only control characters are removed. -/
theorem isRemoved_of_le (h : 32 ≤ c.toNat) : isRemoved c = false := by
  have hne : ∀ d : Char, d.toNat < 32 → c ≠ d := by
    rintro d hsmall rfl
    omega
  rw [isRemoved, decide_eq_false (hne '\t' (by decide)), decide_eq_false (hne '\r' (by decide)),
    decide_eq_false (hne '\n' (by decide))]
  rfl

theorem cut_of_not_mem (h : c ∉ text) : cut c text = (text, []) := by
  have hall : ∀ d ∈ text, decide (d ≠ c) = true := fun d hd => decide_eq_true fun heq => h (heq ▸ hd)
  rw [cut, List.takeWhile_eq_self_iff.mpr hall, List.dropWhile_eq_nil_iff.mpr hall, List.tail_nil]

theorem cleaned_eq (hfirst : text.head?.any Char.isAlpha = true)
    (hkept : ∀ c ∈ text, isRemoved c = false) : cleaned text = text := by
  cases text with
  | nil => cases hfirst
  | cons c cs =>
    have halpha : c.isAlpha = true := hfirst
    have hlarge : ¬c.toNat ≤ 32 := by
      intro hle
      have hval : c.val.toNat ≤ 32 := hle
      simp only [Char.isAlpha, Char.isUpper, Char.isLower, Bool.or_eq_true, Bool.and_eq_true,
        decide_eq_true_eq, UInt32.le_iff_toNat_le, ge_iff_le] at halpha
      rcases halpha with ⟨hmin, -⟩ | ⟨hmin, -⟩
      · exact absurd (hmin.trans hval) (by decide)
      · exact absurd (hmin.trans hval) (by decide)
    rw [cleaned, List.dropWhile_cons_of_neg (by simpa using hlarge), List.filter_eq_self]
    intro d hd
    rw [hkept d hd]
    rfl

theorem takeWhile_append_stop {p : Char → Bool} (htext : ∀ d ∈ text, p d = true)
    (hstop : p c = false) : (text ++ c :: rest).takeWhile p = text ∧
      (text ++ c :: rest).dropWhile p = c :: rest := by
  constructor
  · rw [List.takeWhile_append_of_pos htext, List.takeWhile_cons_of_neg (by simp [hstop]),
      List.append_nil]
  · rw [List.dropWhile_append_of_pos htext, List.dropWhile_cons_of_neg (by simp [hstop])]

/-- A plain address splits where it was put together; its path ends at a question mark or a number
    sign. -/
theorem urlsplit_plain (hscheme : IsScheme scheme) (hnetloc : IsLocation netloc)
    (hrest : ∀ c ∈ rest, isRemoved c = false) :
    urlsplit locations (scheme ++ ':' :: '/' :: '/' :: (netloc ++ '/' :: rest)) =
      some ⟨scheme, netloc, (cut '?' (cut '#' ('/' :: rest)).1).1,
        (cut '?' (cut '#' ('/' :: rest)).1).2, (cut '#' ('/' :: rest)).2⟩ := by
  have hclean : cleaned (scheme ++ ':' :: '/' :: '/' :: (netloc ++ '/' :: rest)) =
      scheme ++ ':' :: '/' :: '/' :: (netloc ++ '/' :: rest) := by
    refine cleaned_eq ?_ ?_
    · cases scheme with
      | nil => cases hscheme.1
      | cons d ds => exact hscheme.1
    · intro d hd
      simp only [List.mem_append, List.mem_cons] at hd
      rcases hd with hd | rfl | rfl | rfl | hd | rfl | hd
      · exact (hscheme.char hd).2.1
      · decide
      · decide
      · decide
      · exact (hnetloc d hd).2.2.1
      · decide
      · exact hrest d hd
  have hcolon : ∀ d ∈ scheme, decide (d ≠ ':') = true := by
    intro d hd
    rw [decide_eq_true_eq]
    rintro rfl
    exact absurd (hscheme.char hd).1 (by decide)
  obtain ⟨htake, hdrop⟩ := @takeWhile_append_stop scheme ':' ('/' :: '/' :: (netloc ++ '/' :: rest))
    (fun d => decide (d ≠ ':')) hcolon (by decide)
  have hlower : scheme.map Char.toLower = scheme :=
    List.map_congr_left (fun d hd => (hscheme.char hd).2.2) |>.trans (List.map_id scheme)
  have hsplit : splitScheme (scheme ++ ':' :: '/' :: '/' :: (netloc ++ '/' :: rest)) =
      (scheme, '/' :: '/' :: (netloc ++ '/' :: rest)) := by
    have hfirst : (scheme ++ ':' :: '/' :: '/' :: (netloc ++ '/' :: rest)).head?.any Char.isAlpha =
        true := by
      cases scheme with
      | nil => cases hscheme.1
      | cons d ds => exact hscheme.1
    rw [splitScheme, htake, hdrop, if_pos, hlower]
    · rfl
    · exact ⟨hfirst, List.mem_append_right _ List.mem_cons_self,
        List.all_eq_true.mpr fun d hd => (hscheme.char hd).1⟩
  obtain ⟨htake', hdrop'⟩ := @takeWhile_append_stop netloc '/' rest (fun d => !endsLocation d)
    (fun d hd => by rw [(hnetloc d hd).2.1]; rfl) rfl
  have hlocation : splitLocation ('/' :: '/' :: (netloc ++ '/' :: rest)) =
      (netloc, '/' :: rest) := by
    have hslashes : ('/' :: '/' :: (netloc ++ '/' :: rest)).take 2 = ['/', '/'] := rfl
    rw [splitLocation, if_pos hslashes]
    exact Prod.ext htake' hdrop'
  have hplain : isPlainLocation netloc = true := by
    rw [isPlainLocation, List.all_eq_true]
    intro d hd
    obtain ⟨hascii, -, -, hopen, hclose⟩ := hnetloc d hd
    simp [hascii, hopen, hclose]
  simp only [urlsplit, hclean, hsplit, hlocation, hplain, Bool.true_or, if_true]

/-- The path of a plain address, without its first slash. -/
theorem cut_cut_slash : (cut '?' (cut '#' ('/' :: rest)).1).1 =
    '/' :: rest.takeWhile fun c => decide (c ≠ '#' ∧ c ≠ '?') := by
  simp only [cut]
  rw [List.takeWhile_cons_of_pos (by decide), List.takeWhile_cons_of_pos (by decide),
    List.takeWhile_takeWhile]
  congr 2
  funext d
  by_cases hmark : d = '#' <;> by_cases hquestion : d = '?' <;> simp [hmark, hquestion]

end Url

import TestOps.Lib.Blocks
import TestOps.Lib.Json
import TestOps.Lib.Utf8

/-! The reader of a live event stream in the browser. Bytes arrive in chunks of any size; they are
    decoded, collected in a buffer and cut into blocks at the empty lines:

      chunk  ─▶  decoder  ─▶  buffer  ─▶  blocks  ─▶  onEvent

    A block without data, such as a keep-alive comment, calls nobody. -/

namespace TestOps

/-! ### Decoding -/

structure TextDecoder where
  utf8 : Utf8.Decoder
  bomSeen : Bool

namespace TextDecoder

def new : TextDecoder := ⟨.start, false⟩

/-- A byte order mark at the very beginning of a stream is dropped. -/
def dropBom : Bool → List Char → Bool × List Char
  | true, chars => (true, chars)
  | false, [] => (false, [])
  | false, c :: chars => (true, if c = '\uFEFF' then chars else c :: chars)

/-- `decode(value, { stream })`. -/
def decode (decoder : TextDecoder) (value : List UInt8) (stream : Bool) :
    TextDecoder × List Char :=
  let (utf8, chars) := decoder.utf8.bytes value
  let (utf8, chars) := if stream then (utf8, chars) else (.start, chars ++ utf8.flush)
  let (bomSeen, chars) := dropBom decoder.bomSeen chars
  (⟨utf8, bomSeen⟩, chars)

end TextDecoder

/-! ### Blocks -/

/-- `replace(/\r\n/g, '\n')`. -/
def replaceLineEnds : List Char → List Char
  | '\r' :: '\n' :: chars => '\n' :: replaceLineEnds chars
  | c :: chars => c :: replaceLineEnds chars
  | [] => []

/-- What `trimStart` drops. -/
def isTrimmed (c : Char) : Bool :=
  (9 ≤ c.toNat && c.toNat ≤ 13) || c.toNat == 0x20 || c.toNat == 0xA0 || c.toNat == 0x1680 ||
    (0x2000 ≤ c.toNat && c.toNat ≤ 0x200A) || c.toNat == 0x2028 || c.toNat == 0x2029 ||
    c.toNat == 0x202F || c.toNat == 0x205F || c.toNat == 0x3000 || c.toNat == 0xFEFF

def dataField : List Char := "data:".toList

/-- The data lines of a block. -/
def blockData (block : List Char) : List Char :=
  ['\n'].intercalate (((block.splitOn '\n').filter fun line => dataField.isPrefixOf line).map
    fun line => (line.drop 5).dropWhile isTrimmed)

/-- The calls of `onEvent` for one block; none if its data is no document. -/
def dispatch (block : List Char) : Option (List Json) :=
  if blockData block = [] then some []
  else (Json.parse (blockData block)).map fun event => [event]

def dispatchAll : List (List Char) → Option (List Json)
  | [] => some []
  | block :: blocks => do
    let events ← dispatch block
    let more ← dispatchAll blocks
    return events ++ more

/-! ### The stream -/

structure StreamReader where
  decoder : TextDecoder
  buffer : List Char

/-- One round of the loop: the next chunk, or the end of the stream. -/
def StreamReader.read (reader : StreamReader) (value : List UInt8) (stream : Bool) :
    Option (StreamReader × List Json) := do
  let (decoder, piece) := reader.decoder.decode value stream
  let (blocks, buffer) := Blocks.split '\n' (reader.buffer ++ replaceLineEnds piece)
  let events ← dispatchAll blocks
  return (⟨decoder, buffer⟩, events)

def readChunks : StreamReader → List (List UInt8) → Option (List Json)
  | reader, [] => (reader.read [] false).map Prod.snd
  | reader, chunk :: chunks => do
    let (reader, events) ← reader.read chunk true
    let more ← readChunks reader chunks
    return events ++ more

/-- The calls of `onEvent` for a response body that arrives in these chunks. -/
def streamRunEvents (chunks : List (List UInt8)) : Option (List Json) :=
  readChunks ⟨.new, []⟩ chunks

/-! ### The cuts make no difference -/

variable {chunks : List (List UInt8)} {chars chars' text : List Char}

theorem dispatchAll_append {blocks blocks' : List (List Char)} :
    dispatchAll (blocks ++ blocks') = do
      let events ← dispatchAll blocks
      let more ← dispatchAll blocks'
      return events ++ more := by
  induction blocks with
  | nil => cases h : dispatchAll blocks' <;> simp [dispatchAll, h]
  | cons block blocks ih =>
    rw [List.cons_append, dispatchAll, dispatchAll, ih]
    cases dispatch block with
    | none => rfl
    | some events =>
      cases dispatchAll blocks with
      | none => rfl
      | some more =>
        cases dispatchAll blocks' with
        | none => rfl
        | some rest => simp

/-- What the decoder returns for every chunk and for the end. -/
def decodeAll : TextDecoder → List (List UInt8) → List (List Char)
  | decoder, [] => [(decoder.decode [] false).2]
  | decoder, chunk :: chunks =>
    (decoder.decode chunk true).2 :: decodeAll (decoder.decode chunk true).1 chunks

/-- The calls depend on the decoded text alone. -/
theorem readChunks_eq {reader : StreamReader} :
    readChunks reader chunks = dispatchAll (Blocks.split '\n'
      (reader.buffer ++ ((decodeAll reader.decoder chunks).map replaceLineEnds).flatten)).1 := by
  induction chunks generalizing reader with
  | nil =>
    rw [readChunks, StreamReader.read, decodeAll, List.map_singleton, List.flatten_singleton]
    simp only
    cases dispatchAll _ <;> rfl
  | cons chunk chunks ih =>
    rw [readChunks, StreamReader.read, decodeAll, List.map_cons, List.flatten_cons,
      ← List.append_assoc, Blocks.split_append]
    simp only [Prod.map, id_eq, dispatchAll_append]
    cases dispatchAll _ with
    | none => rfl
    | some events => exact congrArg (Option.bind · _) ih

theorem dropBom_append {bomSeen : Bool} :
    (TextDecoder.dropBom bomSeen (chars ++ chars')).2 =
      (TextDecoder.dropBom bomSeen chars).2 ++
        (TextDecoder.dropBom (TextDecoder.dropBom bomSeen chars).1 chars').2 := by
  cases bomSeen with
  | true => rfl
  | false =>
    cases chars with
    | nil => rfl
    | cons c chars =>
      simp only [TextDecoder.dropBom, List.cons_append]
      split <;> rfl

/-- Together the chunks are decoded like the whole. -/
theorem decodeAll_flatten {decoder : TextDecoder} :
    (decodeAll decoder chunks).flatten = (TextDecoder.dropBom decoder.bomSeen
      ((decoder.utf8.bytes chunks.flatten).2 ++ (decoder.utf8.bytes chunks.flatten).1.flush)).2 := by
  induction chunks generalizing decoder with
  | nil => simp [decodeAll, TextDecoder.decode, Utf8.Decoder.bytes]
  | cons chunk chunks ih =>
    rw [decodeAll, List.flatten_cons, ih, List.flatten_cons, Utf8.Decoder.bytes_append]
    simp only [Prod.map, id_eq, TextDecoder.decode, if_true, List.append_assoc, dropBom_append]

theorem replaceLineEnds_eq (h : '\r' ∉ chars) : replaceLineEnds chars = chars := by
  induction chars with
  | nil => rfl
  | cons c chars ih =>
    obtain ⟨hc, hchars⟩ := not_or.mp (mt List.mem_cons.mpr h)
    rw [replaceLineEnds]
    · rw [ih hchars]
    · rintro chars' rfl
      exact fun _ => hc rfl

theorem dropBom_eq (h : chars.head? ≠ some '\uFEFF') :
    (TextDecoder.dropBom false (chars ++ Utf8.Decoder.start.flush)).2 = chars := by
  rw [show Utf8.Decoder.start.flush = [] from rfl, List.append_nil]
  cases chars with
  | nil => rfl
  | cons c chars => exact if_neg fun hc => h (congrArg some hc)

/-- A text without carriage return that does not begin with a byte order mark is read as its blocks,
    however its bytes are cut into chunks. -/
theorem streamRunEvents_eq {blocks : List (List Char)} (hreturn : '\r' ∉ Blocks.stream '\n' blocks)
    (hmark : (Blocks.stream '\n' blocks).head? ≠ some '\uFEFF')
    (hclosed : ∀ block ∈ blocks, Blocks.Closed '\n' block)
    (hchunks : chunks.flatten = (Blocks.stream '\n' blocks).flatMap String.utf8EncodeChar) :
    streamRunEvents chunks = dispatchAll blocks := by
  have hflatten : (decodeAll .new chunks).flatten = Blocks.stream '\n' blocks := by
    rw [decodeAll_flatten, hchunks, TextDecoder.new, Utf8.Decoder.bytes_utf8]
    exact dropBom_eq hmark
  have hpieces : (decodeAll .new chunks).map replaceLineEnds = decodeAll .new chunks := by
    refine (List.map_congr_left fun piece hmem => ?_).trans (List.map_id _)
    refine replaceLineEnds_eq fun hr => hreturn ?_
    rw [← hflatten]
    exact List.mem_flatten.mpr ⟨piece, hmem, hr⟩
  rw [streamRunEvents, readChunks_eq, List.nil_append, hpieces, hflatten,
    Blocks.split_stream hclosed]

end TestOps

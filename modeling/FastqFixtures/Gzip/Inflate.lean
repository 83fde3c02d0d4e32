import FastqFixtures.Bytes

/-!
# Inflating deflate data

A reading of the deflate format (stored, fixed-code and dynamic-code blocks) that follows a
reader which takes its input a byte at a time and keeps the bits it has taken but not used.
How far ahead it takes input decides where a short stream runs out and which offset a
malformed one is reported at, so the reader is modelled with that state:

* before a code is looked up, at least a table-dependent number of bits is held: the
  shortest code length, raised to the length of the end-of-block code for literal tables,
  and ten bits more in a dynamic block that is not the last one (the least a following block
  can take);
* a lookup sees the held bits, with zeros past them; when the code found is longer than what
  is held, more input is taken and the lookup is made again;
* a stored block drops the bits of the current byte and starts with the whole bytes still
  held. The reader counts the four length bytes as read even when some were already held, so
  its count runs ahead of the input position from then on.

Codes are canonical Huffman codes, looked up by walking the code lengths: at each length the
codes of that length form one run of consecutive values. A code table must be complete,
except that a single code of length one is allowed. An empty table keeps the lookups of the
table it replaces, seeing only the first nine bits; a table never filled finds nothing.

Reading stops at the end of the final block, at the end of the input, or at the first
malformed part. Where the input ends inside the extra bits of a length or a distance, or
inside a five-bit fixed distance, the reader takes it for the plain end of the stream;
anywhere else the stream counts as cut short.

* `BitReader` — the input position, the held bits and the reported count.
* `Table` — a decoding table as kept between blocks.
* `inflate` — the data of a deflate stream starting at a byte offset, and how it stopped.
-/

namespace FastqFixtures.Gzip

set_option autoImplicit false

/-- The bit at position `i` of `data`, counting from the least significant bit of each
byte. -/
def bitAt (data : ByteArray) (i : Nat) : Nat := ((data.get! (i / 8)).toNat >>> (i % 8)) % 2

/-- A reading position: `fetched` input bytes have been taken, the last `held` bits of them
are not used yet, and `counted` is the number of bytes the reader reports as read. -/
structure BitReader where
  data : ByteArray
  fetched : Nat
  held : Nat
  counted : Nat

/-- The `i`-th held bit, zero past the held ones. -/
def BitReader.peek (r : BitReader) (i : Nat) : Nat :=
  if i < r.held then bitAt r.data (8 * r.fetched - r.held + i) else 0

/-- The next `n` held bits as a number, least significant first. -/
def BitReader.peekBits (r : BitReader) (n : Nat) : Nat :=
  (List.range n).foldl (fun acc i => acc + r.peek i * Nat.pow 2 i) 0

/-- Takes whole bytes until at least `n` bits are held; `none` when the input runs out
first. -/
def BitReader.fill (r : BitReader) (n : Nat) : Option BitReader :=
  if n ≤ r.held then some r
  else
    let k := (n - r.held + 7) / 8
    if r.fetched + k ≤ r.data.size then
      some { r with fetched := r.fetched + k, held := r.held + 8 * k, counted := r.counted + k }
    else none

/-- Uses up `n` held bits. -/
def BitReader.drop (r : BitReader) (n : Nat) : BitReader := { r with held := r.held - n }

/-- Why reading a stream stopped early. -/
inductive Stop where
  | cut
  | ended
  /-- The stream is malformed; the reader had counted `offset` bytes. -/
  | bad (offset : Nat)
  | lengthCode
  deriving DecidableEq, Repr

/-- Holds at least `n` bits, or stops with `short`. -/
def BitReader.need (r : BitReader) (n : Nat) (short : Stop) : Except Stop BitReader :=
  match r.fill n with
  | some r => .ok r
  | none => .error short

/-- The next `n` bits as a number, or `short` when the input runs out. -/
def BitReader.take (r : BitReader) (n : Nat) (short : Stop) : Except Stop (Nat × BitReader) := do
  let r ← r.need n short
  pure (r.peekBits n, r.drop n)

/-- A canonical Huffman code: `counts[l]` codes of length `l`, and the symbols in code order. -/
structure Huffman where
  counts : Array Nat
  symbols : Array Nat

/-- Whether code lengths make a usable code: no length set is over-full, and the code is
complete, except for a single code of length one or no code at all. -/
def lengthsFit (lengths : List Nat) : Bool :=
  let used := lengths.filter (· ≠ 0)
  match used.max? with
  | none => true
  | some top =>
    let counts := (List.range (top + 1)).map fun l => used.count l
    let kraft := (List.range (top + 1)).foldl (fun acc l => acc * 2 + counts.getD l 0) 0
    kraft == Nat.pow 2 top || (kraft == 1 && top == 1)

/-- The canonical code of the given code lengths (a length of zero leaves a symbol out). -/
def Huffman.ofLengths (lengths : List Nat) : Huffman :=
  let counts := (List.range 16).map fun l => if l == 0 then 0 else lengths.count l
  let indexed := (List.range lengths.length).zip lengths
  let symbols := (List.range 16).flatMap fun l =>
    if l == 0 then [] else (indexed.filter (·.2 == l)).map (·.1)
  { counts := counts.toArray, symbols := symbols.toArray }

/-- The symbol whose code the bits `bit 0, bit 1, ...` start with, and the code's length,
trying lengths from `len` on; `code` holds the bits read so far, `first` the first code of
length `len` and `index` the number of symbols with shorter codes. -/
def Huffman.findFrom (h : Huffman) (bit : Nat → Nat) :
    Nat → Nat → Nat → Nat → Nat → Option (Nat × Nat)
  | 0, _, _, _, _ => none
  | left + 1, len, code, first, index =>
    let code := code + bit (len - 1)
    let count := h.counts.getD len 0
    if code < first + count then some (h.symbols.getD (index + (code - first)) 0, len)
    else h.findFrom bit left (len + 1) (code * 2) ((first + count) * 2) (index + count)

/-- The symbol whose code the bits start with, and the code's length. -/
def Huffman.find (h : Huffman) (bit : Nat → Nat) : Option (Nat × Nat) :=
  h.findFrom bit 15 1 0 0 0

/-- A decoding table as the reader keeps it between blocks. -/
structure Table where
  code : Huffman
  /-- The number of bits held before the first lookup. -/
  least : Nat
  /-- How many leading bits a lookup sees; later ones count as zero. -/
  window : Nat

/-- A table never filled: every lookup fails. -/
def Table.blank : Table := ⟨⟨#[], #[]⟩, 0, 15⟩

/-- The table after filling it with `lengths`, or `none` when they make no usable code. An
empty set of lengths keeps the old lookups, which then see only nine bits. -/
def Table.build (t : Table) (lengths : List Nat) : Option Table :=
  let t := if t.least == 0 then t else { t with least := 0, window := 9 }
  match (lengths.filter (· ≠ 0)).min? with
  | none => some t
  | some least => if lengthsFit lengths then some ⟨Huffman.ofLengths lengths, least, 15⟩ else none

/-- Decodes one symbol, holding at least `n` bits before looking it up. -/
def Table.decodeFrom (t : Table) : Nat → Nat → BitReader → Except Stop (Nat × BitReader)
  | 0, _, r => .error (.bad r.counted)
  | fuel + 1, n, r => do
    let r ← r.need n .cut
    match t.code.find (fun i => if i < t.window then r.peek i else 0) with
    | none => .error (.bad r.counted)
    | some (sym, len) => if len ≤ r.held then pure (sym, r.drop len) else t.decodeFrom fuel len r

/-- Decodes one symbol. -/
def Table.decode (t : Table) (r : BitReader) : Except Stop (Nat × BitReader) :=
  t.decodeFrom 16 t.least r

/-- Base lengths of the length codes 257 to 285. -/
def lengthBase : Array Nat :=
  #[3, 4, 5, 6, 7, 8, 9, 10, 11, 13, 15, 17, 19, 23, 27, 31, 35, 43, 51, 59, 67, 83, 99, 115,
    131, 163, 195, 227, 258]

/-- Extra bits of the length codes 257 to 285. -/
def lengthExtra : Array Nat :=
  #[0, 0, 0, 0, 0, 0, 0, 0, 1, 1, 1, 1, 2, 2, 2, 2, 3, 3, 3, 3, 4, 4, 4, 4, 5, 5, 5, 5, 0]

/-- Base distances of the distance codes 0 to 29. -/
def distanceBase : Array Nat :=
  #[1, 2, 3, 4, 5, 7, 9, 13, 17, 25, 33, 49, 65, 97, 129, 193, 257, 385, 513, 769, 1025, 1537,
    2049, 3073, 4097, 6145, 8193, 12289, 16385, 24577]

/-- Extra bits of the distance codes 0 to 29. -/
def distanceExtra : Array Nat :=
  #[0, 0, 0, 0, 1, 1, 2, 2, 3, 3, 4, 4, 5, 5, 6, 6, 7, 7, 8, 8, 9, 9, 10, 10, 11, 11, 12, 12,
    13, 13]

/-- The table of fixed-code blocks for literals and lengths. -/
def fixedLiterals : Table :=
  ⟨Huffman.ofLengths ((List.range 288).map fun n =>
    if n < 144 then 8 else if n < 256 then 9 else if n < 280 then 7 else 8), 7, 15⟩

/-- A five-bit number with its bits in reverse order: fixed distance codes are stored most
significant bit first. -/
def reverse5 (x : Nat) : Nat :=
  (List.range 5).foldl (fun acc i => acc + (x >>> i) % 2 * Nat.pow 2 (4 - i)) 0

/-- One decoded element of a compressed block. -/
inductive Piece where
  | literal (b : UInt8)
  | copy (length distance : Nat)
  | endOfBlock

/-- Reads one element of a compressed block; `dists` is `none` in fixed-code blocks. -/
def readPiece (lits : Table) (dists : Option Table) (r : BitReader) :
    Except Stop (Piece × BitReader) := do
  let (v, r) ← lits.decode r
  if v < 256 then return (.literal v.toUInt8, r)
  if v == 256 then return (.endOfBlock, r)
  if v ≥ 286 then throw (.bad r.counted)
  let i := v - 257
  let (e, r) ← r.take (lengthExtra.getD i 0) .ended
  let length := lengthBase.getD i 0 + e
  let (d, r) ← match dists with
    | none => do
      let (x, r) ← r.take 5 .ended
      pure (reverse5 x, r)
    | some t => t.decode r
  if d ≥ 30 then throw (.bad r.counted)
  let (e, r) ← r.take (distanceExtra.getD d 0) .ended
  return (.copy length (distanceBase.getD d 0 + e), r)

/-- Copies `n` bytes from `distance` back in `out`, one at a time. -/
def copyBack (distance : Nat) : Nat → ByteArray → ByteArray
  | 0, out => out
  | n + 1, out => copyBack distance n (out.push (out.get! (out.size - distance)))

/-- Decodes the elements of one block onto `out` until its end-of-block code. -/
def decodeBlock (lits : Table) (dists : Option Table) :
    Nat → ByteArray → BitReader → ByteArray × Except Stop BitReader
  | 0, out, r => (out, .error (.bad r.counted))
  | fuel + 1, out, r =>
    match readPiece lits dists r with
    | .error s => (out, .error s)
    | .ok (.literal b, r) => decodeBlock lits dists fuel (out.push b) r
    | .ok (.endOfBlock, r) => (out, .ok r)
    | .ok (.copy length distance, r) =>
      if distance > out.size then (out, .error (.bad r.counted))
      else decodeBlock lits dists fuel (copyBack distance length out) r

/-- The order in which code-length code lengths are stored. -/
def lengthOrder : List Nat := [16, 17, 18, 0, 8, 7, 9, 6, 10, 5, 11, 4, 12, 3, 13, 2, 14, 1, 15]

/-- Reads code lengths with the code-length table `h` until `n` are known, onto `acc`
(reversed). -/
def readLengths (h : Table) (n : Nat) : Nat → List Nat → BitReader →
    Except Stop (List Nat × BitReader)
  | 0, _, r => .error (.bad r.counted)
  | fuel + 1, acc, r =>
    if acc.length ≥ n then .ok (acc.reverse, r)
    else do
      let (sym, r) ← h.decode r
      if sym < 16 then readLengths h n fuel (sym :: acc) r
      else
        if sym > 18 then throw .lengthCode
        let (extra, base) := if sym == 16 then (2, 3) else if sym == 17 then (3, 3) else (7, 11)
        let value ← if sym != 16 then pure 0 else
          match acc.head? with
          | some v => pure v
          | none => throw (.bad r.counted)
        let (e, r) ← r.take extra .cut
        if acc.length + base + e > n then throw (.bad r.counted)
        readLengths h n fuel (List.replicate (base + e) value ++ acc) r

/-- Reads the code tables of a dynamic block into the kept tables `lit` and `dist`. -/
def readTables (final : Bool) (lit dist : Table) (r : BitReader) :
    Except Stop (Table × Table × BitReader) := do
  let r ← r.need 14 .cut
  let nlit := r.peekBits 5 + 257
  if nlit > 286 then throw (.bad r.counted)
  let ndist := (r.drop 5).peekBits 5 + 1
  if ndist > 30 then throw (.bad r.counted)
  let nclen := (r.drop 10).peekBits 4 + 4
  let (packed, r) ← (r.drop 14).take (3 * nclen) .cut
  let given := (List.range nclen).map fun i => (packed >>> (3 * i)) % 8
  let codeLengths := (List.range 19).map fun sym =>
    match lengthOrder.idxOf? sym with
    | some i => given.getD i 0
    | none => 0
  let some lengthTable := lit.build codeLengths | throw (.bad r.counted)
  let (lengths, r) ← readLengths lengthTable (nlit + ndist) (nlit + ndist + 1) [] r
  let some lit := lengthTable.build (lengths.take nlit) | throw (.bad r.counted)
  let some dist := dist.build (lengths.drop nlit) | throw (.bad r.counted)
  let least := max lit.least (lengths.getD 256 0) + if final then 0 else 10
  return ({ lit with least }, dist, r)

/-- Copies up to `n` bytes from the input at byte `at_` onto `out`. -/
def copyStored (data : ByteArray) (at_ : Nat) : Nat → ByteArray → ByteArray
  | 0, out => out
  | n + 1, out =>
    if at_ < data.size then copyStored data (at_ + 1) n (out.push (data.get! at_)) else out

/-- Reads a stored block after its header onto `out`. -/
def readStored (out : ByteArray) (r : BitReader) : ByteArray × Except Stop BitReader :=
  let r := r.drop (r.held % 8)
  let at_ := r.fetched - r.held / 8
  if at_ + 4 > r.data.size then (out, .error .cut)
  else
    let counted := r.counted + 4
    let len := (r.data.get! at_).toNat + 256 * (r.data.get! (at_ + 1)).toNat
    let nlen := (r.data.get! (at_ + 2)).toNat + 256 * (r.data.get! (at_ + 3)).toNat
    if len + nlen != 0xFFFF then (out, .error (.bad counted))
    else
      let out := copyStored r.data (at_ + 4) len out
      if at_ + 4 + len > r.data.size then (out, .error .cut)
      else (out, .ok ⟨r.data, at_ + 4 + len, 0, counted + len⟩)

/-- Decodes blocks from `r` onto `out` until the final block ends, keeping the dynamic
tables `lit` and `dist` from block to block. -/
def inflateFrom : Nat → Table → Table → ByteArray → BitReader →
    ByteArray × Except Stop BitReader
  | 0, _, _, out, r => (out, .error (.bad r.counted))
  | fuel + 1, lit, dist, out, r =>
    match r.take 3 .cut with
    | .error s => (out, .error s)
    | .ok (header, r) =>
      let final := header % 2 == 1
      let kind := header / 2
      let next (lit dist : Table) :
          ByteArray × Except Stop BitReader → ByteArray × Except Stop BitReader
        | (out, .ok r) => if final then (out, .ok r) else inflateFrom fuel lit dist out r
        | (out, .error s) => (out, .error s)
      if kind == 0 then next lit dist (readStored out r)
      else if kind == 1 then
        next lit dist (decodeBlock fixedLiterals none (8 * r.data.size + 1) out r)
      else if kind == 2 then
        match readTables final lit dist r with
        | .error s => (out, .error s)
        | .ok (lit, dist, r) =>
          next lit dist (decodeBlock lit (some dist) (8 * r.data.size + 1) out r)
      else (out, .error (.bad r.counted))

/-- The data of the deflate stream at byte `start` of `data`, and either the reader after
the final block or why reading stopped. -/
def inflate (data : ByteArray) (start : Nat) : ByteArray × Except Stop BitReader :=
  inflateFrom (8 * data.size + 1) Table.blank Table.blank ByteArray.empty ⟨data, start, 0, 0⟩

end FastqFixtures.Gzip

import FastqFixtures.Gzip.Crc32
import FastqFixtures.Gzip.Inflate
import FastqFixtures.Fault

/-!
# Gzip members

Writing and reading gzip streams. A written stream is one member whose data is a run of
stored deflate blocks. A read stream is any number of members, one after the other; their data
is delivered in order, and reading stops at the first fault.

What is delivered before a fault follows a reader that decompresses in blocks of one mebibyte:
when the compressed data of a member is malformed, the block in which that shows is lost; when
the stream is cut short, everything decoded is kept. A fault in the header of the first member
is reported before anything is delivered; the input ending where a later member's header or
trailer would start is a clean end.

* `gzipMember` — one member holding some bytes.
* `readHeader` — where a member's compressed data starts, or why its header is refused.
* `Unpacked`, `unpack` — the data of a stream and how it ended.
-/

namespace FastqFixtures.Gzip

set_option autoImplicit false

/-- The largest stored block. -/
def storedLimit : Nat := 65535

/-- The pieces of at most `storedLimit` bytes that make up `bs`, at least one. -/
def storedPieces (bs : Bytes) : List Bytes :=
  if _h : bs.length ≤ storedLimit then [bs]
  else bs.take storedLimit :: storedPieces (bs.drop storedLimit)
termination_by bs.length
decreasing_by simp only [List.length_drop, storedLimit] at *; omega

/-- Two bytes of a number, least significant first. -/
def le16 (n : Nat) : Bytes := [(n % 256).toUInt8, (n / 256 % 256).toUInt8]

/-- Four bytes of a number, least significant first. -/
def le32 (n : Nat) : Bytes := le16 (n % 65536) ++ le16 (n / 65536 % 65536)

/-- The stored block holding `piece`, final or not. -/
def storedBlock (final : Bool) (piece : Bytes) : Bytes :=
  (if final then 1 else 0) :: le16 piece.length ++ le16 (0xFFFF - piece.length) ++ piece

/-- The stored blocks holding `pieces`, the last one final. -/
def storedBlocks : List Bytes → Bytes
  | [] => storedBlock true []
  | [p] => storedBlock true p
  | p :: ps => storedBlock false p ++ storedBlocks ps

/-- The fixed header of written members: no name, no time, unknown system. -/
def memberHeader : Bytes := [0x1f, 0x8b, 8, 0, 0, 0, 0, 0, 0, 0xff]

/-- One gzip member holding `content`. -/
def gzipMember (content : Bytes) : Bytes :=
  memberHeader ++ storedBlocks (storedPieces content) ++ le32 (crc32 content).toNat ++
    le32 (content.length % Nat.pow 2 32)

/-- Whether `bs` starts with the gzip magic. -/
def hasMagic (bs : Bytes) : Bool := bs.take 2 == [0x1f, 0x8b]

/-- The number at `at_` of `n` bytes in `data`, least significant first. -/
def readLe (data : ByteArray) (at_ : Nat) : Nat → Nat
  | 0 => 0
  | n + 1 => (data.get! at_).toNat + 256 * readLe data (at_ + 1) n

/-- Reads `n` bytes of a header field at `at_`: none left is the end of the stream, some but
not all is a cut. -/
def field (data : ByteArray) (at_ n : Nat) : Except GzipFault Nat :=
  if at_ + n ≤ data.size then .ok (at_ + n)
  else if at_ ≥ data.size then .error .ended
  else .error .truncated

/-- Skips a zero-terminated header string at `at_`, of at most 512 bytes. -/
def skipString (data : ByteArray) : Nat → Nat → Except GzipFault Nat
  | 0, _ => .error .header
  | left + 1, at_ =>
    if at_ ≥ data.size then .error .ended
    else if data.get! at_ == 0 then .ok (at_ + 1)
    else skipString data left (at_ + 1)

/-- Where the compressed data of the member at `at_` starts, after its header. -/
def readHeader (data : ByteArray) (at_ : Nat) : Except GzipFault Nat := do
  if at_ ≥ data.size then throw .ended
  if at_ + 10 > data.size then throw .truncated
  if data.get! at_ != 0x1f || data.get! (at_ + 1) != 0x8b || data.get! (at_ + 2) != 8 then
    throw .header
  let flags := (data.get! (at_ + 3)).toNat
  let mut pos := at_ + 10
  if flags / 4 % 2 == 1 then
    let afterLength ← field data pos 2
    let length := readLe data pos 2
    pos := afterLength
    if length > 0 then pos ← field data pos length
  if flags / 8 % 2 == 1 then pos ← skipString data 512 pos
  if flags / 16 % 2 == 1 then pos ← skipString data 512 pos
  -- the header check covers the ten fixed bytes only
  if flags / 2 % 2 == 1 then
    let afterCheck ← field data pos 2
    let headerSum := (crc32 ((List.range 10).map fun i => data.get! (at_ + i))).toNat % 65536
    if readLe data pos 2 != headerSum then throw .header
    pos := afterCheck
  pure pos

/-- The bytes of a read stream and how reading ended: `none` at a clean end. -/
structure Unpacked where
  data : ByteArray
  fault : Option GzipFault

/-- The size of the blocks the reader decompresses in. -/
def readBlock : Nat := Nat.pow 2 20

/-- Reads the members from the one whose data starts at `at_`, appending to `out`. A member
whose data runs into the end of the input where the reader takes that for the end of the
stream ends the stream cleanly, without its trailer; so does an input that ends inside a later
member's header. -/
def unpackFrom (data : ByteArray) : Nat → Nat → ByteArray → Unpacked
  | 0, _, out => ⟨out, some .header⟩
  | fuel + 1, at_, out =>
    let lost (member : ByteArray) (g : GzipFault) : Unpacked :=
      ⟨out ++ member.extract 0 (member.size / readBlock * readBlock), some g⟩
    match inflate data at_ with
    | (member, .error .cut) => ⟨out ++ member, some .truncated⟩
    | (member, .error .ended) => ⟨out ++ member, none⟩
    | (member, .error (.bad offset)) => lost member (.corrupt offset)
    | (member, .error .lengthCode) => lost member .lengthCode
    | (member, .ok r) =>
      let out := out ++ member
      let trailer := r.fetched
      if trailer ≥ data.size then ⟨out, none⟩
      else if trailer + 8 > data.size then ⟨out, some .truncated⟩
      else if readLe data trailer 4 != (crc32Array member).toNat ||
          readLe data (trailer + 4) 4 != member.size % Nat.pow 2 32 then ⟨out, some .checksum⟩
      else
        let next := trailer + 8
        match readHeader data next with
        | .ok start => unpackFrom data fuel start out
        | .error .ended => ⟨out, none⟩
        | .error g => ⟨out, some g⟩

/-- The data of the gzip stream `data`, or the fault of its first header. -/
def unpack (data : ByteArray) : Except GzipFault Unpacked :=
  match readHeader data 0 with
  | .ok start => .ok (unpackFrom data data.size start ByteArray.empty)
  | .error g => .error g

end FastqFixtures.Gzip

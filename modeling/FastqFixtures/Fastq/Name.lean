import FastqFixtures.Text.Decimal

/-!
# Read names and file names

Every read is named after a fixed instrument, lane and tile, its number in an eight-digit
field, and its mate: `FC01L1C001R001` `00000042` `/1`. Numbers above 99999999 wrap modulo
99999999, so such headers repeat earlier ones.

* `readIndex` — the number written in the header field.
* `readName` — the header of a read, without its leading `@`.
* `pairPaths` — the two files of an output prefix.
-/

namespace FastqFixtures.Fastq

open FastqFixtures.Text

set_option autoImplicit false

/-- The largest number the eight-digit field holds. -/
def maxReadIndex : Int := 99999999

/-- The number written for read `i`: larger numbers wrap. -/
def readIndex (i : Int) : Int := if i > maxReadIndex then i % maxReadIndex else i

/-- The instrument, lane and tile every header starts with. -/
def namePrefix : Bytes := text "FC01L1C001R001"

/-- The header of read `i` of the given mate, without the leading `@`. -/
def readName (i mate : Int) : Bytes :=
  namePrefix ++ zeroPadded 8 (readIndex i) ++ text "/" ++ decimal mate

/-- The files of an output prefix: first mates, then second mates. -/
def pairPaths (output : Bytes) : Bytes × Bytes :=
  (output ++ text "_R1.fastq.gz", output ++ text "_R2.fastq.gz")

end FastqFixtures.Fastq

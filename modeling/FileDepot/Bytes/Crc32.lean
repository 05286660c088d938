import FileDepot.Bytes.Basic
import FileDepot.Text.Numerals

/-!
# Checksums

The cyclic redundancy check with the reflected polynomial `edb88320`, which archives store beside
each entry.
-/

namespace FileDepot.Bytes.Crc32

/-- Shift one bit out of the register. -/
def shift (r : UInt32) : UInt32 :=
  if r &&& 1 = 1 then (r >>> 1) ^^^ 0xedb88320 else r >>> 1

/-- Take one byte into the register. -/
def update (r : UInt32) (b : UInt8) : UInt32 :=
  shift (shift (shift (shift (shift (shift (shift (shift (r ^^^ b.toUInt32))))))))

/-- The checksum of some bytes. -/
def checksum (data : Bytes) : UInt32 :=
  data.foldl update 0xffffffff ^^^ 0xffffffff

/-- A checksum as eight digits in base sixteen. -/
def text (r : UInt32) : String :=
  String.ofList (Text.hexPadded 8 r.toNat)

end FileDepot.Bytes.Crc32

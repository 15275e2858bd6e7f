import EventMachine.Text.Decimal

/-!
# Checksums

CRC32C: the cyclic redundancy check with the Castagnoli polynomial, bits taken lowest first, with
all-ones preset and final complement.
-/

namespace EventMachine.Checksum

/-- The polynomial without its leading term, lowest bit first. -/
def polynomial : UInt32 := 0x82F63B78

def shift (r : UInt32) : UInt32 :=
  if r &&& 1 = 1 then (r >>> 1) ^^^ polynomial else r >>> 1

def addByte (r : UInt32) (b : UInt8) : UInt32 :=
  Nat.repeat shift 8 (r ^^^ b.toUInt32)

def crc32c (bytes : List UInt8) : UInt32 := ~~~(bytes.foldl addByte 0xFFFFFFFF)

/-- The checksum of the UTF-8 form of a text, in eight lower-case hexadecimal digits. -/
def ofText (s : String) : String :=
  Text.hexadecimalPadded 8 (crc32c s.toUTF8.data.toList).toNat

end EventMachine.Checksum

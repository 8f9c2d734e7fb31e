import SqlTidy.Text.Utf8

/-!
# Checksums

The cyclic redundancy check of 32 bits that archives keep for each member.
-/

namespace SqlTidy

/-- One division step. -/
def crcShift (r : UInt32) : UInt32 := if r &&& 1 = 1 then (r >>> 1) ^^^ 0xEDB88320 else r >>> 1

/-- Takes in one octet. -/
def crcStep (r : UInt32) (b : UInt8) : UInt32 :=
  (List.range 8).foldl (fun r _ => crcShift r) (r ^^^ b.toUInt32)

def crc32 (bs : Octets) : UInt32 := ~~~(bs.foldl crcStep 0xFFFFFFFF)

end SqlTidy

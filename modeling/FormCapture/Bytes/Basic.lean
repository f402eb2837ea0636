/-! # Bytes

Byte strings as lists, the two bytes that end a line, cutting a stretch out of a byte string, and
ASCII letter case. -/

namespace FormCapture

abbrev Bytes := List UInt8

namespace Bytes

def cr : UInt8 := 13

def lf : UInt8 := 10

/-- The bytes from offset `start` up to offset `stop`, as far as there are any. -/
def slice (bytes : Bytes) (start stop : Nat) : Bytes := (bytes.drop start).take (stop - start)

theorem length_slice (bytes : Bytes) (start stop : Nat) :
    (bytes.slice start stop).length = min (stop - start) (bytes.length - start) := by
  simp [slice]

def lowerAscii (b : UInt8) : UInt8 := if 65 ≤ b ∧ b ≤ 90 then b + 32 else b

/-- The bytes of a text that holds ASCII characters alone. -/
def ofAscii (text : String) : Bytes := text.toList.map fun c => c.toNat.toUInt8

def crlf : Bytes := [cr, lf]

end Bytes

end FormCapture

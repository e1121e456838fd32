import Ninlil.Lib.Bytes

/-!
# CRC-32C

* `crc32c`: the check of a byte string;
* `crc32cZeroed`: the check of a record that keeps its own check in a field, read with that field as
  zeros;
* `crc32cZeroed_append`: it does not depend on what the field holds, so that a check once computed
  can be written there.
-/

namespace Ninlil.Bytes

/-- One bit of the division. -/
def crcStep (crc : UInt32) : UInt32 := (crc >>> 1) ^^^ (0x82f63b78 &&& (0 - (crc &&& 1)))

/-- One byte of the division. -/
def crcFeedByte (crc : UInt32) (b : UInt8) : UInt32 := crcStep^[8] (crc ^^^ b.toUInt32)

/-- The check of a byte string. -/
def crc32c (bytes : List UInt8) : UInt32 := ~~~ bytes.foldl crcFeedByte 0xffffffff

/-- The check of a byte string, the four bytes at an offset read as zeros. -/
def crc32cZeroed (bytes : List UInt8) (offset : ℕ) : UInt32 :=
  if bytes.length < offset + 4 then 0
  else crc32c (bytes.take offset ++ ([0, 0, 0, 0] ++ bytes.drop (offset + 4)))

variable {pre field post : List UInt8}

/-- The field is not read. -/
theorem crc32cZeroed_append (h : field.length = 4) :
    crc32cZeroed (pre ++ (field ++ post)) pre.length =
      crc32c (pre ++ ([0, 0, 0, 0] ++ post)) := by
  have hdrop : (pre ++ (field ++ post)).drop (pre.length + 4) = post := by
    rw [List.drop_append, ← h]
    simp
  unfold crc32cZeroed
  rw [if_neg (by simp only [List.length_append]; omega), List.take_left, hdrop]

end Ninlil.Bytes

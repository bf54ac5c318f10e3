import GamepadInput.Bytes
import GamepadInput.Evdev.Reader

/-!
# The bytes of a node

A node hands out samples as records of one size, one after the other.  A reader takes a whole
record at a time; what is left at the end may be less than one, which ends the reader.
-/

namespace GamepadInput.Evdev

namespace Sample

/-- Bytes of the time at the head of a record, which is not looked at. -/
def timeSize : Nat := 16

/-- Bytes of a record: a time, the kind, the code and the value. -/
def recordSize : Nat := timeSize + 2 + 2 + 4

/-- Words of 32 bits. -/
def valueCount : Nat := 0x100000000

/-- The record of a sample. -/
def toRecord (sample : Sample) : List UInt8 :=
  List.replicate timeSize 0 ++ Bytes.ofNat 2 sample.kind ++ Bytes.ofNat 2 sample.code ++
    Bytes.ofNat 4 (sample.value % valueCount).toNat

/-- The sample in a record. -/
def ofRecord (record : List UInt8) : Sample :=
  let data := record.drop timeSize
  { kind := Bytes.toNat (data.take 2)
    code := Bytes.toNat ((data.drop 2).take 2)
    value := Int.bmod (Bytes.toNat ((data.drop 4).take 4)) valueCount }

@[simp] theorem length_toRecord (sample : Sample) : sample.toRecord.length = recordSize := by
  simp only [toRecord, List.length_append, List.length_replicate, Bytes.length_ofNat, recordSize]

end Sample

/-- What the reads of some bytes find. -/
def readings (bytes : List UInt8) : List Reading :=
  if bytes.isEmpty then []
  else if (bytes.drop (Sample.recordSize - 1)).isEmpty then [.ended]
  else .sample (.ofRecord bytes) :: readings (bytes.drop Sample.recordSize)
termination_by bytes.length
decreasing_by
  rename_i nonempty _
  have : bytes ≠ [] := fun h => nonempty (by simp [h])
  have := List.length_pos_iff.2 this
  simp only [List.length_drop, Sample.recordSize, Sample.timeSize]
  omega

end GamepadInput.Evdev

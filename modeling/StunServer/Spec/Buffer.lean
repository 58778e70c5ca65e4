import StunServer.Core.DataStream
import StunServer.Lib.Machine
import StunServer.Lib.Log

/-! A buffer in the hands of its owner, and a stream that is attached to it and reads. -/

namespace StunServer

/-- A call of the owner. A pointer that is not null comes with as many bytes as the call says. -/
inductive BufferCall where
  | reset
  | initWithAllocation (size : UInt64)
  | initNoAlloc (size : UInt64) (pByteArray : Option (List.Vector UInt8 size.toNat))
  | initWithAllocAndCopy (size : UInt64) (pByteArray : Option (List.Vector UInt8 size.toNat))
  | setSize (size : UInt64)

namespace CBuffer

def call (b : CBuffer) : BufferCall → HRESULT × CBuffer
  | .reset => (S_OK, reset)
  | .initWithAllocation size => (S_OK, initWithAllocation size.toNat)
  | .initNoAlloc _ pByteArray => (S_OK, initNoAlloc ((pByteArray.map List.Vector.toList).getD []))
  | .initWithAllocAndCopy size pByteArray =>
    (S_OK, initWithAllocAndCopy (pByteArray.map List.Vector.toList) size.toNat)
  | .setSize size => b.setSize size.toNat

/-- The size is within the allocation, as the buffer counts it and as it is. -/
def Fits (b : CBuffer) : Prop := b.getSize ≤ b.getAllocatedSize ∧ b.getSize ≤ b.backing

/-- `SetSize` is not asked for more than is allocated, and what is allocated leaves room for a
terminator below 2^64. -/
def AsksWithin (b : CBuffer) : BufferCall → Prop
  | .initWithAllocation size => size.toNat + 2 < 2 ^ 64
  | .initWithAllocAndCopy size (some _) => size.toNat + 2 < 2 ^ 64
  | .setSize size => size.toNat ≤ b.getAllocatedSize
  | _ => True

end CBuffer

inductive BufferEvent where
  | owner (call : BufferCall)
  | attach (fForWriting : Bool)
  | read (size : UInt64)
  | seekDirect (pos : UInt64)
  | seekRelative (offset : Int32)

namespace CDataStream

/-- The buffer that the stream shares with its owner. -/
def buffer (s : CDataStream) : CBuffer := s.pBuffer.getD .reset

/-- What the call returns, and the stream with its buffer afterwards. -/
def event (s : CDataStream) : BufferEvent → HRESULT × CDataStream
  | .owner call =>
    let (hr, buf) := s.buffer.call call
    (hr, { s with pBuffer := some buf })
  | .attach fForWriting => (S_OK, s.attach s.buffer fForWriting)
  | .read size =>
    match read size.toNat s with
    | .ok _ s' => (S_OK, s')
    | .error hr s' => (hr, s')
  | .seekDirect pos =>
    match seekDirect pos.toNat s with
    | .ok () s' => (S_OK, s')
    | .error hr s' => (hr, s')
  | .seekRelative offset =>
    match seekRelative offset.toInt s with
    | .ok () s' => (S_OK, s')
    | .error hr s' => (hr, s')

abbrev afterEvents (s : CDataStream) (events : List BufferEvent) : CDataStream :=
  Machine.after event s events

/-- A stream on a buffer just constructed. -/
def overBuffer : CDataStream := ofBuffer .reset

/-- The size stays within the allocation, `SetSize` fails where it would not, and what is read
lies within the allocation. -/
structure Bounded (s : CDataStream) (e : BufferEvent) : Prop where
  fits : (s.event e).2.buffer.Fits
  refused : ∀ size, e = .owner (.setSize size) → s.buffer.getAllocatedSize < size.toNat →
    FAILED (s.event e).1 = true ∧ (s.event e).2.buffer.getSize = s.buffer.getSize
  inside : ∀ size, e = .read size → SUCCEEDED (s.event e).1 = true →
    s.pos + size.toNat ≤ s.buffer.getAllocatedSize ∧ s.pos + size.toNat ≤ s.buffer.backing

/-- The owner asks within bounds, and the end of a read wraps around 2^64 only to where it is
refused. -/
def AsksWithin (s : CDataStream) : BufferEvent → Prop
  | .owner call => s.buffer.AsksWithin call
  | .read size =>
    size.toNat + s.pos < 2 ^ 64 ∨ s.buffer.getSize < (size.toNat + s.pos) % 2 ^ 64
  | _ => True

end CDataStream
end StunServer

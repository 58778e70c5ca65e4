import StunServer.Lib.Bytes
import StunServer.Common.HResult

/-! `CBuffer` and `CDataStream`. Memory that nobody has written is modelled as zero
bytes; a pointer argument is an optional byte list, a null pointer being `none`. -/

namespace StunServer

open Bytes

structure CBuffer where
  /-- As many bytes as the buffer counts in its allocation, written or not. -/
  data : List UInt8
  size : ℕ
  /-- How many bytes there really are at `_data`. -/
  backing : ℕ
deriving DecidableEq, Repr

namespace CBuffer

def getAllocatedSize (b : CBuffer) : ℕ := b.data.length

def getSize (b : CBuffer) : ℕ := b.size

/-- `Reset`, and a buffer just constructed. -/
def reset : CBuffer := ⟨[], 0, 0⟩

/-- `CBuffer(nSize)`. Two bytes more are allocated, a sum in the arithmetic of `size_t`. -/
def initWithAllocation (size : ℕ) : CBuffer := ⟨List.replicate size 0, size, (size + 2) % 2 ^ 64⟩

/-- `CBuffer(pByteArray, nByteArraySize, false)`. -/
def initNoAlloc (bytes : List UInt8) : CBuffer := ⟨bytes, bytes.length, bytes.length⟩

/-- `CBuffer(pByteArray, nByteArraySize, true)`. -/
def initWithAllocAndCopy (pByteArray : Option (List UInt8)) (size : ℕ) : CBuffer :=
  let size := if pByteArray = none then 0 else size
  let b := initWithAllocation size
  { b with data := overwrite b.data 0 ((pByteArray.getD []).take b.size) }

/-- The comparison is stored in an `HRESULT`, so both of its values count as success. -/
def setSize (b : CBuffer) (size : ℕ) : HRESULT × CBuffer :=
  let hr : HRESULT := if size ≤ b.getAllocatedSize then 1 else 0
  if SUCCEEDED hr then (hr, { b with size := size }) else (hr, b)

/-- The bytes below the size. -/
def bytes (b : CBuffer) : List UInt8 := b.data.take b.size

/-- `n` bytes copied out of the allocation. -/
def peek (b : CBuffer) (off n : ℕ) : List.Vector UInt8 n :=
  List.Vector.ofFn fun i => b.data.getD (off + i) 0

@[simp] theorem setSize_snd (b : CBuffer) (size : ℕ) :
    (b.setSize size).2 = { b with size := size } := by
  unfold setSize
  split_ifs <;> rfl

theorem peek_toList {b : CBuffer} {off n : ℕ} (h : off + n ≤ b.data.length) :
    (b.peek off n).toList = slice b.data off n := by
  apply List.ext_getElem
  · rw [slice_length h, List.Vector.toList_length]
  · intro i h1 h2
    rw [List.Vector.toList_length] at h1
    have hi : off + i < b.data.length := by omega
    simp [peek, slice, List.Vector.toList_ofFn, List.getD_eq_getElem?_getD,
      List.getElem?_eq_getElem hi]

end CBuffer

structure CDataStream where
  /-- The reference-counted buffer and the raw pointer to it. -/
  pBuffer : Option CBuffer
  pos : ℕ
  fNoGrow : Bool
  /-- The buffer the stream worked on before `Grow` put a new one in its place, as it
  was at that moment. Whoever shares that buffer sees no later write. -/
  replaced : Option CBuffer
deriving DecidableEq, Repr

namespace CDataStream

def create : CDataStream := ⟨none, 0, false, none⟩

def reset (_ : CDataStream) : CDataStream := create

/-- `CDataStream(spBuffer)`. -/
def ofBuffer (buf : CBuffer) : CDataStream := ⟨some buf, 0, false, none⟩

def attach (s : CDataStream) (buf : CBuffer) (fForWriting : Bool) : CDataStream :=
  { s.reset with pBuffer := some (if fForWriting then (buf.setSize 0).2 else buf) }

/-- The buffer last attached, as those who share it see it. -/
def sharedBuffer (s : CDataStream) : Option CBuffer := s.replaced.or s.pBuffer

def getSize (s : CDataStream) : ℕ := s.pBuffer.elim 0 CBuffer.getSize

def getAllocatedSize (s : CDataStream) : ℕ := s.pBuffer.elim 0 CBuffer.getAllocatedSize

def getPos (s : CDataStream) : ℕ := s.pos

/-- The bytes in the stream. -/
def bytes (s : CDataStream) : List UInt8 := s.pBuffer.elim [] CBuffer.bytes

/-- The allocation behind `GetDataPointerUnsafe`. -/
def data (s : CDataStream) : List UInt8 := s.pBuffer.elim [] CBuffer.data

/-- `n` bytes copied from the data pointer. -/
def peek (s : CDataStream) (off n : ℕ) : List.Vector UInt8 n :=
  (s.pBuffer.getD .reset).peek off n

def setNoGrow (s : CDataStream) (fNoGrow : Bool) : CDataStream := { s with fNoGrow := fNoGrow }

/-- The new position is a sum in the arithmetic of `size_t`. -/
def read (size : ℕ) : Hr CDataStream (List.Vector UInt8 size) := do
  let s ← get
  let newpos := (size + s.pos) % 2 ^ 64
  Hr.chkIf (newpos > s.getSize) E_INVALIDARG
  set { s with pos := newpos }
  return s.peek s.pos size

def grow (size : ℕ) : Hr CDataStream Unit := do
  let s ← get
  let currentAllocated := s.getAllocatedSize
  let currentSize := s.getSize
  if size ≤ currentAllocated then
    return
  Hr.chkIf (s.fNoGrow = true) E_FAIL
  let newallocationsize := if size > currentAllocated * 2 then size else currentAllocated * 2
  let spNewBuffer := ((CBuffer.initWithAllocation newallocationsize).setSize currentSize).2
  let spNewBuffer :=
    if currentSize > 0 then
      { spNewBuffer with data := overwrite spNewBuffer.data 0 (s.data.take currentSize) }
    else spNewBuffer
  set { s with pBuffer := some spNewBuffer, replaced := s.replaced.or s.pBuffer }

def setSizeHint (size : ℕ) : Hr CDataStream Unit := grow size

/-- The buffer with `bytes` copied to position `pos`, grown to hold them. -/
def poke (buf : CBuffer) (pos : ℕ) (bytes : List UInt8) : CBuffer :=
  { buf with data := overwrite buf.data pos bytes }

/-- As many bytes as that are in memory, so that the sum does not wrap around. -/
def write (data : Option (List UInt8)) (size : ℕ) : Hr CDataStream Unit := do
  let s ← get
  let newposition := size + s.pos
  let currentSize := s.getSize
  Hr.chkIf (size = 0 ∨ data = none) E_FAIL
  grow newposition
  let s ← get
  let buf := poke (s.pBuffer.getD .reset) s.pos ((data.getD []).take size)
  let buf := if newposition > currentSize then (buf.setSize newposition).2 else buf
  set { s with pBuffer := some buf, pos := newposition }

def writeUint8 (val : UInt8) : Hr CDataStream Unit := write (some [val]) 1
def writeUint16 (val : UInt16) : Hr CDataStream Unit := write (some (mem16 val)) 2
def writeUint32 (val : UInt32) : Hr CDataStream Unit := write (some (mem32 val)) 4
def writeInt16 (val : Int16) : Hr CDataStream Unit := writeUint16 val.toUInt16

def readUint8 : Hr CDataStream UInt8 := do
  let v ← read 1
  return v.head

def readUint16 : Hr CDataStream UInt16 := do
  let v ← read 2
  return load16 v.toList

def readUint32 : Hr CDataStream UInt32 := do
  let v ← read 4
  return load32 v.toList

def seekDirect (pos : ℕ) : Hr CDataStream Unit := do
  let s ← get
  if pos ≤ s.getSize then
    set { s with pos := pos }
  else
    throw E_FAIL

/-- The offset is added to the position in the arithmetic of `size_t`. -/
def seekRelative (offset : Int) : Hr CDataStream Unit := do
  let s ← get
  seekDirect ((offset + s.pos) % 2 ^ 64).toNat

end CDataStream
end StunServer

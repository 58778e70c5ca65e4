import StunServer.Lib.Cursor
import StunServer.Lib.Machine
import StunServer.Core.DataStream

/-! What a stream is for: a byte array with a cursor. How much the array may hold before it is
given more room is only told by a write to a stream that must not grow. -/

namespace StunServer

/-- A call on a stream. A pointer that is not null comes with as many bytes as the call says. -/
inductive StreamCall where
  | write (size : ℕ) (data : Option (List.Vector UInt8 size))
  | read (size : ℕ)
  | seekDirect (pos : ℕ)
  | seekRelative (offset : Int32)
  | setSizeHint (size : ℕ)
  | setNoGrow (fNoGrow : Bool)

/-- The result of a call, with the bytes that `Read` copies out. -/
abbrev StreamAnswer := Except HRESULT (List UInt8)

namespace CDataStream

def answer {α : Type} (m : Hr CDataStream α) (copied : α → List UInt8) (s : CDataStream) :
    StreamAnswer × CDataStream :=
  match m s with
  | .ok a s' => (.ok (copied a), s')
  | .error hr s' => (.error hr, s')

def call (s : CDataStream) : StreamCall → StreamAnswer × CDataStream
  | .write size data => answer (write (data.map List.Vector.toList) size) (fun _ => []) s
  | .read size => answer (read size) List.Vector.toList s
  | .seekDirect pos => answer (seekDirect pos) (fun _ => []) s
  | .seekRelative offset => answer (seekRelative offset.toInt) (fun _ => []) s
  | .setSizeHint size => answer (setSizeHint size) (fun _ => []) s
  | .setNoGrow fNoGrow => (.ok [], s.setNoGrow fNoGrow)

/-- The stream after some calls. -/
abbrev afterCalls (s : CDataStream) (calls : List StreamCall) : CDataStream :=
  Machine.after call s calls

end CDataStream

/-! ### The plain model -/

structure PlainStream where
  array : Cursor UInt8
  capacity : ℕ
  fNoGrow : Bool
  size_le : array.items.length ≤ capacity

namespace PlainStream

/-- `n` bytes fit, or the array may grow. -/
def HasRoom (s : PlainStream) (n : ℕ) : Prop := n ≤ s.capacity ∨ s.fNoGrow = false

instance (s : PlainStream) (n : ℕ) : Decidable (s.HasRoom n) := inferInstanceAs (Decidable (_ ∨ _))

/-- The capacity once `n` bytes fit. -/
def capacityFor (s : PlainStream) (n : ℕ) : ℕ :=
  if n ≤ s.capacity then s.capacity else max n (s.capacity * 2)

theorem capacity_le (s : PlainStream) (n : ℕ) : s.capacity ≤ s.capacityFor n := by
  unfold capacityFor
  split_ifs <;> omega

theorem le_capacityFor (s : PlainStream) (n : ℕ) : n ≤ s.capacityFor n := by
  unfold capacityFor
  split_ifs <;> omega

def reserve (s : PlainStream) (n : ℕ) : PlainStream :=
  ⟨s.array, s.capacityFor n, s.fNoGrow, s.size_le.trans (s.capacity_le n)⟩

def write (s : PlainStream) (d : List UInt8) : PlainStream :=
  ⟨s.array.write d, s.capacityFor (s.array.pos + d.length), s.fNoGrow, by
    rw [Cursor.length_write]
    exact max_le (s.size_le.trans (s.capacity_le _)) (s.le_capacityFor _)⟩

/-- Only the cursor is moved. -/
def moveTo (s : PlainStream) (pos : ℕ) (h : pos ≤ s.array.items.length) : PlainStream :=
  ⟨s.array.moveTo pos h, s.capacity, s.fNoGrow, s.size_le⟩

def seek (s : PlainStream) (target : ℤ) : StreamAnswer × PlainStream :=
  if h : 0 ≤ target ∧ target ≤ s.array.items.length then
    (.ok [], s.moveTo target.toNat (Int.toNat_le.mpr h.2))
  else (.error E_FAIL, s)

/-- Nothing to write, or nowhere to write it from, is an error. -/
def call (s : PlainStream) : StreamCall → StreamAnswer × PlainStream
  | .write _ none => (.error E_FAIL, s)
  | .write size (some data) =>
    if size ≠ 0 ∧ s.HasRoom (s.array.pos + size) then (.ok [], s.write data.toList)
    else (.error E_FAIL, s)
  | .read size =>
    if h : s.array.pos + size ≤ s.array.items.length then
      (.ok (s.array.next size), s.moveTo (s.array.pos + size) h)
    else (.error E_INVALIDARG, s)
  | .seekDirect pos => s.seek pos
  | .seekRelative offset => s.seek (s.array.pos + offset.toInt)
  | .setSizeHint size =>
    if s.HasRoom size then (.ok [], s.reserve size) else (.error E_FAIL, s)
  | .setNoGrow fNoGrow => (.ok [], ⟨s.array, s.capacity, fNoGrow, s.size_le⟩)

abbrev afterCalls (s : PlainStream) (calls : List StreamCall) : PlainStream :=
  Machine.after call s calls

end PlainStream

/-- The stream holds what the plain model says. -/
structure CDataStream.Represents (s : CDataStream) (p : PlainStream) : Prop where
  contents : s.bytes = p.array.items
  size : s.getSize = p.array.items.length
  position : s.pos = p.array.pos
  allocated : s.getAllocatedSize = p.capacity
  fNoGrow : s.fNoGrow = p.fNoGrow

end StunServer

import StunServer.Lib.Bytes

/-! A list with a cursor: what stands at the cursor is read, written over and extended, and
the cursor goes anywhere between the start of the list and its end. -/

open Bytes

@[ext]
structure Cursor (α : Type*) where
  items : List α
  pos : ℕ
  pos_le : pos ≤ items.length

namespace Cursor

variable {α : Type*}

/-- The cursor anywhere in the list. -/
def moveTo (c : Cursor α) (p : ℕ) (h : p ≤ c.items.length) : Cursor α := ⟨c.items, p, h⟩

/-- The next `n` items. -/
def next (c : Cursor α) (n : ℕ) : List α := slice c.items c.pos n

theorem pos_le_overwrite (c : Cursor α) (ys : List α) :
    c.pos + ys.length ≤ (overwrite c.items c.pos ys).length := by
  have h := c.pos_le
  simp only [overwrite, List.length_append, List.length_take, List.length_drop]
  omega

/-- The items at the cursor are replaced, and the list extended where it ends before. -/
def write (c : Cursor α) (ys : List α) : Cursor α :=
  ⟨overwrite c.items c.pos ys, c.pos + ys.length, c.pos_le_overwrite ys⟩

theorem length_write (c : Cursor α) (ys : List α) :
    (c.write ys).items.length = max c.items.length (c.pos + ys.length) := by
  have h := c.pos_le
  simp only [write, overwrite, List.length_append, List.length_take, List.length_drop]
  omega

theorem length_le_write (c : Cursor α) (ys : List α) :
    c.items.length ≤ (c.write ys).items.length := length_le_overwrite _ _ _

end Cursor

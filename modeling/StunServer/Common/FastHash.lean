import StunServer.Lib.Chain
import Mathlib.Algebra.Group.Int.Defs
import Mathlib.Data.Nat.Sqrt

/-! The hash table of `common/fasthash.h`. Its arrays are functions of the position,
its pointers into `_itemnodes` are positions, and a null pointer is `none`. -/

namespace StunServer

/-- The overloads of `FastHash_Hash`. -/
class FastHashKey (K : Type) where
  hash : K → ℕ

/-- A 16-bit key is promoted to `int` and hashed as its own value. -/
instance : FastHashKey UInt16 := ⟨UInt16.toNat⟩

/-- The `size_t` that an `int` converts to. -/
instance : FastHashKey Int := ⟨fun x => (x % 2 ^ 64).toNat⟩

/-! ### The width of a table -/

/-- The test of an odd number above 3, by trial division. -/
def isPrimeForWidth (result : ℕ) : Bool :=
  let stop := Nat.sqrt result + 1
  (List.range' 3 (stop + 1 - 3)).all fun x => result % x ≠ 0

/-- The loop of `FindPrime`; its bound is never reached. -/
def findPrimeFrom : ℕ → ℕ → ℕ
  | 0, result => result
  | fuel + 1, result =>
    if isPrimeForWidth result then result else findPrimeFrom fuel (result + 2)

def findPrime (val : ℕ) : ℕ :=
  if val ≤ 2 then 2
  else if val = 3 then 3
  else findPrimeFrom val (if val % 2 = 0 then val + 1 else val)

def FastHash_GetHashTableWidth (maxConnections : ℕ) : ℕ := findPrime maxConnections

structure FastHash.Item (K V : Type) where
  key : K
  value : V

structure FastHash.ItemNode where
  index : ℕ
  pNext : Option ℕ

structure FastHash (K V : Type) where
  fsize : ℕ
  tsize : ℕ
  /-- `none` is a slot that no insertion has filled yet. -/
  nodes : ℕ → Option (FastHash.Item K V)
  itemnodes : ℕ → FastHash.ItemNode
  freelist : Option ℕ
  lookuptable : ℕ → Option ℕ
  indexlist : ℕ → ℕ
  fIndexValid : Bool
  indexStart : ℕ
  size : ℕ

namespace FastHash

variable {K V : Type} [FastHashKey K]

/-- The successor relation of the bucket chains and of the free list. -/
def next (t : FastHash K V) (i : ℕ) : Option ℕ := (t.itemnodes i).pNext

def setNext (t : FastHash K V) (i : ℕ) (pNext : Option ℕ) : FastHash K V :=
  { t with itemnodes := Function.update t.itemnodes i { t.itemnodes i with pNext := pNext } }

def reset (t : FastHash K V) : FastHash K V :=
  { t with
    lookuptable := fun _ => none
    itemnodes := fun x => ⟨x, if x + 1 < t.fsize then some (x + 1) else none⟩
    freelist := if 0 < t.fsize then some 0 else none
    size := 0
    fIndexValid := true
    indexStart := 0 }

/-- A table over fresh arrays, as the constructor leaves it. -/
def create (fsize tsize : ℕ) : FastHash K V :=
  reset ⟨fsize, tsize, fun _ => none, fun _ => ⟨0, none⟩, none, fun _ => none, fun _ => 0,
    false, 0, 0⟩

/-- `InitTable` of `FastHashDynamic`, for a table that has room for something. -/
def initTable (fsize tsize : ℕ) : FastHash K V :=
  create fsize (if tsize = 0 then FastHash_GetHashTableWidth fsize else tsize)

def hashindex (t : FastHash K V) (key : K) : ℕ := FastHashKey.hash key % t.tsize

def keyAt [DecidableEq K] (t : FastHash K V) (key : K) (i : ℕ) : Bool :=
  match t.nodes (t.itemnodes i).index with
  | some item => item.key = key
  | none => false

/-- The cell that holds `key`, with the one before it in the bucket. No bucket holds
more than `fsize` cells. -/
def find [DecidableEq K] (t : FastHash K V) (key : K) : Option ℕ × Option ℕ :=
  Chain.search t.next (t.keyAt key) (t.fsize + 1) none (t.lookuptable (t.hashindex key))

/-- The cells of one bucket, in chain order. -/
def collect (t : FastHash K V) : ℕ → Option ℕ → List ℕ
  | 0, _ => []
  | _ + 1, none => []
  | fuel + 1, some i => (t.itemnodes i).index :: collect t fuel (t.next i)

def reIndex (t : FastHash K V) : FastHash K V :=
  if t.size = 0 then t
  else
    let cells := (List.range t.tsize).flatMap fun b => t.collect (t.fsize + 1) (t.lookuptable b)
    { t with
      indexlist := fun i => cells.getD i (t.indexlist i)
      fIndexValid := true
      indexStart := 0 }

/-- Called before `size` is incremented. -/
def updateIndexWithAdd (t : FastHash K V) (node : ℕ) : FastHash K V :=
  if t.fIndexValid ∧ t.size < t.fsize then
    { t with
      indexlist :=
        Function.update t.indexlist ((t.size + t.indexStart) % t.fsize) (t.itemnodes node).index }
  else t

def insert (t : FastHash K V) (key : K) (value : V) : Int × FastHash K V :=
  match t.freelist with
  | none => (-1, t)
  | some pInsert =>
    let pHead := t.lookuptable (t.hashindex key)
    let pItem := (t.itemnodes pInsert).index
    let t := { t with freelist := t.next pInsert }
    let t := { t with nodes := Function.update t.nodes pItem (some ⟨key, value⟩) }
    let t := t.setNext pInsert pHead
    let t := { t with
      lookuptable := Function.update t.lookuptable (t.hashindex key) (some pInsert) }
    let t := t.updateIndexWithAdd pInsert
    (1, { t with size := t.size + 1 })

/-- Called before `size` is decremented. Only the first and the last cell of the index can
go without making the index invalid. -/
def updateIndexWithRemove (t : FastHash K V) (node : ℕ) : FastHash K V :=
  let index := (t.itemnodes node).index
  if t.size = 0 ∨ (1 < t.size ∧ t.fIndexValid = false) then t
  else if t.size = 1 then { t with fIndexValid := true, indexStart := 0 }
  else if index = t.indexlist t.indexStart then
    { t with indexStart := (t.indexStart + 1) % t.fsize }
  else if index = t.indexlist ((t.indexStart + (t.size - 1)) % t.fsize) then t
  else { t with fIndexValid := false }

/-- The cell is taken out of its bucket. -/
def unlink (t : FastHash K V) (hashindex : ℕ) (pPrev : Option ℕ) (pNode : ℕ) : FastHash K V :=
  match pPrev with
  | none => { t with lookuptable := Function.update t.lookuptable hashindex (t.next pNode) }
  | some pPrev => t.setNext pPrev (t.next pNode)

def remove [DecidableEq K] (t : FastHash K V) (key : K) : Int × FastHash K V :=
  match t.find key with
  | (_, none) => (-1, t)
  | (pPrev, some pNode) =>
    let t := t.unlink (t.hashindex key) pPrev pNode
    let t := t.updateIndexWithRemove pNode
    let t := t.setNext pNode t.freelist
    (1, { t with freelist := some pNode, size := t.size - 1 })

/-- A write through the pointer that `Lookup` returned. -/
def store [DecidableEq K] (t : FastHash K V) (key : K) (value : V) : FastHash K V :=
  match (t.find key).2 with
  | some pNode =>
    { t with nodes := Function.update t.nodes (t.itemnodes pNode).index (some ⟨key, value⟩) }
  | none => t

def lookup [DecidableEq K] (t : FastHash K V) (key : K) : Option V :=
  match (t.find key).2 with
  | some pNode => (t.nodes (t.itemnodes pNode).index).map Item.value
  | none => none

def lookupByIndex (t : FastHash K V) (index : ℕ) : Option (Item K V) × FastHash K V :=
  if t.size ≤ index then (none, t)
  else
    let t := if t.fIndexValid then t else t.reIndex
    if t.fIndexValid then (t.nodes (t.indexlist ((t.indexStart + index) % t.fsize)), t)
    else (none, t)

def lookupValueByIndex (t : FastHash K V) (index : ℕ) : Option V × FastHash K V :=
  let (pItem, t) := t.lookupByIndex index
  (pItem.map Item.value, t)

end FastHash

def FastHash.exists {K V : Type} [FastHashKey K] [DecidableEq K] (t : FastHash K V) (key : K) :
    Bool :=
  (t.find key).2.isSome

end StunServer

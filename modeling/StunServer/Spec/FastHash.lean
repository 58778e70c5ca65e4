import StunServer.Common.FastHash
import StunServer.Lib.Machine
import StunServer.Lib.StackMap

/-! What a hash table is for: a map from keys to stacks of values that holds a limited number
of them. The order of its index is told from the list of the live items. -/

namespace StunServer.FastHash

/-- The operations on the keys of a table. -/
inductive Op (K V : Type) where
  | insert (key : K) (value : V)
  | remove (key : K)
  | lookup (key : K)
  | exists (key : K)
  | reset

/-- What an operation returns. -/
inductive Answer (V : Type) where
  | code (ret : Int)
  | value (pValue : Option V)
  | found (fExists : Bool)
  | done

section

variable {K V : Type} [FastHashKey K] [DecidableEq K]

def step (t : FastHash K V) : Op K V → Answer V × FastHash K V
  | .insert key value => let (ret, t) := t.insert key value; (.code ret, t)
  | .remove key => let (ret, t) := t.remove key; (.code ret, t)
  | .lookup key => (.value (t.lookup key), t)
  | .exists key => (.found (t.exists key), t)
  | .reset => (.done, t.reset)

/-- The operations, with those that go by the position in the index. -/
inductive IndexOp (K V : Type) where
  | onKey (op : Op K V)
  | lookupByIndex (index : ℕ)

def indexStep (t : FastHash K V) : IndexOp K V → Unit × FastHash K V
  | .onKey op => ((), (t.step op).2)
  | .lookupByIndex index => ((), (t.lookupByIndex index).2)

end

/-! ### The stacks -/

section

variable {K V : Type} [DecidableEq K]

/-- The operations on stacks of which at most `capacity` values are kept. -/
def stackStep (capacity : ℕ) (m : StackMap K V) : Op K V → Answer V × StackMap K V
  | .insert key value =>
    if capacity ≤ m.size then (.code (-1), m) else (.code 1, m.push key value)
  | .remove key => if m.stack key = [] then (.code (-1), m) else (.code 1, m.pop key)
  | .lookup key => (.value (m.stack key).head?, m)
  | .exists key => (.found (m.stack key ≠ []), m)
  | .reset => (.done, .empty)

/-! ### The live items -/

/-- The live items after an operation, oldest first. -/
def liveStep (capacity : ℕ) (live : List (K × V)) : IndexOp K V → List (K × V)
  | .onKey (.insert key value) => if capacity ≤ live.length then live else live ++ [(key, value)]
  | .onKey (.remove key) => StackMap.dropNewest live key
  | .onKey .reset => []
  | .onKey (.lookup _) => live
  | .onKey (.exists _) => live
  | .lookupByIndex _ => live

def liveItems (capacity : ℕ) (ops : List (IndexOp K V)) : List (K × V) :=
  ops.foldl (liveStep capacity) []

end

namespace IndexOp

variable {K V : Type}

def isRemove : IndexOp K V → Bool
  | onKey (.remove _) => true
  | _ => false

def isReset : IndexOp K V → Bool
  | onKey .reset => true
  | _ => false

/-- The item that an insertion brings. -/
def inserted : IndexOp K V → Option (K × V)
  | onKey (.insert key value) => some (key, value)
  | _ => none

/-- The operations behind the last reset. -/
def sinceReset (ops : List (IndexOp K V)) : List (IndexOp K V) :=
  (ops.reverse.takeWhile fun op => !op.isReset).reverse

end IndexOp

end StunServer.FastHash

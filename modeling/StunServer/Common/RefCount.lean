import Mathlib.Data.Int.Notation
import Mathlib.Data.Nat.Notation

/-! `common/refcountobject.h`, for the pointers to one object. -/

namespace StunServer

/-- `OnFinalRelease` deletes the object. That it has is kept here, and that it has again. -/
structure CBasicRefCount where
  m_nRefs : ℤ
  finalReleases : ℕ
deriving DecidableEq, Repr

namespace CBasicRefCount

/-- `CreateInstanceNoInit`. -/
def createInstance : CBasicRefCount := ⟨1, 0⟩

def internalRelease (object : CBasicRefCount) : CBasicRefCount :=
  let refcount := object.m_nRefs - 1
  ⟨refcount, if refcount = 0 then object.finalReleases + 1 else object.finalReleases⟩

end CBasicRefCount

/-- Whether `m_ptr` is the object, or null. -/
structure CRefCountedPtr where
  m_ptr : Bool
deriving DecidableEq, Repr

namespace CRefCountedPtr

def null : CRefCountedPtr := ⟨false⟩

/-- Attached by whoever creates the object. -/
def owner : CRefCountedPtr := ⟨true⟩

/-- `ReleaseAndClear`, and the destructor. -/
def releaseAndClear (sp : CRefCountedPtr) (object : CBasicRefCount) :
    CRefCountedPtr × CBasicRefCount :=
  (null, if sp.m_ptr then object.internalRelease else object)

/-- There is no `AddRef` for the pointer that is passed. -/
def attach (sp : CRefCountedPtr) (ptr : Bool) (object : CBasicRefCount) :
    CRefCountedPtr × CBasicRefCount :=
  (⟨ptr⟩, if sp.m_ptr then object.internalRelease else object)

end CRefCountedPtr
end StunServer

import Fantuan.StarNet.Packet
import Mathlib.Data.List.GetD

/-! The tables that a received packet is dispatched through: an array of filters, each with a
count and an array of functions. Indices are not checked against the array of filters, and
the assertions that come before the checks are not in a release build.
-/
namespace Fantuan.StarNet.Dispatch
open Packet

def dispatchFilterMax : Nat := 255

/-- The count, and what m_pFunc points to: a function or NULL in each place. -/
structure DispatchFilter (Func : Type) where
  funcCount : UInt32
  func : List (Option Func)

structure DispatchFilterArray (Func : Type) where
  filters : List (DispatchFilter Func)
  size : filters.length = dispatchFilterMax

def DispatchFilterArray.zero (Func : Type) : DispatchFilterArray Func where
  filters := List.replicate dispatchFilterMax ⟨0,[]⟩
  size := List.length_replicate

variable {Func : Type}

-- none: the reference is to a place outside the array
def DispatchFilterArray.getFilter (array : DispatchFilterArray Func) (filterId : Nat) :
    Option (DispatchFilter Func) :=
  array.filters[filterId]?

def DispatchFilterArray.setFilter (array : DispatchFilterArray Func) (filterId : Nat)
    (filter : DispatchFilter Func) : Option (DispatchFilterArray Func) :=
  if filterId < dispatchFilterMax then
    some ⟨array.filters.set filterId filter,by rw [List.length_set,array.size]⟩
  else none

/-- What a dispatch does: it calls a function with the payload, it returns false, or it reads
outside an array or calls NULL. -/
inductive Dispatched (Func : Type) where
  | called (func : Func) (payload : List UInt8)
  | refused
  | undefined
  deriving DecidableEq

def DispatchFilter.dispatch (filter : DispatchFilter Func) (funcId : Nat) (payload : List UInt8) :
    Dispatched Func :=
  if funcId ≥ filter.funcCount.toNat then .refused
  else
    match filter.func[funcId]? with
    | some (some func) => .called func payload
    | some none => .undefined
    | none => .undefined

def DispatchFilterArray.dispatch (array : DispatchFilterArray Func) (filterId funcId : Nat)
    (payload : List UInt8) : Dispatched Func :=
  match array.getFilter filterId with
  | some filter => filter.dispatch funcId payload
  | none => .undefined

def filterOf (typeId : UInt16) : UInt8 := (typeId >>> 8).toUInt8

def funcOf (typeId : UInt16) : UInt8 := (typeId &&& 0xff).toUInt8

def onPacketReceived (array : DispatchFilterArray Func) (typeId : UInt16) (payload : List UInt8) :
    Dispatched Func :=
  array.dispatch (filterOf typeId).toNat (funcOf typeId).toNat payload

/-- PeerServer::Dispatch and PeerClient::Dispatch, each with an array of its own. -/
def peerDispatch (array : DispatchFilterArray Func) (filterId funcId : UInt16)
    (payload : List UInt8) : Dispatched Func :=
  array.dispatch filterId.toNat funcId.toNat payload

theorem getFilter_inside (array : DispatchFilterArray Func) (filterId : Nat) :
    (∃ filter, array.getFilter filterId = some filter) ↔ filterId < dispatchFilterMax := by
  rw [DispatchFilterArray.getFilter,← array.size]
  constructor
  · intro ⟨filter,found⟩
    exact (List.getElem?_eq_some_iff.mp found).1
  · intro inside
    exact ⟨_,List.getElem?_eq_getElem inside⟩

@[simp] theorem zero_getFilter (filterId : Nat) (inside : filterId < dispatchFilterMax) :
    (DispatchFilterArray.zero Func).getFilter filterId = some ⟨0,[]⟩ := by
  rw [DispatchFilterArray.getFilter,DispatchFilterArray.zero,List.getElem?_replicate_of_lt inside]

theorem setFilter_getFilter (array next : DispatchFilterArray Func) (filterId other : Nat)
    (filter : DispatchFilter Func) (written : array.setFilter filterId filter = some next) :
    next.getFilter other = if other = filterId then some filter else array.getFilter other := by
  rw [DispatchFilterArray.setFilter] at written
  split at written
  next inside =>
    obtain rfl := Option.some.inj written
    simp only [DispatchFilterArray.getFilter]
    by_cases same : other = filterId
    · subst same
      rw [List.getElem?_set_self (by rw [array.size]; exact inside),if_pos rfl]
    · rw [List.getElem?_set_ne (Ne.symm same),if_neg same]
  · cases written

theorem setFilter_inside (array : DispatchFilterArray Func) (filterId : Nat)
    (filter : DispatchFilter Func) :
    (∃ next, array.setFilter filterId filter = some next) ↔ filterId < dispatchFilterMax := by
  rw [DispatchFilterArray.setFilter]
  split
  next inside => exact ⟨fun _ => inside,fun _ => ⟨_,rfl⟩⟩
  next outside => exact ⟨fun ⟨_,written⟩ => (nomatch written),fun inside => absurd inside outside⟩

theorem zero_dispatch (funcId : Nat) (payload : List UInt8) :
    DispatchFilter.dispatch (⟨0,[]⟩ : DispatchFilter Func) funcId payload = .refused :=
  if_pos (Nat.zero_le _)

end Fantuan.StarNet.Dispatch

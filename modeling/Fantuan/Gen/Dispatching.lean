import Fantuan.Gen.Generator
import Fantuan.StarNet.Dispatch
import Mathlib.Data.List.Induction

/-! The dispatch tables that the generators emit after a filter's callbacks, and what becomes
of a packet whose ids anybody may have chosen. A table ends with a NULL, and the count that
goes with it counts the NULL.
-/
namespace Fantuan.Gen.Dispatching
open StarNet.Dispatch Declaration Emitted Generator

/-- A filter with the value of the constant that its id names. -/
structure Table where
  filterId : Nat
  filter : Filter

/-- The id as the parameter of GetFilter gets it. -/
def Table.index : Language → Table → Nat
  | .ft, table => table.filterId % 2^8
  | .pr, table => table.filterId % 2^16

def funcTable (language : Language) (filter : Filter) : List (Option Callback) :=
  (generateRecvCpp language filter).map some ++ [none]

def dispatchFilter (language : Language) (filter : Filter) : DispatchFilter Callback where
  funcCount := UInt32.ofNat (funcTable language filter).length
  func := funcTable language filter

/-- The constructors of the PacketDispatch objects run before anything is received. FTGen's
write to DispatchFilterArray and PRGen's to PeerClientDispatchFilterArray. -/
def register (language : Language) (tables : List Table) :
    Option (DispatchFilterArray Callback) :=
  tables.foldlM (fun array table =>
    array.setFilter (table.index language) (dispatchFilter language table.filter)) (.zero Callback)

-- none: a table was written outside the array
def registered (dispatch : DispatchFilterArray Callback → Dispatched Callback) :
    Option (DispatchFilterArray Callback) → Dispatched Callback
  | some array => dispatch array
  | none => .undefined

def packetReceived (tables : List Table) (typeId : UInt16) (payload : List UInt8) :
    Dispatched Callback :=
  registered (onPacketReceived · typeId payload) (register .ft tables)

def peerClientReceived (tables : List Table) (filterId funcId : UInt16) (payload : List UInt8) :
    Dispatched Callback :=
  registered (peerDispatch · filterId funcId payload) (register .pr tables)

/-- No generator writes to PeerServerDispatchFilterArray. -/
def peerServerReceived (filterId funcId : UInt16) (payload : List UInt8) : Dispatched Callback :=
  peerDispatch (.zero Callback) filterId funcId payload

/-- The filter that was registered last with this index. -/
def lastFilter (language : Language) (tables : List Table) (index : Nat) : Option Filter :=
  (tables.reverse.find? fun table => table.index language == index).map Table.filter

/-- A callback of the filter inside the array that the packet names, or no call. -/
def Proper (language : Language) (tables : List Table) (filterId funcId : Nat)
    (payload : List UInt8) (outcome : Dispatched Callback) : Prop :=
  outcome = .refused ∨ filterId < dispatchFilterMax ∧
    ∃ filter callback, lastFilter language tables filterId = some filter ∧
      (generateRecvCpp language filter)[funcId]? = some callback ∧
      outcome = .called callback payload

/-- The ids are inside the array, and the packet does not name the place of a NULL. -/
def Dispatchable (language : Language) (tables : List Table) (filterId funcId : Nat) : Prop :=
  (∀ table ∈ tables, table.index language < dispatchFilterMax) ∧ filterId < dispatchFilterMax ∧
    ∀ filter, lastFilter language tables filterId = some filter → funcId ≠ filter.node.length

theorem funcTable_length (language : Language) (filter : Filter) :
    (funcTable language filter).length = filter.node.length + 1 := by
  simp [funcTable,generateRecvCpp]

/-- What a filter's own table does with a function id. -/
theorem filter_dispatch (language : Language) (filter : Filter) (funcId : Nat)
    (small : funcId < 2^16) (payload : List UInt8) :
    (dispatchFilter language filter).dispatch funcId payload = .refused ∧
        funcId ≠ filter.node.length ∨
      (∃ callback, (generateRecvCpp language filter)[funcId]? = some callback ∧
        (dispatchFilter language filter).dispatch funcId payload = .called callback payload ∧
        funcId ≠ filter.node.length) ∨
      (dispatchFilter language filter).dispatch funcId payload = .undefined ∧
        funcId = filter.node.length := by
  have count : (dispatchFilter language filter).funcCount.toNat =
      (filter.node.length + 1) % 2^32 := by
    rw [dispatchFilter,funcTable_length,UInt32.toNat_ofNat']
  have callbacks : (generateRecvCpp language filter).length = filter.node.length := by
    rw [generateRecvCpp,List.length_map]
  rw [DispatchFilter.dispatch,count]
  by_cases refused : funcId ≥ (filter.node.length + 1) % 2^32
  · left
    rw [if_pos refused]
    refine ⟨rfl,?_⟩
    intro last
    omega
  · right
    rw [if_neg refused]
    have table : (dispatchFilter language filter).func =
        (generateRecvCpp language filter).map some ++ [none] := rfl
    by_cases last : funcId = filter.node.length
    · right
      have null : (dispatchFilter language filter).func[funcId]? = some none := by
        rw [table,List.getElem?_append_right (by rw [List.length_map,callbacks]; omega),
          List.length_map,callbacks,last,Nat.sub_self]
        rfl
      rw [null]
      exact ⟨rfl,last⟩
    · left
      have inside : funcId < (generateRecvCpp language filter).length := by
        have wrapped := Nat.mod_le (filter.node.length + 1) (2^32)
        omega
      have found : (dispatchFilter language filter).func[funcId]? =
          some (some (generateRecvCpp language filter)[funcId]) := by
        rw [table,List.getElem?_append_left (by rw [List.length_map]; exact inside),
          List.getElem?_map,List.getElem?_eq_getElem inside,Option.map_some]
      rw [found]
      exact ⟨_,List.getElem?_eq_getElem inside,rfl,last⟩

/-- The array after the tables are registered, if these are all inside it. -/
theorem register_filters (language : Language) (tables : List Table) :
    ((∃ array, register language tables = some array) ↔
      ∀ table ∈ tables, table.index language < dispatchFilterMax) ∧
    ∀ array, register language tables = some array → ∀ filterId, filterId < dispatchFilterMax →
      array.getFilter filterId = some ((lastFilter language tables filterId).elim ⟨0,[]⟩
        (dispatchFilter language)) := by
  induction tables using List.reverseRecOn with
  | nil =>
    refine ⟨⟨fun _ table listed => absurd listed List.not_mem_nil,fun _ => ⟨_,rfl⟩⟩,?_⟩
    intro array start filterId inside
    obtain rfl := Option.some.inj start
    exact zero_getFilter filterId inside
  | append_singleton tables table ih =>
    obtain ⟨all,filters⟩ := ih
    have split : register language (tables ++ [table]) =
        (register language tables).bind fun array =>
          array.setFilter (table.index language) (dispatchFilter language table.filter) := by
      simp [register,List.foldlM_append]
    constructor
    · rw [split]
      constructor
      · intro ⟨next,written⟩ entry listed
        obtain ⟨array,before,written⟩ := Option.bind_eq_some_iff.mp written
        rcases List.mem_append.mp listed with earlier | here
        · exact all.mp ⟨array,before⟩ entry earlier
        · rw [List.mem_singleton.mp here]
          exact (setFilter_inside array _ _).mp ⟨next,written⟩
      · intro inside
        obtain ⟨array,before⟩ := all.mpr fun entry earlier =>
          inside entry (List.mem_append_left _ earlier)
        obtain ⟨next,written⟩ := (setFilter_inside array (table.index language)
          (dispatchFilter language table.filter)).mpr
            (inside table (List.mem_append_right _ List.mem_cons_self))
        exact ⟨next,by rw [before,Option.bind_some,written]⟩
    · intro next written filterId inside
      rw [split] at written
      obtain ⟨array,before,written⟩ := Option.bind_eq_some_iff.mp written
      rw [setFilter_getFilter array next _ filterId _ written,lastFilter,List.reverse_append,
        List.reverse_singleton,List.singleton_append,List.find?_cons]
      by_cases same : filterId = table.index language
      · subst same
        simp
      · rw [if_neg same,show (table.index language == filterId) = false by simpa using Ne.symm same]
        exact filters array before filterId inside

/-- Through tables that are all inside the array, and through no other tables. -/
theorem received_proper (language : Language) (tables : List Table) (filterId funcId : Nat)
    (small : funcId < 2^16) (payload : List UInt8) :
    Proper language tables filterId funcId payload
        (registered (·.dispatch filterId funcId payload) (register language tables)) ↔
      Dispatchable language tables filterId funcId := by
  obtain ⟨all,filters⟩ := register_filters language tables
  cases start : register language tables with
  | none =>
    constructor
    · rintro (refused | ⟨_,filter,callback,_,_,called⟩)
      · cases refused
      · cases called
    · intro ⟨inside,_⟩
      obtain ⟨array,begun⟩ := all.mpr inside
      rw [start] at begun
      cases begun
  | some array =>
    have tablesInside := all.mp ⟨array,start⟩
    by_cases inside : filterId < dispatchFilterMax
    · have found := filters array start filterId inside
      simp only [registered,DispatchFilterArray.dispatch,found]
      cases last : lastFilter language tables filterId with
      | none =>
        simp only [Option.elim_none,zero_dispatch]
        exact ⟨fun _ => ⟨tablesInside,inside,by simp [last]⟩,fun _ => .inl rfl⟩
      | some filter =>
        simp only [Option.elim_some]
        rcases filter_dispatch language filter funcId small payload with
          ⟨refused,apart⟩ | ⟨callback,named,called,apart⟩ | ⟨undefined,null⟩
        · rw [refused]
          exact ⟨fun _ => ⟨tablesInside,inside,by simpa [last] using apart⟩,fun _ => .inl rfl⟩
        · rw [called]
          exact ⟨fun _ => ⟨tablesInside,inside,by simpa [last] using apart⟩,
            fun _ => .inr ⟨inside,filter,callback,last,named,rfl⟩⟩
        · rw [undefined]
          constructor
          · rintro (refused | ⟨_,_,callback,_,_,called⟩)
            · cases refused
            · cases called
          · intro ⟨_,_,apart⟩
            exact absurd null (apart filter last)
    · have outside : array.getFilter filterId = none := by
        by_contra found
        obtain ⟨filter,found⟩ := Option.ne_none_iff_exists'.mp found
        exact inside ((getFilter_inside array filterId).mp ⟨filter,found⟩)
      simp only [registered,DispatchFilterArray.dispatch,outside]
      constructor
      · rintro (refused | ⟨within,_⟩)
        · cases refused
        · exact absurd within inside
      · intro ⟨_,within,_⟩
        exact absurd within inside

/-- Client packets, packets to a peer client and packets to a peer server. -/
theorem dispatch_proper (packetTables peerTables : List Table) (typeId filterId funcId : UInt16)
    (payload : List UInt8) :
    (Proper .ft packetTables (filterOf typeId).toNat (funcOf typeId).toNat payload
        (packetReceived packetTables typeId payload) ↔
      Dispatchable .ft packetTables (filterOf typeId).toNat (funcOf typeId).toNat) ∧
    (Proper .pr peerTables filterId.toNat funcId.toNat payload
        (peerClientReceived peerTables filterId funcId payload) ↔
      Dispatchable .pr peerTables filterId.toNat funcId.toNat) ∧
    (Proper .pr [] filterId.toNat funcId.toNat payload
        (peerServerReceived filterId funcId payload) ↔ filterId.toNat < dispatchFilterMax) := by
  refine ⟨received_proper .ft packetTables _ _ ?_ payload,
    received_proper .pr peerTables _ _ funcId.toNat_lt payload,?_⟩
  · have small := (funcOf typeId).toNat_lt
    omega
  · have received := received_proper .pr [] filterId.toNat funcId.toNat funcId.toNat_lt payload
    refine received.trans ?_
    simp [Dispatchable,lastFilter]

def pingFilter : Filter := ⟨[⟨"Ping",[]⟩]⟩

/-- The function id after the last one, and the filter id after the last place. -/
theorem null_called :
    ¬ Proper .ft [⟨1,pingFilter⟩] (filterOf 0x0101).toNat (funcOf 0x0101).toNat []
        (packetReceived [⟨1,pingFilter⟩] 0x0101 []) ∧
    ¬ Proper .ft [⟨1,pingFilter⟩] (filterOf 0xff00).toNat (funcOf 0xff00).toNat []
        (packetReceived [⟨1,pingFilter⟩] 0xff00 []) ∧
    ¬ Proper .pr [⟨1,pingFilter⟩] 1 1 [] (peerClientReceived [⟨1,pingFilter⟩] 1 1 []) ∧
    ¬ Proper .pr [] 255 0 [] (peerServerReceived 255 0 []) := by
  refine ⟨?_,?_,?_,?_⟩
  all_goals
    rintro (refused | ⟨_,_,_,_,_,called⟩)
    · cases refused
    · cases called

end Fantuan.Gen.Dispatching

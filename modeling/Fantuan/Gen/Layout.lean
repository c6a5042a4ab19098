import Fantuan.Gen.Receiving

/-! What any payload has for a function's parameters, one after the other until it ends, and
what the callback's statements make of it. The size of an array follows from the length in
front of it; the streams work it out in sixteen bits.
-/
namespace Fantuan.Gen.Layout
open Lib.Bytes StarNet.Packet StarNet.DataStream Declaration Emitted Generator Receiving

/-- What stands for a parameter: the length in front of it, and its bytes. -/
structure Entry where
  param : Param
  length : Nat
  bytes : List UInt8
  deriving DecidableEq

/-- The size of a value, of an array's element or of a character. -/
def unit (types : Types) (language : Language) (param : Param) : Option Nat :=
  if param.kind language = .string then some 1
  else types.sizeOf (typeName language param.paramType)

def cut (size : Nat) (bytes : List UInt8) : Option (List UInt8 × List UInt8) :=
  if size ≤ bytes.length then some (bytes.take size,bytes.drop size) else none

-- extent: what becomes of the product of length and size
def entry (types : Types) (language : Language) (extent : Nat → Nat) (param : Param)
    (bytes : List UInt8) : Option (Entry × List UInt8) := do
  let size ← unit types language param
  if param.kind language = .scalar then
    let (value,rest) ← cut size bytes
    some (⟨param,1,value⟩,rest)
  else
    let (front,rest) ← cut 2 bytes
    let (elements,rest) ← cut (extent (ofLe front * size)) rest
    some (⟨param,ofLe front,elements⟩,rest)

def entries (types : Types) (language : Language) (extent : Nat → Nat) :
    List Param → List UInt8 → List Entry
  | [],_ => []
  | param :: params,bytes =>
    match entry types language extent param bytes with
    | some (item,rest) => item :: entries types language extent params rest
    | none => []

def inFull (bytes : Nat) : Nat := bytes

def inSixteenBits (bytes : Nat) : Nat := bytes % 2^16

/-- FTGen: an element that is copied without a block, or a string as long as its buffer. -/
def Overruns (language : Language) (item : Entry) : Prop :=
  language = .ft ∧
    (item.param.kind .ft = .array ∧ isUserDefinedType .ft item.param.paramType = false ∧
        item.bytes ≠ [] ∨
      item.param.kind .ft = .string ∧ maxOutputBuffer ≤ item.bytes.length)

instance (language : Language) (item : Entry) : Decidable (Overruns language item) :=
  inferInstanceAs (Decidable (_ ∧ _))

/-- The bytes are there and written, no more and no fewer. The extent is what Serialize has
taken from the payload. -/
def Holds (payload : List UInt8) (extent length : Nat) : Target → Prop
  | .uninitialised => length = 0
  | .block memory => memory.length = length ∧ none ∉ memory
  | .payload offset => extent = length ∧ offset + length ≤ payload.length

/-- What the callback's variables are after an entry is read. -/
structure Stored (types : Types) (language : Language) (payload : List UInt8) (item : Entry)
    (state : RecvState) : Prop where
  scalar : item.param.kind language = .scalar →
    state.cells item.param.paramName = .value (some item.bytes)
  array : item.param.kind language = .array → ∃ size passed target,
    unit types language item.param = some size ∧
    state.lengths item.param.paramName = some passed ∧ passed.toNat = item.length ∧
    state.cells item.param.paramName = .pointer target ∧
    (Holds payload (arrayBytes size passed) (size * item.length) target ↔
      size * item.length = item.bytes.length)

/-- The callback compiles: its variables are declared once, their types are known, and the
size of an array is a number among the parameters. -/
structure Compiles (types : Types) (language : Language) (node : Node) : Prop where
  declares : (callback language node).declared.Nodup
  sized : ∀ param ∈ node.paramSet, (unit types language param).isSome
  counted : ∀ param ∈ node.paramSet, param.kind language = .array →
    ∃ count ∈ node.paramSet, count.paramName = param.paramSize ∧
      count.kind language = .scalar ∧ (types.toInt (typeName language count.paramType)).isSome

theorem compiles_names {types : Types} {language : Language} {node : Node}
    (compiles : Compiles types language node) :
    (node.paramSet.map Param.paramName).Nodup := by
  have decls : (callback language node).decls.map Decl.name =
      node.paramSet.map Param.paramName := by
    rw [callback,List.map_map]
    exact List.map_congr_left fun param _ => recvVariable_name language param
  have declares := compiles.declares
  rw [Callback.declared,declared,decls] at declares
  exact (List.nodup_append.mp (List.nodup_cons.mp (List.nodup_cons.mp declares).2).2).1

section Variables
variable {types : Types} {language : Language} {node : Node}

theorem find_name (params : List Param) (names : (params.map Param.paramName).Nodup)
    (param : Param) (listed : param ∈ params) :
    params.find? (fun other => other.paramName == param.paramName) = some param := by
  induction params with
  | nil => cases listed
  | cons first params ih =>
    obtain ⟨fresh,names⟩ := List.nodup_cons.mp names
    rw [List.find?_cons]
    rcases List.mem_cons.mp listed with rfl | listed
    · simp
    · have apart : first.paramName ≠ param.paramName := by
        intro same
        exact fresh (List.mem_map.mpr ⟨param,listed,same.symm⟩)
      rw [show (first.paramName == param.paramName) = false by simpa using apart]
      exact ih names listed

theorem variable_decl (compiles : Compiles types language node) (param : Param)
    (listed : param ∈ node.paramSet) :
    (callback language node).decl param.paramName = some (recvVariable language param) := by
  have found := find_name node.paramSet (compiles_names compiles) param listed
  rw [Callback.decl,callback,List.find?_map]
  simp only [Function.comp_def,recvVariable_name,found,Option.map_some]

/-- The variables of scalars hold values, read or not. -/
def Valued (language : Language) (node : Node) (state : RecvState) : Prop :=
  ∀ param ∈ node.paramSet, param.kind language = .scalar →
    ∃ bytes, state.cells param.paramName = .value bytes

theorem count_converted (compiles : Compiles types language node) (count : Param)
    (listed : count ∈ node.paramSet) (scalar : count.kind language = .scalar)
    (convert : List UInt8 → Int)
    (number : types.toInt (typeName language count.paramType) = some convert) (state : RecvState)
    (bytes : Option (List UInt8)) (cell : state.cells count.paramName = .value bytes) :
    state.toInt types (callback language node) count.paramName = some (bytes.map convert) := by
  rw [RecvState.toInt,variable_decl compiles count listed]
  simp [recvVariable,scalar,number,cell]

/-- The outcome of a parameter's statements on the bytes that are ahead. -/
def Reads (types : Types) (language : Language) (node : Node) (param : Param)
    (bytes : List UInt8) (state : RecvState) : Prop :=
  match entry types language inSixteenBits param bytes with
  | none => (recvStatements language param).foldlM (recvStatement types (callback language node))
      state = .error .refused
  | some (item,rest) =>
    item.param = param ∧
    (Overruns language item →
      (recvStatements language param).foldlM (recvStatement types (callback language node)) state =
        .error .undefined) ∧
    (¬ Overruns language item →
      ∃ next, (recvStatements language param).foldlM (recvStatement types (callback language node))
          state = .ok next ∧
        Ahead next.stream rest ∧ next.stream.data = state.stream.data ∧
        Stored types language state.stream.data item next ∧
        ∀ other, other ≠ param.paramName →
          next.cells other = state.cells other ∧ next.lengths other = state.lengths other)

theorem reads_scalar (compiles : Compiles types language node) (param : Param)
    (listed : param ∈ node.paramSet) (isScalar : param.kind language = .scalar)
    (bytes : List UInt8) (state : RecvState) (ahead : Ahead state.stream bytes) :
    Reads types language node param bytes state := by
  obtain ⟨size,sized⟩ := Option.isSome_iff_exists.mp (compiles.sized param listed)
  have known : types.sizeOf (typeName language param.paramType) = some size := by
    rw [unit,if_neg (by simp [isScalar])] at sized
    exact sized
  have valueSize : (recvVariable language param).valueSize types = some size := by
    simp [recvVariable,isScalar,Decl.valueSize,known]
  have statements : recvStatements language param = [.serialize param.paramName] := by
    cases language <;> simp [recvStatements,isScalar]
  rw [Reads,entry,sized,Option.bind_eq_bind,Option.bind_some,if_pos isScalar,cut,statements]
  simp only [List.foldlM_cons,List.foldlM_nil,recvStatement,variable_decl compiles param listed,
    valueSize,orStop_some,ok_bind]
  by_cases enough : size ≤ bytes.length
  · obtain ⟨next,read,later,data,_⟩ := serialize_part state.stream bytes size ahead enough
    simp only [if_pos enough,read,orStop_some,ok_bind,Option.bind_eq_bind,Option.bind_some]
    refine ⟨trivial,?_,fun _ => ⟨_,rfl,later,data,⟨fun _ => Function.update_self ..,?_⟩,?_⟩⟩
    · rintro ⟨rfl,⟨isArray,_⟩ | ⟨isString,_⟩⟩
      · rw [isScalar] at isArray
        cases isArray
      · rw [isScalar] at isString
        cases isString
    · intro isArray
      rw [isScalar] at isArray
      cases isArray
    · intro other different
      exact ⟨Function.update_of_ne different ..,rfl⟩
  · simp only [if_neg enough,Option.bind_eq_bind,Option.bind_none,
      serialize_short state.stream bytes size ahead (by omega)]
    rfl

theorem reads_string (param : Param) (isString : param.kind .ft = .string)
    (bytes : List UInt8) (state : RecvState)
    (empty : state.cells param.paramName = .text []) (ahead : Ahead state.stream bytes) :
    Reads types .ft node param bytes state := by
  have statements : recvStatements .ft param =
      [.serializeStringLength,.serializeString param.paramName,.terminate param.paramName] := by
    simp [recvStatements,isString]
  have sized : unit types .ft param = some 1 := if_pos isString
  rw [Reads,entry,sized,Option.bind_eq_bind,Option.bind_some,if_neg (by simp [isString]),cut,
    statements]
  simp only [List.foldlM_cons,List.foldlM_nil,recvStatement]
  by_cases front : 2 ≤ bytes.length
  · obtain ⟨middle,counted,elements,data,_⟩ := serialize_part state.stream bytes 2 ahead front
    simp only [if_pos front,counted,orStop_some,ok_bind,Option.bind_eq_bind,Option.bind_some]
    have small : ofLe (bytes.take 2) < 2^16 := by
      have bound := ofLe_lt (bytes.take 2)
      rw [List.length_take_of_le front] at bound
      exact bound
    have passed : (UInt16.ofNat (ofLe (bytes.take 2))).toNat = ofLe (bytes.take 2) := by
      rw [UInt16.toNat_ofNat']
      exact Nat.mod_eq_of_lt small
    have extent : inSixteenBits (ofLe (bytes.take 2) * 1) = ofLe (bytes.take 2) := by
      rw [inSixteenBits,Nat.mul_one]
      exact Nat.mod_eq_of_lt small
    rw [extent,passed,cut]
    by_cases enough : ofLe (bytes.take 2) ≤ (bytes.drop 2).length
    · obtain ⟨next,read,later,nextData,_⟩ :=
        serialize_part middle (bytes.drop 2) _ elements enough
      have length : ((bytes.drop 2).take (ofLe (bytes.take 2))).length = ofLe (bytes.take 2) :=
        List.length_take_of_le enough
      simp only [if_pos enough,read,orStop_some,ok_bind,Option.bind_some,empty,length]
      refine ⟨trivial,?_,?_⟩
      · rintro ⟨_,⟨isArray,_⟩ | ⟨_,long⟩⟩
        · rw [isString] at isArray
          cases isArray
        · rw [length] at long
          by_cases fits : ofLe (bytes.take 2) ≤ maxOutputBuffer
          · simp only [if_pos fits,RecvState.set,Function.update_self,orStop_some,ok_bind,passed,
              if_neg (Nat.not_lt.mpr long)]
            rfl
          · simp only [if_neg fits]
            rfl
      · intro inside
        have short : ofLe (bytes.take 2) < maxOutputBuffer := by
          by_contra long
          exact inside ⟨rfl,.inr ⟨isString,by rw [length]; exact Nat.not_lt.mp long⟩⟩
        simp only [if_pos (Nat.le_of_lt short),RecvState.set,Function.update_self,orStop_some,
          ok_bind,passed,if_pos short,Function.update_idem]
        refine ⟨_,rfl,later,nextData.trans data,⟨?_,?_⟩,?_⟩
        · intro isScalar
          rw [isString] at isScalar
          cases isScalar
        · intro isArray
          rw [isString] at isArray
          cases isArray
        · intro other different
          exact ⟨Function.update_of_ne different ..,rfl⟩
    · have past := serialize_short middle (bytes.drop 2) (ofLe (bytes.take 2)) elements (by omega)
      simp only [if_neg enough,Option.bind_none,past]
      rfl
  · simp only [if_neg front,Option.bind_eq_bind,Option.bind_none,
      serialize_short state.stream bytes 2 ahead (by omega)]
    rfl

theorem front_read (compiles : Compiles types language node) (param : Param)
    (listed : param ∈ node.paramSet) (isArray : param.kind language = .array)
    (bytes : List UInt8) (state : RecvState) (valued : Valued language node state)
    (ahead : Ahead state.stream bytes) :
    (bytes.length < 2 → [Statement.assignLength param.paramName param.paramSize,
        .serializeLength param.paramName].foldlM (recvStatement types (callback language node))
          state = .error .refused) ∧
    (2 ≤ bytes.length → ∃ middle,
      [Statement.assignLength param.paramName param.paramSize,
        .serializeLength param.paramName].foldlM (recvStatement types (callback language node))
          state = .ok {state with stream := middle,
                                  lengths := Function.update state.lengths param.paramName
                                    (some (UInt16.ofNat (ofLe (bytes.take 2))))} ∧
      Ahead middle (bytes.drop 2) ∧ middle.data = state.stream.data ∧
      middle.dataIndex = state.stream.dataIndex + 2) := by
  obtain ⟨count,member,named,scalar,number⟩ := compiles.counted param listed isArray
  obtain ⟨convert,number⟩ := Option.isSome_iff_exists.mp number
  obtain ⟨value,cell⟩ := valued count member scalar
  have converted := count_converted compiles count member scalar convert number state value cell
  rw [named] at converted
  simp only [List.foldlM_cons,List.foldlM_nil,recvStatement,converted,orStop_some,ok_bind]
  constructor
  · intro short
    rw [serialize_short state.stream bytes 2 ahead short]
    rfl
  · intro front
    obtain ⟨middle,read,later,data,index⟩ := serialize_part state.stream bytes 2 ahead front
    refine ⟨middle,?_,later,data,index⟩
    simp only [read,orStop_some,ok_bind,Function.update_idem]
    rfl

theorem front_small (bytes : List UInt8) (front : 2 ≤ bytes.length) :
    (UInt16.ofNat (ofLe (bytes.take 2))).toNat = ofLe (bytes.take 2) := by
  have bound := ofLe_lt (bytes.take 2)
  rw [List.length_take_of_le front] at bound
  rw [UInt16.toNat_ofNat']
  exact Nat.mod_eq_of_lt bound

/-- An array after its length is read, and what its elements take. -/
structure Counted (types : Types) (language : Language) (node : Node) (param : Param)
    (state : RecvState) (size : Nat) (passed : UInt16) (rest : List UInt8) : Prop where
  isArray : param.kind language = .array
  sized : unit types language param = some size
  declared : (callback language node).decl param.paramName = some (recvVariable language param)
  pointed : (recvVariable language param).pointedSize types = some size
  assigned : state.lengths param.paramName = some passed
  empty : state.cells param.paramName = .pointer .uninitialised
  ahead : Ahead state.stream rest

/-- What is left of an array's statements, on elements that are all there. -/
def ReadsElements (types : Types) (language : Language) (node : Node) (param : Param)
    (state : RecvState) (item : Entry) (rest : List UInt8) (statements : List Statement) : Prop :=
  (Overruns language item →
    statements.foldlM (recvStatement types (callback language node)) state = .error .undefined) ∧
  (¬ Overruns language item →
    ∃ next, statements.foldlM (recvStatement types (callback language node)) state = .ok next ∧
      Ahead next.stream rest ∧ next.stream.data = state.stream.data ∧
      next.lengths = state.lengths ∧
      ∃ target, next.cells = Function.update state.cells param.paramName (.pointer target) ∧
        ∀ size passed, unit types language param = some size →
          state.lengths param.paramName = some passed →
          (Holds state.stream.data (arrayBytes size passed) (size * item.length) target ↔
            size * item.length = item.bytes.length))

section Elements
variable {param : Param} {state : RecvState} {size : Nat} {passed : UInt16} {rest : List UInt8}

/-- PRGen: the pointer is set into the payload. -/
theorem elements_inPlace (counted : Counted types .pr node param state size passed rest)
    (enough : arrayBytes size passed ≤ rest.length) :
    ReadsElements types .pr node param state
      ⟨param,passed.toNat,rest.take (arrayBytes size passed)⟩ (rest.drop (arrayBytes size passed))
      [.serializeArray param.paramName] := by
  obtain ⟨next,read,later,data,index⟩ :=
    serialize_part state.stream rest (arrayBytes size passed) counted.ahead enough
  have length : (rest.take (arrayBytes size passed)).length = arrayBytes size passed :=
    List.length_take_of_le enough
  refine ⟨fun overruns => (nomatch overruns.1),fun _ =>
    ⟨state.set param.paramName (.pointer (.payload state.stream.dataIndex)) next,?_,later,data,rfl,
      .payload state.stream.dataIndex,rfl,?_⟩⟩
  · simp only [List.foldlM_cons,List.foldlM_nil,recvStatement,counted.declared,counted.pointed,
      counted.assigned,read,orStop_some,ok_bind,counted.empty]
    rfl
  · intro other sent sized assigned
    rw [counted.sized] at sized
    rw [counted.assigned] at assigned
    obtain rfl := Option.some.inj sized
    obtain rfl := Option.some.inj assigned
    have inside := next.inside
    rw [index,data] at inside
    rw [length,Holds]
    constructor
    · intro holds
      exact holds.1.symm
    · intro exact
      exact ⟨exact.symm,by omega⟩

/-- FTGen, elements of a type of its own: a block that holds as many as the length says. -/
theorem elements_copied (counted : Counted types .ft node param state size passed rest)
    (own : isUserDefinedType .ft param.paramType = true)
    (enough : arrayBytes size passed ≤ rest.length) :
    ReadsElements types .ft node param state
      ⟨param,passed.toNat,rest.take (arrayBytes size passed)⟩ (rest.drop (arrayBytes size passed))
      [.malloca param.paramName,.serializeArray param.paramName] := by
  obtain ⟨next,read,later,data,_⟩ :=
    serialize_part state.stream rest (arrayBytes size passed) counted.ahead enough
  have length : (rest.take (arrayBytes size passed)).length = arrayBytes size passed :=
    List.length_take_of_le enough
  have room : arrayBytes size passed ≤ size * passed.toNat := by
    rw [arrayBytes,Nat.mul_comm]
    exact Nat.mod_le _ _
  let target := filled (rest.take (arrayBytes size passed))
    (size * passed.toNat - arrayBytes size passed)
  have copied : (Target.block (List.replicate (size * passed.toNat) none)).copy
      (rest.take (arrayBytes size passed)) = some target := by
    rw [Target.copy,length,List.length_replicate,if_pos room,List.drop_replicate]
    rfl
  have copies : (callback .ft node).streamClass = .inputStream := rfl
  constructor
  · rintro ⟨_,⟨_,number,_⟩ | ⟨isString,_⟩⟩
    · rw [own] at number
      cases number
    · rw [counted.isArray] at isString
      cases isString
  · intro _
    refine ⟨(state.set param.paramName (.pointer (.block
        (List.replicate (size * passed.toNat) none))) state.stream).set param.paramName
          (.pointer target) next,?_,later,data,rfl,target,?_,?_⟩
    · simp only [List.foldlM_cons,List.foldlM_nil,recvStatement,counted.declared,counted.pointed,
        counted.assigned,orStop_some,ok_bind,RecvState.set,Function.update_self,read,copies,copied]
      rfl
    · simp only [RecvState.set,Function.update_idem]
    · intro other sent sized assigned
      rw [counted.sized] at sized
      rw [counted.assigned] at assigned
      obtain rfl := Option.some.inj sized
      obtain rfl := Option.some.inj assigned
      rw [length]
      simp only [target,filled,Holds,List.length_append,List.length_map,length,
        List.length_replicate,List.mem_append,List.mem_map,List.mem_replicate,reduceCtorEq,
        and_false,exists_false,false_or,and_true,not_not]
      omega

/-- FTGen, elements of a number type: there is no block. -/
theorem elements_wild (counted : Counted types .ft node param state size passed rest)
    (number : isUserDefinedType .ft param.paramType = false)
    (enough : arrayBytes size passed ≤ rest.length) :
    ReadsElements types .ft node param state
      ⟨param,passed.toNat,rest.take (arrayBytes size passed)⟩ (rest.drop (arrayBytes size passed))
      [.serializeArray param.paramName] := by
  obtain ⟨next,read,later,data,_⟩ :=
    serialize_part state.stream rest (arrayBytes size passed) counted.ahead enough
  have copies : (callback .ft node).streamClass = .inputStream := rfl
  constructor
  · rintro ⟨_,⟨_,_,some⟩ | ⟨isString,_⟩⟩
    · simp only [List.foldlM_cons,List.foldlM_nil,recvStatement,counted.declared,counted.pointed,
        counted.assigned,orStop_some,ok_bind,read,copies,counted.empty,Target.copy,if_neg some]
      rfl
    · rw [counted.isArray] at isString
      cases isString
  · intro inside
    have none : rest.take (arrayBytes size passed) = [] := by
      by_contra some
      exact inside ⟨rfl,.inl ⟨counted.isArray,number,some⟩⟩
    refine ⟨state.set param.paramName (.pointer .uninitialised) next,?_,later,data,rfl,
      .uninitialised,rfl,?_⟩
    · simp only [List.foldlM_cons,List.foldlM_nil,recvStatement,counted.declared,counted.pointed,
        counted.assigned,orStop_some,ok_bind,read,copies,counted.empty,Target.copy,none,if_true]
      rfl
    · intro other sent sized assigned
      rw [counted.sized] at sized
      obtain rfl := Option.some.inj sized
      rw [none]
      exact Iff.rfl

/-- Elements that are not all there: the callback returns false. -/
theorem elements_missing (counted : Counted types language node param state size passed rest)
    (missing : rest.length < arrayBytes size passed) (allocates : Bool) :
    (if allocates then [Statement.malloca param.paramName,.serializeArray param.paramName]
      else [.serializeArray param.paramName]).foldlM
        (recvStatement types (callback language node)) state = .error .refused := by
  have past := serialize_short state.stream rest _ counted.ahead missing
  cases allocates
  all_goals
    simp only [if_true,if_false,Bool.false_eq_true,List.foldlM_cons,List.foldlM_nil,recvStatement,
      counted.declared,counted.pointed,counted.assigned,orStop_some,ok_bind,RecvState.set,past]
    rfl

end Elements

/-- Whether FTGen emits a _malloca for an array. -/
def allocates (language : Language) (param : Param) : Bool :=
  language == .ft && isUserDefinedType .ft param.paramType

theorem array_statements (param : Param) (isArray : param.kind language = .array) :
    recvStatements language param =
      [Statement.assignLength param.paramName param.paramSize,Statement.serializeLength param.paramName] ++
        if allocates language param then
          [Statement.malloca param.paramName,Statement.serializeArray param.paramName]
        else [Statement.serializeArray param.paramName] := by
  cases language with
  | ft =>
    cases own : isUserDefinedType .ft param.paramType with
    | true => simp [recvStatements,isArray,own,allocates]
    | false => simp [recvStatements,isArray,own,allocates]
  | pr => simp [recvStatements,isArray,allocates]

theorem elements_read {param : Param} {state : RecvState} {size : Nat} {passed : UInt16}
    {rest : List UInt8} (counted : Counted types language node param state size passed rest)
    (enough : arrayBytes size passed ≤ rest.length) :
    ReadsElements types language node param state
      ⟨param,passed.toNat,rest.take (arrayBytes size passed)⟩ (rest.drop (arrayBytes size passed))
      (if allocates language param then
        [.malloca param.paramName,.serializeArray param.paramName]
      else [.serializeArray param.paramName]) := by
  cases language with
  | pr => exact elements_inPlace counted enough
  | ft =>
    cases own : isUserDefinedType .ft param.paramType with
    | true =>
      rw [show allocates .ft param = true by simp [allocates,own],if_pos rfl]
      exact elements_copied counted own enough
    | false =>
      rw [show allocates .ft param = false by simp [allocates,own],if_neg Bool.false_ne_true]
      exact elements_wild counted own enough

theorem reads_array (compiles : Compiles types language node) (param : Param)
    (listed : param ∈ node.paramSet) (isArray : param.kind language = .array)
    (bytes : List UInt8) (state : RecvState) (valued : Valued language node state)
    (empty : state.cells param.paramName = .pointer .uninitialised)
    (ahead : Ahead state.stream bytes) :
    Reads types language node param bytes state := by
  obtain ⟨size,sized⟩ := Option.isSome_iff_exists.mp (compiles.sized param listed)
  have pointed : (recvVariable language param).pointedSize types = some size := by
    rw [unit,if_neg (by simp [isArray])] at sized
    simp [recvVariable,isArray,Decl.pointedSize,sized]
  obtain ⟨short,whole⟩ := front_read compiles param listed isArray bytes state valued ahead
  rw [Reads,entry,sized,Option.bind_eq_bind,Option.bind_some,if_neg (by simp [isArray]),cut,
    array_statements param isArray,List.foldlM_append]
  by_cases front : 2 ≤ bytes.length
  · obtain ⟨middle,counting,elements,data,_⟩ := whole front
    have passed := front_small bytes front
    simp only [if_pos front,counting,ok_bind,Option.bind_eq_bind,Option.bind_some]
    have counted : Counted types language node param
        {state with stream := middle,
                    lengths := Function.update state.lengths param.paramName
                      (some (UInt16.ofNat (ofLe (bytes.take 2))))} size
        (UInt16.ofNat (ofLe (bytes.take 2))) (bytes.drop 2) :=
      ⟨isArray,sized,variable_decl compiles param listed,pointed,Function.update_self ..,empty,
        elements⟩
    have extent : inSixteenBits (ofLe (bytes.take 2) * size) =
        arrayBytes size (UInt16.ofNat (ofLe (bytes.take 2))) := by
      rw [arrayBytes,passed,inSixteenBits]
    rw [extent,cut]
    by_cases enough : arrayBytes size (UInt16.ofNat (ofLe (bytes.take 2))) ≤ (bytes.drop 2).length
    · obtain ⟨wild,safe⟩ := elements_read counted enough
      rw [passed] at wild safe
      simp only [if_pos enough,Option.bind_some]
      refine ⟨trivial,wild,?_⟩
      intro inside
      obtain ⟨next,ran,later,nextData,lengths,target,cells,holds⟩ := safe inside
      refine ⟨next,ran,later,nextData.trans data,⟨?_,?_⟩,?_⟩
      · intro isScalar
        rw [isArray] at isScalar
        cases isScalar
      · intro _
        refine ⟨size,_,target,sized,?_,passed,?_,?_⟩
        · rw [lengths]
          exact Function.update_self ..
        · rw [cells]
          exact Function.update_self ..
        · have exact := holds size _ sized (Function.update_self ..)
          rw [show middle.data = state.stream.data from data] at exact
          exact exact
      · intro other different
        rw [cells,lengths]
        exact ⟨Function.update_of_ne different ..,Function.update_of_ne different ..⟩
    · simp only [if_neg enough,Option.bind_none]
      exact elements_missing counted (by omega) _
  · rw [short (by omega)]
    simp only [if_neg front,Option.bind_eq_bind,Option.bind_none]
    rfl

theorem string_language (param : Param) (isString : param.kind language = .string) :
    language = .ft := by
  cases language with
  | ft => rfl
  | pr =>
    simp only [Param.kind] at isString
    split at isString
    · cases isString
    · simp at isString

theorem param_reads (compiles : Compiles types language node) (param : Param)
    (listed : param ∈ node.paramSet) (bytes : List UInt8) (state : RecvState)
    (valued : Valued language node state)
    (untouched : state.cells param.paramName = (recvVariable language param).form.initial)
    (ahead : Ahead state.stream bytes) : Reads types language node param bytes state := by
  cases kind : param.kind language with
  | scalar => exact reads_scalar compiles param listed kind bytes state ahead
  | string =>
    obtain rfl := string_language param kind
    refine reads_string param kind bytes state ?_ ahead
    rw [untouched]
    simp [recvVariable,kind,Form.initial]
  | array =>
    refine reads_array compiles param listed kind bytes state valued ?_ ahead
    rw [untouched]
    simp [recvVariable,kind,Form.initial]

end Variables

end Fantuan.Gen.Layout

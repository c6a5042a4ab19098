import Fantuan.Gen.Sending
import Mathlib.Data.List.TakeDrop
import Mathlib.Data.List.TakeWhile

/-! What a callback makes of the encodings of its arguments. A parameter's statements read
the parameter's encoding into its variable, or they write through a pointer that points
nowhere; the other variables stay as they are.
-/
namespace Fantuan.Gen.Receiving
open Lib.Bytes StarNet.Packet StarNet.DataStream Declaration Emitted Generator Call Sending

/-- A length that sixteen bits hold, and for FTGen no elements of a type of its own. -/
def Carried (language : Language) (param : Param) (arg : List UInt8) : Prop :=
  (param.kind language ≠ .scalar → arg.length < 2^16) ∧
  (param.kind language = .array → language = .ft →
    isUserDefinedType .ft param.paramType = false → arg = [])

instance (language : Language) (param : Param) (arg : List UInt8) :
    Decidable (Carried language param arg) :=
  inferInstanceAs (Decidable (_ ∧ _))

/-- The variable holds what was sent; it holds the argument if the argument is carried. -/
structure Landed (language : Language) (payload : List UInt8) (param : Param)
    (arg : List UInt8) (cell : Cell) : Prop where
  scalar : param.kind language = .scalar → cell = .value (some arg)
  string : param.kind language = .string → ∃ content, cell = .text content ∧
    (content.takeWhile (· != 0) = arg ↔ Carried language param arg)
  array : param.kind language = .array → ∃ target, cell = .pointer target ∧
    (target.read payload arg.length = some arg ↔ Carried language param arg)

@[simp] theorem orStop_some {α : Type} (stop : Stop) (value : α) :
    orStop stop (some value) = .ok value := rfl

@[simp] theorem ok_bind {α β : Type} (value : α) (next : α → Except Stop β) :
    (Except.ok value >>= next) = next value := rfl

@[simp] theorem error_bind {α β : Type} (stop : Stop) (next : α → Except Stop β) :
    ((Except.error stop : Except Stop α) >>= next) = .error stop := rfl

theorem mapM_id (bytes : List UInt8) (memory : List (Option UInt8)) :
    memory.mapM id = some bytes ↔ memory = bytes.map some := by
  induction memory generalizing bytes with
  | nil => cases bytes <;> simp
  | cons first memory ih =>
    cases first with
    | none => cases bytes <;> simp
    | some byte =>
      cases bytes with
      | nil => simp [Option.bind_eq_some_iff]
      | cons other bytes => simp [Option.bind_eq_some_iff,← ih,and_comm]

/-- A block that these bytes were copied into, and so much of it is left. -/
def filled (bytes : List UInt8) (left : Nat) : Target :=
  .block (bytes.map some ++ List.replicate left none)

theorem block_read (payload arg : List UInt8) (written left : Nat) :
    (filled (arg.take written) left).read payload arg.length = some arg ↔
      arg.length ≤ written := by
  rw [filled]
  constructor
  · intro read
    by_contra short
    simp only [Target.read] at read
    split at read
    next inside =>
      rw [mapM_id] at read
      have unwritten : none ∈ arg.map some := by
        rw [← read,List.take_append,List.mem_append]
        right
        simp only [List.length_append,List.length_map,List.length_take,List.length_replicate]
          at inside ⊢
        rw [List.take_replicate,List.mem_replicate]
        exact ⟨by omega,rfl⟩
      simp at unwritten
    · cases read
  · intro whole
    rw [List.take_of_length_le whole,Target.read,if_pos (by simp),mapM_id,
      List.take_left' (List.length_map ..)]

theorem payload_read (payload arg rest : List UInt8) (offset : Nat)
    (short : payload.length ≤ 2^16) (inside : offset ≤ payload.length) (later : 0 < offset)
    (sent : payload.drop offset = arg.take (arg.length % 2^16) ++ rest) :
    (Target.payload offset).read payload arg.length = some arg ↔ arg.length < 2^16 := by
  constructor
  · intro read
    rw [Target.read] at read
    split at read
    next fits => omega
    · cases read
  · intro small
    rw [Nat.mod_eq_of_lt small,List.take_of_length_le (Nat.le_refl _)] at sent
    have lengths := congrArg List.length sent
    rw [List.length_drop,List.length_append] at lengths
    rw [Target.read,if_pos (by omega),sent,List.take_left]

theorem ahead_length (stream : InputStream) (length : Nat) (rest : List UInt8)
    (ahead : Ahead stream (le 2 length ++ rest)) :
    ∃ next, stream.serialize 2 = some (le 2 length,next) ∧ Ahead next rest ∧
      next.data = stream.data ∧ next.dataIndex = stream.dataIndex + 2 := by
  obtain ⟨next,read,later,data,index⟩ := serialize_ahead stream (le 2 length) rest ahead
  rw [length_le] at read index
  exact ⟨next,read,later,data,index⟩

theorem length_read (length : Nat) (small : length < 2^16) :
    (UInt16.ofNat (ofLe (le 2 length))).toNat = length := by
  rw [ofLe_le 2 length (by omega),UInt16.toNat_ofNat']
  omega

theorem ahead_part (stream : InputStream) (arg rest : List UInt8) (length : Nat)
    (part : length ≤ arg.length) (ahead : Ahead stream (arg.take length ++ rest)) :
    ∃ next, stream.serialize length = some (arg.take length,next) ∧ Ahead next rest ∧
      next.data = stream.data ∧ next.dataIndex = stream.dataIndex + length := by
  obtain ⟨next,read,later,data,index⟩ := serialize_ahead stream (arg.take length) rest ahead
  rw [List.length_take_of_le part] at read index
  exact ⟨next,read,later,data,index⟩

theorem recvVariable_name (language : Language) (param : Param) :
    (recvVariable language param).name = param.paramName := by
  unfold recvVariable
  split <;> rfl

/-- Either the encoding is read into the parameter's variable, or the argument is not carried
and the callback writes through a pointer that points nowhere. -/
def Receives (types : Types) (language : Language) (node : Node) (param : Param)
    (arg rest : List UInt8) (state : RecvState) : Prop :=
  (∃ next cell, (recvStatements language param).foldlM
      (recvStatement types (callback language node)) state = .ok next ∧
    Ahead next.stream rest ∧ next.stream.data = state.stream.data ∧
    next.cells = Function.update state.cells param.paramName cell ∧
    Landed language state.stream.data param arg cell) ∨
  ((recvStatements language param).foldlM
      (recvStatement types (callback language node)) state = .error .undefined ∧
    ¬ Carried language param arg)

/-- The variables of scalars hold values, read or not. -/
def Typed (language : Language) (bindings : Bindings) (state : RecvState) : Prop :=
  ∀ binding ∈ bindings, binding.1.kind language = .scalar →
    ∃ bytes, state.cells binding.1.paramName = .value bytes

section Callbacks
variable {types : Types} {language : Language} {node : Node}
  (arguments : Arguments types language node)

theorem decl_find (name : String) :
    (callback language node).decl name =
      (arguments.bindings.find? fun binding => binding.1.paramName == name).map fun binding =>
        recvVariable language binding.1 := by
  have decls : (callback language node).decls =
      arguments.bindings.map fun binding => recvVariable language binding.1 := by
    rw [callback,← bindings_params arguments,List.map_map]
    rfl
  rw [Callback.decl,decls,List.find?_map]
  congr 2
  funext binding
  simp [recvVariable_name]

theorem decl_param (distinct : Distinct arguments.bindings) (param : Param) (arg : List UInt8)
    (listed : (param,arg) ∈ arguments.bindings) :
    (callback language node).decl param.paramName = some (recvVariable language param) := by
  rw [decl_find arguments,bindings_find arguments.bindings distinct (param,arg) listed]
  rfl

theorem count_toInt (name : String) (count : Nat) (state : RecvState)
    (counted : countOf types language arguments.bindings name = some count) :
    ∃ binding convert, binding ∈ arguments.bindings ∧ binding.1.paramName = name ∧
      binding.1.kind language = .scalar ∧ convert binding.2 = (count : Int) ∧
      ∀ bytes, state.cells name = .value bytes →
        state.toInt types (callback language node) name = some (bytes.map convert) := by
  obtain ⟨param,bytes,convert,found,scalar,number,value⟩ :=
    count_scalar types language arguments.bindings name count counted
  refine ⟨(param,bytes),convert,List.mem_of_find?_eq_some found,?_,scalar,value,?_⟩
  · simpa using List.find?_some found
  · intro read cell
    rw [RecvState.toInt,decl_find arguments,found]
    simp [recvVariable,scalar,number,cell]

theorem count_received (param : Param) (count : Nat) (rest : List UInt8) (state : RecvState)
    (typed : Typed language arguments.bindings state)
    (counted : countOf types language arguments.bindings param.paramSize = some count)
    (ahead : Ahead state.stream (le 2 (count % 2^16) ++ rest)) :
    ∃ next length, [Statement.assignLength param.paramName param.paramSize,
        .serializeLength param.paramName].foldlM
          (recvStatement types (callback language node)) state = .ok next ∧
      Ahead next.stream rest ∧ next.stream.data = state.stream.data ∧
      next.stream.dataIndex = state.stream.dataIndex + 2 ∧ next.cells = state.cells ∧
      next.lengths param.paramName = some length ∧ length.toNat = count % 2^16 := by
  obtain ⟨binding,convert,listed,named,scalar,_,converts⟩ :=
    count_toInt arguments param.paramSize count state counted
  obtain ⟨bytes,cell⟩ := typed binding listed scalar
  rw [named] at cell
  obtain ⟨next,read,later,data,index⟩ := ahead_length state.stream _ rest ahead
  refine ⟨{state with stream := next,
                      lengths := Function.update state.lengths param.paramName
                        (some (UInt16.ofNat (ofLe (le 2 (count % 2^16)))))},_,?_,
    later,data,index,rfl,Function.update_self ..,length_read _ (Nat.mod_lt _ (by decide))⟩
  simp only [List.foldlM_cons,List.foldlM_nil,recvStatement,converts bytes cell,orStop_some,ok_bind,
    read,Function.update_idem]
  rfl

end Callbacks

/-- How an array's count and the bytes of its elements are read. -/
structure ArrayRead (types : Types) (callback : Callback) (param : Param) (arg rest : List UInt8)
    (state middle : RecvState) (decl : Decl) (size : Nat) (passed : UInt16)
    (next : InputStream) : Prop where
  declared : callback.decl param.paramName = some decl
  pointed : decl.pointedSize types = some size
  counting : [Statement.assignLength param.paramName param.paramSize,
    .serializeLength param.paramName].foldlM (recvStatement types callback) state = .ok middle
  assigned : middle.lengths param.paramName = some passed
  cells : middle.cells = state.cells
  data : middle.stream.data = state.stream.data
  started : 0 < middle.stream.dataIndex
  sent : middle.stream.data.drop middle.stream.dataIndex = arg.take (arg.length % 2^16) ++ rest
  room : arg.length % 2^16 ≤ size * passed.toNat
  read : middle.stream.serialize (arrayBytes size passed) =
    some (arg.take (arg.length % 2^16),next)
  later : Ahead next rest
  nextData : next.data = middle.stream.data

theorem array_read {types : Types} {language : Language} {node : Node}
    (arguments : Arguments types language node) (distinct : Distinct arguments.bindings)
    (param : Param) (arg rest : List UInt8) (listed : (param,arg) ∈ arguments.bindings)
    (isArray : param.kind language = .array) (state : RecvState)
    (typed : Typed language arguments.bindings state)
    (ahead : Ahead state.stream (encode types language arguments.bindings param arg ++ rest)) :
    ∃ middle decl size passed next,
      ArrayRead types (callback language node) param arg rest state middle decl size passed
        next := by
  obtain ⟨size,count,sized,counted,length⟩ := array_length types language arguments.bindings
    param arg.length ((arguments.fit (param,arg) listed).1 isArray)
  have pointed : (recvVariable language param).pointedSize types = some size := by
    simp [recvVariable,isArray,Decl.pointedSize,sized]
  have encoded : encode types language arguments.bindings param arg ++ rest =
      le 2 (count % 2^16) ++ (arg.take (arg.length % 2^16) ++ rest) := by
    rw [encode,isArray,counted,List.append_assoc]
    rfl
  rw [encoded] at ahead
  obtain ⟨middle,passed,counting,elements,data,index,cells,assigned,same⟩ :=
    count_received arguments param count _ state typed counted ahead
  obtain ⟨next,read,later,nextData,_⟩ :=
    ahead_part middle.stream arg rest (arg.length % 2^16) (Nat.mod_le _ _) elements
  refine ⟨middle,_,size,passed,next,⟨decl_param arguments distinct param arg listed,pointed,
    counting,assigned,cells,data,by omega,elements.2,?_,?_,later,nextData⟩⟩
  · rw [length,same,← Nat.mul_mod_mod]
    exact Nat.mod_le _ _
  · rw [arrayBytes_count size count passed same,← length]
    exact read

section Arrays
variable {types : Types} {node : Node} {param : Param} {arg rest : List UInt8}
  {state middle : RecvState} {decl : Decl} {size : Nat} {passed : UInt16} {next : InputStream}

/-- PRGen: the pointer is set to the elements in the payload. -/
theorem array_inPlace (isArray : param.kind .pr = .array)
    (array : ArrayRead types (callback .pr node) param arg rest state middle decl size passed next)
    (short : state.stream.data.length ≤ 2^16)
    (empty : state.cells param.paramName = .pointer .uninitialised) :
    Receives types .pr node param arg rest state := by
  left
  have statements : recvStatements .pr param =
      [Statement.assignLength param.paramName param.paramSize,Statement.serializeLength param.paramName] ++
        [Statement.serializeArray param.paramName] := by
    simp [recvStatements,isArray]
  refine ⟨middle.set param.paramName (.pointer (.payload middle.stream.dataIndex)) next,
    .pointer (.payload middle.stream.dataIndex),?_,array.later,array.nextData.trans array.data,
    ?_,?_⟩
  · rw [statements,List.foldlM_append,array.counting,ok_bind]
    simp only [List.foldlM_cons,List.foldlM_nil,recvStatement,array.declared,array.pointed,
      array.assigned,array.read,orStop_some,ok_bind,array.cells,empty]
    rfl
  · rw [RecvState.set,array.cells]
  · have inside := middle.stream.inside
    have holds := payload_read middle.stream.data arg rest middle.stream.dataIndex
      (by rw [array.data]; exact short) (by omega) array.started array.sent
    rw [array.data] at holds
    refine ⟨by simp [isArray],by simp [isArray],fun _ => ⟨_,rfl,?_⟩⟩
    simp [holds,Carried,isArray]

/-- FTGen, elements of a type of its own: they are copied into the block of _malloca. -/
theorem array_copied (isArray : param.kind .ft = .array)
    (userDefined : isUserDefinedType .ft param.paramType = true)
    (array : ArrayRead types (callback .ft node) param arg rest state middle decl size passed
      next) :
    Receives types .ft node param arg rest state := by
  left
  have statements : recvStatements .ft param =
      [Statement.assignLength param.paramName param.paramSize,Statement.serializeLength param.paramName] ++
        [Statement.malloca param.paramName,Statement.serializeArray param.paramName] := by
    simp [recvStatements,isArray,userDefined]
  have copies : (callback .ft node).streamClass = .inputStream := rfl
  have part : (arg.take (arg.length % 2^16)).length = arg.length % 2^16 :=
    List.length_take_of_le (Nat.mod_le _ _)
  have copied : (Target.block (List.replicate (size * passed.toNat) none)).copy
      (arg.take (arg.length % 2^16)) =
        some (filled (arg.take (arg.length % 2^16))
          (size * passed.toNat - arg.length % 2^16)) := by
    rw [Target.copy,part,List.length_replicate,if_pos array.room,List.drop_replicate,filled]
  have holds := block_read state.stream.data arg (arg.length % 2^16)
    (size * passed.toNat - arg.length % 2^16)
  have whole : arg.length ≤ arg.length % 2^16 ↔ arg.length < 2^16 := by omega
  let cell := Cell.pointer (filled (arg.take (arg.length % 2^16))
    (size * passed.toNat - arg.length % 2^16))
  refine ⟨(middle.set param.paramName (.pointer (.block
      (List.replicate (size * passed.toNat) none))) middle.stream).set param.paramName cell next,
    cell,?_,array.later,array.nextData.trans array.data,?_,?_⟩
  · rw [statements,List.foldlM_append,array.counting,ok_bind]
    simp only [List.foldlM_cons,List.foldlM_nil,recvStatement,array.declared,
      array.pointed,array.assigned,array.read,orStop_some,ok_bind,RecvState.set,Function.update_self,
      copies,copied]
    rfl
  · simp only [RecvState.set,array.cells,Function.update_idem]
  · refine ⟨by simp [isArray],by simp [isArray],fun _ => ⟨_,rfl,?_⟩⟩
    rw [holds,whole]
    simp [Carried,isArray,userDefined]

/-- FTGen, elements of a number type: there is no block to copy them into. -/
theorem array_wild (isArray : param.kind .ft = .array)
    (number : isUserDefinedType .ft param.paramType = false)
    (array : ArrayRead types (callback .ft node) param arg rest state middle decl size passed next)
    (empty : state.cells param.paramName = .pointer .uninitialised) :
    Receives types .ft node param arg rest state := by
  have statements : recvStatements .ft param =
      [Statement.assignLength param.paramName param.paramSize,Statement.serializeLength param.paramName] ++
        [Statement.serializeArray param.paramName] := by
    simp [recvStatements,isArray,number]
  have carried : Carried .ft param arg ↔ arg = [] := by
    constructor
    · intro carried
      exact carried.2 isArray rfl number
    · intro none
      exact ⟨by simp [none],fun _ _ _ => none⟩
  by_cases nothing : arg.take (arg.length % 2^16) = []
  · left
    refine ⟨middle.set param.paramName (.pointer .uninitialised) next,.pointer .uninitialised,?_,
      array.later,array.nextData.trans array.data,?_,?_⟩
    · rw [statements,List.foldlM_append,array.counting,ok_bind]
      simp only [List.foldlM_cons,List.foldlM_nil,recvStatement,array.declared,array.pointed,
        array.assigned,array.read,orStop_some,ok_bind,array.cells,empty,Target.copy,nothing,if_true]
      rfl
    · rw [RecvState.set,array.cells]
    · refine ⟨by simp [isArray],by simp [isArray],fun _ => ⟨_,rfl,?_⟩⟩
      rw [carried,Target.read]
      cases arg <;> simp
  · right
    constructor
    · rw [statements,List.foldlM_append,array.counting,ok_bind]
      simp only [List.foldlM_cons,List.foldlM_nil,recvStatement,array.declared,array.pointed,
        array.assigned,array.read,orStop_some,ok_bind,array.cells,empty,Target.copy,nothing,
        if_false]
      rfl
    · rw [carried]
      intro none
      simp [none] at nothing

end Arrays

/-- FTGen: a string ends where its length in sixteen bits says. -/
theorem string_received {types : Types} {node : Node} (arguments : Arguments types .ft node)
    (param : Param) (arg rest : List UInt8) (listed : (param,arg) ∈ arguments.bindings)
    (isString : param.kind .ft = .string) (state : RecvState)
    (short : state.stream.data.length ≤ maxInputBuffer)
    (empty : state.cells param.paramName = .text [])
    (ahead : Ahead state.stream (encode types .ft arguments.bindings param arg ++ rest)) :
    Receives types .ft node param arg rest state := by
  left
  have nonzero := (arguments.fit (param,arg) listed).2.1 isString
  have encoded : encode types .ft arguments.bindings param arg ++ rest =
      le 2 (arg.length % 2^16) ++ (arg.take (arg.length % 2^16) ++ rest) := by
    rw [encode,isString,List.append_assoc]
  rw [encoded] at ahead
  obtain ⟨middle,counting,elements,data,index⟩ := ahead_length state.stream _ _ ahead
  obtain ⟨next,read,later,nextData,nextIndex⟩ :=
    ahead_part middle arg rest (arg.length % 2^16) (Nat.mod_le _ _) elements
  have passed := length_read (arg.length % 2^16) (Nat.mod_lt _ (by decide))
  have part : (arg.take (arg.length % 2^16)).length = arg.length % 2^16 :=
    List.length_take_of_le (Nat.mod_le _ _)
  have room : arg.length % 2^16 < maxOutputBuffer := by
    have inside := next.inside
    rw [nextData,data] at inside
    have sizes : maxInputBuffer < maxOutputBuffer := by decide
    omega
  have fits : arg.length % 2^16 ≤ maxOutputBuffer := Nat.le_of_lt room
  have terminated : (arg.take (arg.length % 2^16)).set (arg.length % 2^16) 0 =
      arg.take (arg.length % 2^16) :=
    List.set_eq_of_length_le (Nat.le_of_eq part)
  have statements : recvStatements .ft param =
      [.serializeStringLength,.serializeString param.paramName,.terminate param.paramName] := by
    simp [recvStatements,isString]
  refine ⟨{state with stream := next,
                      iLength := some (UInt16.ofNat (ofLe (le 2 (arg.length % 2^16)))),
                      cells := Function.update state.cells param.paramName
                        (.text (arg.take (arg.length % 2^16)))},
    .text (arg.take (arg.length % 2^16)),?_,later,nextData.trans data,rfl,?_⟩
  · rw [statements]
    simp only [List.foldlM_cons,List.foldlM_nil,recvStatement,counting,orStop_some,ok_bind,passed,
      read,empty,part,if_pos fits,RecvState.set,Function.update_self,List.drop_nil,
      List.append_nil,if_pos room,terminated,Function.update_idem]
    rfl
  · refine ⟨by simp [isString],fun _ => ⟨_,rfl,?_⟩,by simp [isString]⟩
    have text : (arg.take (arg.length % 2^16)).takeWhile (· != 0) =
        arg.take (arg.length % 2^16) := by
      rw [List.takeWhile_eq_self_iff]
      intro byte member
      have different : byte ≠ 0 := fun zero => nonzero (zero ▸ List.mem_of_mem_take member)
      simpa using different
    rw [text,List.take_eq_self_iff]
    simp only [Carried,isString]
    constructor
    · intro whole
      exact ⟨fun _ => by omega,by simp⟩
    · intro carried
      have small := carried.1 (by simp)
      omega

theorem scalar_received {types : Types} {language : Language} {node : Node}
    (arguments : Arguments types language node) (distinct : Distinct arguments.bindings)
    (param : Param) (arg rest : List UInt8) (listed : (param,arg) ∈ arguments.bindings)
    (isScalar : param.kind language = .scalar) (state : RecvState)
    (ahead : Ahead state.stream (encode types language arguments.bindings param arg ++ rest)) :
    Receives types language node param arg rest state := by
  left
  have sized : (recvVariable language param).valueSize types = some arg.length := by
    simp [recvVariable,isScalar,Decl.valueSize,(arguments.fit (param,arg) listed).2.2 isScalar]
  have encoded : encode types language arguments.bindings param arg = arg := by
    rw [encode,isScalar]
  rw [encoded] at ahead
  obtain ⟨next,read,later,data,_⟩ := serialize_ahead state.stream arg rest ahead
  have statements : recvStatements language param = [.serialize param.paramName] := by
    cases language <;> simp [recvStatements,isScalar]
  refine ⟨state.set param.paramName (.value (some arg)) next,.value (some arg),?_,later,data,rfl,
    ?_⟩
  · rw [statements]
    simp only [List.foldlM_cons,List.foldlM_nil,recvStatement,
      decl_param arguments distinct param arg listed,sized,read,orStop_some,ok_bind]
    rfl
  · exact ⟨fun _ => rfl,by simp [isScalar],by simp [isScalar]⟩

theorem param_received {types : Types} {language : Language} {node : Node}
    (arguments : Arguments types language node) (distinct : Distinct arguments.bindings)
    (param : Param) (arg rest : List UInt8) (listed : (param,arg) ∈ arguments.bindings)
    (state : RecvState) (short : state.stream.data.length ≤ bufferSize language)
    (typed : Typed language arguments.bindings state)
    (untouched : state.cells param.paramName = (recvVariable language param).form.initial)
    (ahead : Ahead state.stream (encode types language arguments.bindings param arg ++ rest)) :
    Receives types language node param arg rest state := by
  cases kind : param.kind language with
  | scalar => exact scalar_received arguments distinct param arg rest listed kind state ahead
  | string =>
    have isFt : language = .ft := by
      cases language with
      | ft => rfl
      | pr =>
        simp only [Param.kind] at kind
        split at kind
        · cases kind
        · simp at kind
    subst isFt
    have empty : state.cells param.paramName = .text [] := by
      rw [untouched]
      simp [recvVariable,kind,Form.initial]
    exact string_received arguments param arg rest listed kind state short empty ahead
  | array =>
    have empty : state.cells param.paramName = .pointer .uninitialised := by
      rw [untouched]
      simp [recvVariable,kind,Form.initial]
    obtain ⟨middle,decl,size,passed,next,array⟩ :=
      array_read arguments distinct param arg rest listed kind state typed ahead
    cases language with
    | pr => exact array_inPlace kind array short empty
    | ft =>
      cases userDefined : isUserDefinedType .ft param.paramType with
      | true => exact array_copied kind userDefined array
      | false => exact array_wild kind userDefined array empty

section Runs
variable {types : Types} {language : Language} {node : Node}

def recvAll (language : Language) (rest : Bindings) : List Statement :=
  rest.flatMap fun binding => recvStatements language binding.1

/-- The callback's body has run, and every variable holds what was sent; or it has stopped at
an argument that is not carried. -/
def RunsThrough (types : Types) (language : Language) (node : Node) (rest : Bindings)
    (state : RecvState) : Prop :=
  (∃ next, (recvAll language rest).foldlM (recvStatement types (callback language node)) state =
      .ok next ∧ next.stream.data = state.stream.data ∧
    (∀ binding ∈ rest, Landed language state.stream.data binding.1 binding.2
      (next.cells binding.1.paramName)) ∧
    ∀ name, name ∉ rest.map (fun binding => binding.1.paramName) →
      next.cells name = state.cells name) ∨
  ((recvAll language rest).foldlM (recvStatement types (callback language node)) state =
      .error .undefined ∧ ∃ binding ∈ rest, ¬ Carried language binding.1 binding.2)

theorem typed_update (bindings : Bindings) (distinct : Distinct bindings) (param : Param)
    (arg payload : List UInt8) (listed : (param,arg) ∈ bindings) (state next : RecvState)
    (cell : Cell) (typed : Typed language bindings state)
    (cells : next.cells = Function.update state.cells param.paramName cell)
    (landed : Landed language payload param arg cell) : Typed language bindings next := by
  intro binding member scalar
  rw [cells]
  by_cases same : binding.1.paramName = param.paramName
  · have equal : binding = (param,arg) := by
      have one := bindings_find bindings distinct binding member
      have two := bindings_find bindings distinct (param,arg) listed
      rw [same,two] at one
      exact (Option.some.inj one).symm
    subst equal
    exact ⟨_,by rw [Function.update_self]; exact landed.scalar scalar⟩
  · rw [Function.update_of_ne same]
    exact typed binding member scalar

theorem params_received (arguments : Arguments types language node)
    (distinct : Distinct arguments.bindings) (rest : Bindings)
    (part : rest ⊆ arguments.bindings) (apart : Distinct rest) (state : RecvState)
    (short : state.stream.data.length ≤ bufferSize language)
    (typed : Typed language arguments.bindings state)
    (untouched : ∀ binding ∈ rest, state.cells binding.1.paramName =
      (recvVariable language binding.1).form.initial)
    (ahead : Ahead state.stream (encodeAll types language arguments.bindings rest)) :
    RunsThrough types language node rest state := by
  induction rest generalizing state with
  | nil => exact .inl ⟨state,rfl,rfl,by simp,fun _ _ => rfl⟩
  | cons binding rest ih =>
    obtain ⟨param,arg⟩ := binding
    obtain ⟨listed,part⟩ := List.cons_subset.mp part
    obtain ⟨fresh,apart⟩ := List.nodup_cons.mp apart
    have body : recvAll language ((param,arg) :: rest) =
        recvStatements language param ++ recvAll language rest := rfl
    rcases param_received arguments distinct param arg
        (encodeAll types language arguments.bindings rest) listed state short typed
        (untouched (param,arg) List.mem_cons_self) ahead with
      ⟨middle,cell,first,later,data,cells,landed⟩ | ⟨stopped,notCarried⟩
    · have kept : ∀ name, name ≠ param.paramName → middle.cells name = state.cells name := by
        intro name different
        rw [cells,Function.update_of_ne different]
      have others : ∀ binding ∈ rest, binding.1.paramName ≠ param.paramName := by
        intro binding member same
        exact fresh (List.mem_map.mpr ⟨binding,member,same⟩)
      rcases ih part apart middle (by rw [data]; exact short)
          (typed_update arguments.bindings distinct param arg state.stream.data listed state middle
            cell typed cells landed)
          (fun binding member => (kept _ (others binding member)).trans
            (untouched binding (List.mem_cons_of_mem _ member))) later with
        ⟨next,ran,nextData,allLanded,frame⟩ | ⟨stopped,binding,member,notCarried⟩
      · left
        refine ⟨next,?_,nextData.trans data,?_,?_⟩
        · rw [body,List.foldlM_append,first,ok_bind,ran]
        · intro binding member
          rcases List.mem_cons.mp member with rfl | later
          · rw [frame _ fresh,cells,Function.update_self]
            exact landed
          · rw [← data]
            exact allLanded binding later
        · intro name absent
          rw [List.map_cons,List.mem_cons,not_or] at absent
          rw [frame name absent.2,kept name absent.1]
      · right
        refine ⟨?_,binding,List.mem_cons_of_mem _ member,notCarried⟩
        rw [body,List.foldlM_append,first,ok_bind,stopped]
    · right
      refine ⟨?_,(param,arg),List.mem_cons_self,notCarried⟩
      rw [body,List.foldlM_append,stopped,error_bind]

end Runs

end Fantuan.Gen.Receiving

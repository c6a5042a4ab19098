import Fantuan.Gen.Call
import Fantuan.Lib.Table

/-! What a Send stub hands on. Each parameter's statements write that parameter's encoding,
whatever was written before; a count or a length is written in sixteen bits, and so many
bytes follow as it then promises.
-/
namespace Fantuan.Gen.Sending
open Lib.Bytes Lib.Table StarNet.DataStream Declaration Emitted Generator Call

def encode (types : Types) (language : Language) (bindings : Bindings) (param : Param)
    (arg : List UInt8) : List UInt8 :=
  match param.kind language with
  | .array =>
    le 2 ((countOf types language bindings param.paramSize).getD 0 % 2^16) ++
      arg.take (arg.length % 2^16)
  | .string => le 2 (arg.length % 2^16) ++ arg.take (arg.length % 2^16)
  | .scalar => arg

def encodeAll (types : Types) (language : Language) (bindings rest : Bindings) : List UInt8 :=
  rest.flatMap fun binding => encode types language bindings binding.1 binding.2

def frameOf (language : Language) (bindings : Bindings) : Frame :=
  bindings.map fun binding =>
    (sendParam language binding.1,memoryOf language binding.1 binding.2)

def Distinct (bindings : Bindings) : Prop :=
  (bindings.map fun binding => binding.1.paramName).Nodup

theorem sendParam_name (language : Language) (param : Param) :
    (sendParam language param).name = param.paramName := by
  unfold sendParam
  split
  · rfl
  · rfl
  · split <;> rfl

theorem bindings_find (bindings : Bindings) (distinct : Distinct bindings)
    (binding : Param × List UInt8) (listed : binding ∈ bindings) :
    bindings.find? (fun other => other.1.paramName == binding.1.paramName) = some binding :=
  find_listed (fun binding : Param × List UInt8 => binding.1.paramName) bindings distinct
    binding listed

theorem frame_find (language : Language) (bindings : Bindings) (name : String) :
    (frameOf language bindings).find name =
      (bindings.find? fun binding => binding.1.paramName == name).map fun binding =>
        (sendParam language binding.1,memoryOf language binding.1 binding.2) := by
  rw [frameOf,Frame.find,List.find?_map]
  congr 2
  funext binding
  simp [sendParam_name]

theorem frame_param (language : Language) (bindings : Bindings) (distinct : Distinct bindings)
    (param : Param) (arg : List UInt8) (listed : (param,arg) ∈ bindings) :
    (frameOf language bindings).find param.paramName =
      some (sendParam language param,memoryOf language param arg) := by
  rw [frame_find,bindings_find bindings distinct (param,arg) listed]
  rfl

theorem count_scalar (types : Types) (language : Language) (bindings : Bindings)
    (name : String) (count : Nat)
    (counted : countOf types language bindings name = some count) :
    ∃ param bytes convert,
      bindings.find? (fun binding => binding.1.paramName == name) = some (param,bytes) ∧
      param.kind language = .scalar ∧
      types.toInt (typeName language param.paramType) = some convert ∧ convert bytes = count := by
  unfold countOf at counted
  cases found : bindings.find? (fun binding => binding.1.paramName == name) with
  | none => simp [found] at counted
  | some binding =>
    obtain ⟨param,bytes⟩ := binding
    rw [found] at counted
    by_cases scalar : param.kind language = .scalar
    · cases number : types.toInt (typeName language param.paramType) with
      | none => simp [scalar,number] at counted
      | some convert =>
        have value : (convert bytes).toNat? = some count := by
          simpa [scalar,number] using counted
        refine ⟨param,bytes,convert,rfl,scalar,number,?_⟩
        exact Int.mem_toNat?.mp value
    · simp [scalar] at counted

theorem frame_count (types : Types) (language : Language) (bindings : Bindings)
    (name : String) (count : Nat)
    (counted : countOf types language bindings name = some count) :
    ∃ decl bytes, (frameOf language bindings).find name = some (decl,bytes) ∧
      decl.toInt types bytes = some (count : Int) := by
  obtain ⟨param,bytes,convert,found,scalar,number,value⟩ :=
    count_scalar types language bindings name count counted
  have memory : memoryOf language param bytes = bytes := by simp [memoryOf,scalar]
  have converted : (sendParam language param).toInt types bytes = some (count : Int) := by
    rw [sendParam,scalar]
    dsimp only
    split <;> simp [Decl.toInt,number,value]
  refine ⟨_,_,?_,converted⟩
  rw [frame_find,found,Option.map_some,memory]

theorem array_length (types : Types) (language : Language) (bindings : Bindings)
    (param : Param) (length : Nat)
    (fits : arrayLength types language bindings param = some length) :
    ∃ size count, types.sizeOf (typeName language param.paramType) = some size ∧
      countOf types language bindings param.paramSize = some count ∧ length = size * count := by
  unfold arrayLength at fits
  cases sized : types.sizeOf (typeName language param.paramType) with
  | none => simp [sized] at fits
  | some size =>
    cases counted : countOf types language bindings param.paramSize with
    | none => simp [sized,counted] at fits
    | some count =>
      refine ⟨size,count,rfl,rfl,?_⟩
      simpa [sized,counted,eq_comm] using fits

theorem ofInt_toNat (count : Nat) : (UInt16.ofInt (count : Int)).toNat = count % 2^16 := by
  simp only [UInt16.ofInt,UInt16.toNat_ofNat']
  omega

theorem arrayBytes_count (size count : Nat) (length : UInt16) (same : length.toNat = count % 2^16) :
    arrayBytes size length = (size * count) % 2^16 := by
  rw [arrayBytes,same,Nat.mul_comm size count,Nat.mod_mul_mod]

def Writes (bytes : List UInt8) (state next : SendState) : Prop :=
  next.stream.data = state.stream.data ++ bytes ∧
    next.stream.capacity = state.stream.capacity

section
variable (types : Types) (language : Language) (bindings : Bindings) (param : Param) (arg : List UInt8)
  (found : (frameOf language bindings).find param.paramName =
    some (sendParam language param,memoryOf language param arg))
  (state next : SendState)
  (ran : (sendStatements language param).foldlM
    (sendStatement types (frameOf language bindings)) state = some next)
include found ran

private theorem array_writes (isArray : param.kind language = .array)
    (fits : Fits types language bindings param arg) :
    Writes (encode types language bindings param arg) state next := by
  obtain ⟨size,count,sized,counted,length⟩ :=
    array_length types language bindings param arg.length (fits.1 isArray)
  obtain ⟨decl,bytes,frameCount,value⟩ := frame_count types language bindings _ count counted
  have pointed : (sendParam language param).pointedSize types = some size := by
    simp [sendParam,isArray,Decl.pointedSize,sized]
  have memory : memoryOf language param arg = arg := by simp [memoryOf,isArray]
  have statements : sendStatements language param =
      [.assignLength param.paramName param.paramSize,.serializeLength param.paramName,
        .serializeArray param.paramName] := by
    simp [sendStatements,isArray]
  rw [statements] at ran
  simp only [List.foldlM_cons,List.foldlM_nil,sendStatement,frameCount,found,value,pointed,memory,
    Function.update_self,Option.bind_eq_bind,Option.bind_some,Option.pure_def,
    Option.bind_eq_some_iff,Option.map_eq_some_iff,Option.some.injEq] at ran
  obtain ⟨_,⟨first,counting,rfl⟩,_,⟨passed,assigned,second,copied,rfl⟩,rfl⟩ := ran
  obtain rfl : UInt16.ofInt count = passed := by
    simpa only [SendState.write,Function.update_self,Option.some.injEq] using assigned
  obtain ⟨firstData,firstCapacity⟩ := output_serialize _ _ _ counting
  obtain ⟨secondData,secondCapacity⟩ := output_serializeArray _ _ _ _ _ copied
  rw [arrayBytes_count size count _ (ofInt_toNat count),← length] at secondData
  rw [ofInt_toNat] at firstData
  refine ⟨?_,secondCapacity.trans firstCapacity⟩
  calc second.data
      = (state.stream.data ++ le 2 (count % 2^16)) ++ arg.take (arg.length % 2^16) :=
        secondData.trans (congrArg (· ++ _) firstData)
    _ = state.stream.data ++ encode types language bindings param arg := by
        simp [encode,isArray,counted]

private theorem string_writes (isString : param.kind language = .string)
    (fits : Fits types language bindings param arg) :
    Writes (encode types language bindings param arg) state next := by
  have memory : memoryOf language param arg = arg ++ [0] := by simp [memoryOf,isString]
  have whole : (arg ++ [0]).takeWhile (· != 0) = arg := by
    rw [List.takeWhile_append_of_pos]
    · simp
    · intro byte member
      have nonzero : byte ≠ 0 := fun zero => fits.2.1 isString (zero ▸ member)
      simpa using nonzero
  have statements : sendStatements language param =
      [.strlen param.paramName,.serializeStringLength,.serializeString param.paramName] := by
    simp [sendStatements,isString]
  rw [statements] at ran
  simp only [List.foldlM_cons,List.foldlM_nil,sendStatement,found,memory,whole,
    Option.bind_eq_bind,Option.bind_some,Option.pure_def,
    Option.bind_eq_some_iff,Option.map_eq_some_iff,Option.some.injEq] at ran
  obtain ⟨_,⟨first,counting,rfl⟩,_,⟨_,assigned,second,copied,rfl⟩,rfl⟩ := ran
  obtain rfl := Option.some.inj assigned
  obtain ⟨firstData,firstCapacity⟩ := output_serialize _ _ _ counting
  obtain ⟨secondData,secondCapacity⟩ := output_serializeArray _ _ _ _ _ copied
  have short : arrayBytes 1 (UInt16.ofNat arg.length) = arg.length % 2^16 := by
    rw [arrayBytes,UInt16.toNat_ofNat',Nat.mul_one,Nat.mod_mod]
  have inside : arg.length % 2^16 ≤ arg.length := Nat.mod_le _ _
  rw [short,List.take_append_of_le_length inside] at secondData
  rw [UInt16.toNat_ofNat'] at firstData
  refine ⟨?_,secondCapacity.trans firstCapacity⟩
  calc second.data
      = (state.stream.data ++ le 2 (arg.length % 2^16)) ++ arg.take (arg.length % 2^16) :=
        secondData.trans (congrArg (· ++ _) firstData)
    _ = state.stream.data ++ encode types language bindings param arg := by
        simp [encode,isString]

private theorem scalar_writes (isScalar : param.kind language = .scalar) :
    Writes (encode types language bindings param arg) state next := by
  have memory : memoryOf language param arg = arg := by simp [memoryOf,isScalar]
  have statements : sendStatements language param = [.serialize param.paramName] := by
    simp [sendStatements,isScalar]
  rw [statements] at ran
  simp only [List.foldlM_cons,List.foldlM_nil,sendStatement,found,memory,
    Option.bind_eq_bind,Option.bind_some,Option.pure_def,
    Option.bind_eq_some_iff,Option.map_eq_some_iff,Option.some.injEq] at ran
  obtain ⟨_,⟨first,copied,rfl⟩,rfl⟩ := ran
  obtain ⟨data,capacity⟩ := output_serialize _ _ _ copied
  refine ⟨?_,capacity⟩
  calc first.data = state.stream.data ++ arg := data
    _ = state.stream.data ++ encode types language bindings param arg := by
        simp [encode,isScalar]

end

theorem param_writes (types : Types) (language : Language) (bindings : Bindings)
    (distinct : Distinct bindings) (param : Param) (arg : List UInt8)
    (listed : (param,arg) ∈ bindings) (fits : Fits types language bindings param arg)
    (state next : SendState)
    (ran : (sendStatements language param).foldlM
      (sendStatement types (frameOf language bindings)) state = some next) :
    Writes (encode types language bindings param arg) state next := by
  have found := frame_param language bindings distinct param arg listed
  cases kind : param.kind language with
  | array => exact array_writes types language bindings param arg found state next ran kind fits
  | string => exact string_writes types language bindings param arg found state next ran kind fits
  | scalar => exact scalar_writes types language bindings param arg found state next ran kind

/-- The statements of some of the parameters write the encodings of these, in order. -/
theorem params_write (types : Types) (language : Language) (bindings : Bindings)
    (distinct : Distinct bindings)
    (fits : ∀ binding ∈ bindings, Fits types language bindings binding.1 binding.2)
    (rest : Bindings) (part : rest ⊆ bindings) (state next : SendState)
    (ran : (rest.flatMap fun binding => sendStatements language binding.1).foldlM
      (sendStatement types (frameOf language bindings)) state = some next) :
    Writes (encodeAll types language bindings rest) state next := by
  induction rest generalizing state with
  | nil =>
    obtain rfl := Option.some.inj ran
    exact ⟨by simp [encodeAll],rfl⟩
  | cons binding rest ih =>
    obtain ⟨listed,part⟩ := List.cons_subset.mp part
    rw [List.flatMap_cons,List.foldlM_append] at ran
    obtain ⟨middle,first,later⟩ := Option.bind_eq_some_iff.mp ran
    obtain ⟨firstData,firstCapacity⟩ := param_writes types language bindings distinct binding.1
      binding.2 listed (fits binding listed) state middle first
    obtain ⟨laterData,laterCapacity⟩ := ih part middle later
    refine ⟨?_,laterCapacity.trans firstCapacity⟩
    rw [laterData,firstData,List.append_assoc]
    rfl

section Calls
variable {types : Types} {language : Language} {node : Node}

theorem bindings_params (arguments : Arguments types language node) :
    arguments.bindings.map Prod.fst = node.paramSet := by
  rw [Arguments.bindings]
  exact List.map_fst_zip (by rw [arguments.complete])

theorem bindings_values (arguments : Arguments types language node) :
    arguments.bindings.map Prod.snd = arguments.values := by
  rw [Arguments.bindings]
  exact List.map_snd_zip (by rw [arguments.complete])

theorem frame_bindings (arguments : Arguments types language node) :
    (node.paramSet.map (sendParam language)).zip arguments.memory =
      frameOf language arguments.bindings := by
  rw [← bindings_params arguments,List.map_map,Arguments.memory,List.zip_map',frameOf]
  rfl

theorem bindings_statements (arguments : Arguments types language node)
    (statements : Param → List Statement) :
    node.paramSet.flatMap statements =
      arguments.bindings.flatMap fun binding => statements binding.1 := by
  rw [← bindings_params arguments,List.flatMap_map]

theorem names_distinct (arguments : Arguments types language node)
    (declared : (sendStub language node).declared.Nodup) : Distinct arguments.bindings := by
  have names : (sendStub language node).params.map Decl.name =
      arguments.bindings.map fun binding => binding.1.paramName := by
    rw [sendStub,← bindings_params arguments,List.map_map,List.map_map]
    exact List.map_congr_left fun binding _ => sendParam_name language binding.1
  have part := (List.nodup_cons.mp (List.nodup_cons.mp declared).2).2
  rw [names] at part
  exact (List.nodup_append.mp part).1

end Calls

/-- A stub whose calls of Serialize all succeed hands on the encodings of its arguments. -/
theorem send_encodes (types : Types) (language : Language) (filter : Filter)
    (index : Fin filter.node.length)
    (arguments : Arguments types language (filter.node.get index)) (payload : List UInt8)
    (sent : send types language filter index arguments = some payload) :
    SendCompiles (generateSendCpp language filter) ∧ Distinct arguments.bindings ∧
      payload = encodeAll types language arguments.bindings arguments.bindings ∧
      payload.length ≤ bufferSize language := by
  rw [send] at sent
  split at sent
  next compiles =>
    have member : sendStub language (filter.node.get index) ∈ generateSendCpp language filter :=
      List.mem_map_of_mem (List.get_mem _ _)
    have distinct := names_distinct arguments (compiles.2 _ member)
    obtain ⟨state,ran,handed⟩ := Option.bind_eq_some_iff.mp sent
    obtain rfl := Option.some.inj handed
    have body : (sendStub language (filter.node.get index)).body =
        arguments.bindings.flatMap fun binding => sendStatements language binding.1 :=
      bindings_statements arguments (sendStatements language)
    have frame : (sendStub language (filter.node.get index)).params.zip arguments.memory =
        frameOf language arguments.bindings :=
      frame_bindings arguments
    rw [body,frame] at ran
    obtain ⟨data,capacity⟩ := params_write types language arguments.bindings distinct
      arguments.fit arguments.bindings (fun _ member => member) _ state ran
    refine ⟨compiles,distinct,data,?_⟩
    calc state.stream.data.length ≤ state.stream.capacity := state.stream.fits
      _ = bufferSize language := capacity
  · cases sent

end Fantuan.Gen.Sending

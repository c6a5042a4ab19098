import Fantuan.Gen.Receiving
import Mathlib.Data.List.Nodup

/-! A Send stub and its callback together: when the handler gets the arguments of the call.
The callbacks have to compile where the stubs do, and every argument has to be carried.
-/
namespace Fantuan.Gen.RoundTrip
open Lib.Bytes StarNet.Packet StarNet.DataStream Declaration Emitted Generator Call Sending
  Receiving

theorem lengthName_client (language : Language) (array : String) :
    lengthName array ≠ clientName language := by
  intro same
  have suffix : "_length".toList <:+ (clientName language).toList :=
    ⟨array.toList,by rw [← String.toList_append,← same,lengthName]⟩
  cases language <;> exact absurd suffix (by decide)

theorem callback_declared (language : Language) (node : Node)
    (stub : (sendStub language node).declared.Nodup) :
    (callback language node).declared.Nodup ↔
      ∀ param ∈ node.paramSet, param.paramName ≠ clientName language := by
  have params : (sendStub language node).params.map Decl.name =
      node.paramSet.map Param.paramName := by
    rw [sendStub,List.map_map]
    exact List.map_congr_left fun param _ => sendParam_name language param
  have decls : (callback language node).decls.map Decl.name =
      node.paramSet.map Param.paramName := by
    rw [callback,List.map_map]
    exact List.map_congr_left fun param _ => recvVariable_name language param
  have tail := (List.nodup_cons.mp stub).2
  rw [params] at tail
  rw [Callback.declared,declared,decls,List.nodup_cons]
  have stream : clientName language ≠ "stream" := by cases language <;> decide
  have length : clientName language ≠ "iLength" := by cases language <;> decide
  constructor
  · intro fresh param member same
    apply fresh.1
    have client : (callback language node).client = param.paramName := same.symm
    rw [client]
    simp only [List.mem_cons,List.mem_append]
    exact .inr (.inl (List.mem_map_of_mem member))
  · intro apart
    refine ⟨?_,tail⟩
    intro member
    rcases List.mem_cons.mp member with same | member
    · exact stream same
    · rcases List.mem_append.mp member with member | member
      · obtain ⟨param,listed,same⟩ := List.mem_map.mp member
        exact apart param listed same
      · rcases List.mem_append.mp member with member | member
        · have same : clientName language = "iLength" := by
            split at member
            · exact List.mem_singleton.mp member
            · cases member
          exact length same
        · obtain ⟨array,_,same⟩ := List.mem_map.mp member
          exact lengthName_client language array same

/-- The callbacks of a filter compile if no function is overloaded, and no parameter has the
name of the callback's first one. -/
def CallbacksCompile (language : Language) (filter : Filter) : Prop :=
  (filter.node.map Node.funcName).Nodup ∧
    ∀ node ∈ filter.node, ∀ param ∈ node.paramSet, param.paramName ≠ clientName language

instance (language : Language) (filter : Filter) : Decidable (CallbacksCompile language filter) :=
  inferInstanceAs (Decidable (_ ∧ _))

theorem callbacks_compile (language : Language) (filter : Filter)
    (stubs : SendCompiles (generateSendCpp language filter)) :
    RecvCompiles (generateRecvCpp language filter) ↔ CallbacksCompile language filter := by
  have appended : Function.Injective fun name : String => name ++ "_Callback" := by
    intro first second same
    exact (String.append_left_inj "_Callback").mp same
  have names : (generateRecvCpp language filter).map Callback.name =
      (filter.node.map Node.funcName).map fun name => name ++ "_Callback" := by
    rw [generateRecvCpp,List.map_map,List.map_map]
    rfl
  have declares : ∀ node ∈ filter.node, ((callback language node).declared.Nodup ↔
      ∀ param ∈ node.paramSet, param.paramName ≠ clientName language) := by
    intro node member
    exact callback_declared language node (stubs.2 _ (List.mem_map_of_mem member))
  rw [RecvCompiles,CallbacksCompile,names,List.nodup_map_iff appended,generateRecvCpp]
  apply and_congr_right
  intro _
  rw [List.forall_mem_map]
  exact forall_congr' fun node => forall_congr' fun member => declares node member

theorem bufferSize_streams (language : Language) (payload : List UInt8)
    (short : payload.length ≤ bufferSize language) :
    payload.length < 2^(streamClass language).lengthBits := by
  cases language with
  | ft =>
    have size : bufferSize .ft < 2^16 := by decide
    exact Nat.lt_of_le_of_lt short size
  | pr =>
    have size : bufferSize .pr < 2^32 := by decide
    exact Nat.lt_of_le_of_lt short size

section Calls
variable {types : Types} {language : Language} {node : Node}
  (arguments : Arguments types language node)

theorem start_cell (distinct : Distinct arguments.bindings) (payload : List UInt8)
    (binding : Param × List UInt8) (listed : binding ∈ arguments.bindings) :
    ((callback language node).start payload).cells binding.1.paramName =
      (recvVariable language binding.1).form.initial := by
  simp only [Callback.start,decl_param arguments distinct binding.1 binding.2 listed]

theorem callback_runs (distinct : Distinct arguments.bindings) (payload : List UInt8)
    (short : payload.length ≤ bufferSize language)
    (encoded : payload = encodeAll types language arguments.bindings arguments.bindings) :
    RunsThrough types language node arguments.bindings
      ((callback language node).start payload) := by
  have cells := start_cell arguments distinct payload
  refine params_received arguments distinct arguments.bindings (fun _ member => member) distinct _
    short ?_ cells ?_
  · intro binding listed scalar
    refine ⟨none,?_⟩
    rw [cells binding listed,recvVariable,scalar]
    rfl
  · rw [← encoded]
    exact new_ahead _ payload (bufferSize_streams language payload short)

theorem handed_carried (distinct : Distinct arguments.bindings) (state : RecvState)
    (landed : ∀ binding ∈ arguments.bindings, Landed language state.stream.data binding.1
      binding.2 (state.cells binding.1.paramName))
    (binding : Param × List UInt8) (listed : binding ∈ arguments.bindings) :
    handed types (callback language node) state binding.1 binding.1.paramName =
        some binding.2 ↔ Carried language binding.1 binding.2 := by
  have here := landed binding listed
  cases kind : binding.1.kind language with
  | scalar =>
    rw [handed,here.scalar kind]
    simp [Carried,kind]
  | string =>
    obtain ⟨content,cell,holds⟩ := here.string kind
    rw [handed,cell,← holds]
    exact Option.some_inj
  | array =>
    obtain ⟨target,cell,holds⟩ := here.array kind
    obtain ⟨size,count,sized,counted,length⟩ := array_length types language arguments.bindings
      binding.1 binding.2.length ((arguments.fit binding listed).1 kind)
    obtain ⟨other,convert,member,named,scalar,value,converts⟩ :=
      count_toInt arguments binding.1.paramSize count state counted
    have countCell := (landed other member).scalar scalar
    rw [named] at countCell
    have pointed : (recvVariable language binding.1).pointedSize types = some size := by
      simp [recvVariable,kind,Decl.pointedSize,sized]
    have natural : (count : Int).toNat? = some count := rfl
    have bytes : handedLength types (callback language node) state binding.1
        binding.1.paramName = some binding.2.length := by
      rw [handedLength,decl_param arguments distinct binding.1 binding.2 listed]
      simp [pointed,converts _ countCell,value,natural,length]
    rw [handed,cell,bytes]
    exact holds

theorem handed_all (distinct : Distinct arguments.bindings) (state : RecvState)
    (landed : ∀ binding ∈ arguments.bindings, Landed language state.stream.data binding.1
      binding.2 (state.cells binding.1.paramName)) :
    List.zipWith (handed types (callback language node) state) node.paramSet
        (callback language node).arguments = arguments.values.map some ↔
      ∀ binding ∈ arguments.bindings, Carried language binding.1 binding.2 := by
  have passed : (callback language node).arguments = node.paramSet.map Param.paramName := rfl
  rw [passed,List.zipWith_map_right,List.zipWith_self,← bindings_params arguments,
    ← bindings_values arguments,List.map_map,List.map_map,List.map_inj_left]
  exact forall_congr' fun binding => forall_congr' fun listed =>
    handed_carried arguments distinct state landed binding listed

theorem callback_carries (distinct : Distinct arguments.bindings) (payload : List UInt8)
    (short : payload.length ≤ bufferSize language)
    (encoded : payload = encodeAll types language arguments.bindings arguments.bindings) :
    (∃ state, (callback language node).run types payload = .ok state ∧
        List.zipWith (handed types (callback language node) state) node.paramSet
          (callback language node).arguments = arguments.values.map some) ↔
      ∀ binding ∈ arguments.bindings, Carried language binding.1 binding.2 := by
  have body : (callback language node).body = recvAll language arguments.bindings :=
    bindings_statements arguments (recvStatements language)
  rw [Callback.run,body]
  rcases callback_runs arguments distinct payload short encoded with
    ⟨next,ran,data,landed,_⟩ | ⟨stopped,binding,listed,notCarried⟩
  · rw [← data] at landed
    have all := handed_all arguments distinct next landed
    rw [ran,← all]
    constructor
    · rintro ⟨state,same,handed⟩
      cases same
      exact handed
    · intro handed
      exact ⟨next,rfl,handed⟩
  · rw [stopped]
    constructor
    · rintro ⟨state,ran,_⟩
      cases ran
    · intro all
      exact absurd (all binding listed) notCarried

end Calls

def numbers : Types where
  sizeOf := fun name =>
    [("char",1),("uint16",2),("int32",4),("uint32",4),("uint64",8)].lookup name
  toInt := fun name => if name = "uint16" then some fun bytes => ofLe bytes else none

def regionChatNtf : Node := ⟨"RegionChatNtf",[⟨"uint64","iAvatarId",""⟩,⟨"string","strMessage",""⟩]⟩

def broadcastData : Node :=
  ⟨"BroadcastData",[⟨"uint16","iSessionCount",""⟩,⟨"uint32","arraySessionId","iSessionCount"⟩,
    ⟨"uint16","iTypeId",""⟩,⟨"uint16","iLen",""⟩,⟨"char","pBuf","iLen"⟩]⟩

def chatArguments : Arguments numbers .ft regionChatNtf :=
  ⟨[[7,0,0,0,0,0,0,0],[104,105]],rfl,by decide⟩

def broadcastArguments : Arguments numbers .pr broadcastData :=
  ⟨[[2,0],[5,0,0,0,6,0,0,0],[1,3],[3,0],[1,2,3]],rfl,by decide⟩

def setNumbers : Node := ⟨"SetNumbers",[⟨"uint16","iCount",""⟩,⟨"int32","arrayNumber","iCount"⟩]⟩

def oneNumber : Arguments numbers .ft setNumbers := ⟨[[1,0],[9,0,0,0]],rfl,by decide⟩

end Fantuan.Gen.RoundTrip

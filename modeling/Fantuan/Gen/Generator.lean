import Fantuan.Gen.Declaration
import Fantuan.Gen.Emitted

/-! What FTGen and PRGen emit for a filter: a Send stub for each function, and the callback
that reads its packet and calls the handler.
-/
namespace Fantuan.Gen.Generator
open Declaration Emitted StarNet.Packet StarNet.DataStream

def serverName : Language → String
  | .ft => "pServer"
  | .pr => "pPeerServer"

def clientName : Language → String
  | .ft => "pClient"
  | .pr => "pPeerClient"

/-- The size of the stub's output stream. -/
def bufferSize : Language → Nat
  | .ft => maxInputBuffer
  | .pr => maxPeerBuffer

def sendParam (language : Language) (param : Param) : Decl :=
  match param.kind language with
  | .array => ⟨.pointer,typeName language param.paramType,param.paramName⟩
  | .string => ⟨.pointer,"char",param.paramName⟩
  | .scalar =>
    if language = .ft ∧ isUserDefinedType language param.paramType then
      ⟨.reference,typeName language param.paramType,param.paramName⟩
    else ⟨.value,typeName language param.paramType,param.paramName⟩

def sendStatements (language : Language) (param : Param) : List Statement :=
  match param.kind language with
  | .array =>
    [.assignLength param.paramName param.paramSize,.serializeLength param.paramName,
      .serializeArray param.paramName]
  | .string =>
    [.strlen param.paramName,.serializeStringLength,.serializeString param.paramName]
  | .scalar => [.serialize param.paramName]

def lengthParams (language : Language) (node : Node) : List String :=
  (node.paramSet.filter (Param.hasKind language .array)).map Param.paramName

def sendStub (language : Language) (node : Node) : SendStub where
  name := node.funcName
  server := serverName language
  params := node.paramSet.map (sendParam language)
  needLength := node.paramSet.any (Param.hasKind language .string)
  lengths := lengthParams language node
  capacity := bufferSize language
  body := node.paramSet.flatMap (sendStatements language)

def recvVariable (language : Language) (param : Param) : Decl :=
  match param.kind language with
  | .array => ⟨.pointer,typeName language param.paramType,param.paramName⟩
  | .string => ⟨.buffer,"char",param.paramName⟩
  | .scalar => ⟨.value,typeName language param.paramType,param.paramName⟩

def recvStatements : Language → Param → List Statement
  | .ft, param =>
    match param.kind .ft with
    | .array =>
      if isUserDefinedType .ft param.paramType then
        [.assignLength param.paramName param.paramSize,.serializeLength param.paramName,
          .malloca param.paramName,.serializeArray param.paramName]
      else
        -- the line that would emit _malloca is a comment
        [.assignLength param.paramName param.paramSize,.serializeLength param.paramName,
          .serializeArray param.paramName]
    | .string =>
      [.serializeStringLength,.serializeString param.paramName,.terminate param.paramName]
    | .scalar => [.serialize param.paramName]
  | .pr, param =>
    match param.kind .pr with
    | .array =>
      [.assignLength param.paramName param.paramSize,.serializeLength param.paramName,
        .serializeArray param.paramName]
    | _ => [.serialize param.paramName]

def streamClass : Language → StreamClass
  | .ft => .inputStream
  | .pr => .peerInputStream

def callback (language : Language) (node : Node) : Callback where
  name := node.funcName ++ "_Callback"
  client := clientName language
  streamClass := streamClass language
  decls := node.paramSet.map (recvVariable language)
  needLength := node.paramSet.any (Param.hasKind language .string)
  lengths := lengthParams language node
  body := node.paramSet.flatMap (recvStatements language)
  arguments := node.paramSet.map Param.paramName

def generateSendCpp (language : Language) (filter : Filter) : List SendStub :=
  filter.node.map (sendStub language)

def generateRecvCpp (language : Language) (filter : Filter) : List Callback :=
  filter.node.map (callback language)

/-- No two overloads take the same parameters, and no function declares a name twice. -/
def SendCompiles (stubs : List SendStub) : Prop :=
  (stubs.map fun stub => (stub.name,stub.params.map fun decl =>
    (decl.form,decl.typeName))).Nodup ∧ ∀ stub ∈ stubs, stub.declared.Nodup

/-- All callbacks have the same parameters, so they cannot be overloaded. -/
def RecvCompiles (callbacks : List Callback) : Prop :=
  (callbacks.map Callback.name).Nodup ∧ ∀ callback ∈ callbacks, callback.declared.Nodup

instance (stubs : List SendStub) : Decidable (SendCompiles stubs) :=
  inferInstanceAs (Decidable (_ ∧ _))

instance (callbacks : List Callback) : Decidable (RecvCompiles callbacks) :=
  inferInstanceAs (Decidable (_ ∧ _))

end Fantuan.Gen.Generator

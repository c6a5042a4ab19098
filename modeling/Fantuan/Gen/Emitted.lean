import Fantuan.Lib.Bytes
import Fantuan.StarNet.DataStream
import Mathlib.Logic.Function.Basic

/-! The code that the generators emit, and what it does when it runs. Only the statements
that occur in it are here. The types it names are those of the including program: their
sizes, and the conversion of a number to an integer, are parameters.
-/
namespace Fantuan.Gen.Emitted
open Lib.Bytes StarNet.DataStream

structure Types where
  sizeOf : String → Option Nat
  toInt : String → Option (List UInt8 → Int)

-- buffer: an array of MAX_OUTPUT_BUFFER elements
inductive Form where
  | value
  | reference
  | pointer
  | buffer
  deriving DecidableEq

structure Decl where
  form : Form
  typeName : String
  name : String
  deriving DecidableEq

inductive Statement where
  /-- `array_length = count;` -/
  | assignLength (array count : String)
  /-- `stream.Serialize(array_length)` -/
  | serializeLength (array : String)
  /-- `array = (T*)_malloca(sizeof(T)*array_length);` -/
  | malloca (array : String)
  /-- `stream.Serialize(array_length, array)` -/
  | serializeArray (array : String)
  /-- `iLength = (uint16)strlen(text);` -/
  | strlen (text : String)
  /-- `stream.Serialize(iLength)` -/
  | serializeStringLength
  /-- `stream.Serialize(iLength, text)` -/
  | serializeString (text : String)
  /-- `text[iLength] = '\0';` -/
  | terminate (text : String)
  /-- `stream.Serialize(name)` -/
  | serialize (name : String)

def lengthName (array : String) : String := array ++ "_length"

structure SendStub where
  name : String
  server : String
  params : List Decl
  needLength : Bool
  lengths : List String
  capacity : Nat
  body : List Statement

inductive StreamClass where
  | inputStream
  | peerInputStream
  deriving DecidableEq

/-- The width of m_iDataLength. -/
def StreamClass.lengthBits : StreamClass → Nat
  | .inputStream => 16
  | .peerInputStream => 32

structure Callback where
  name : String
  client : String
  streamClass : StreamClass
  decls : List Decl
  needLength : Bool
  lengths : List String
  body : List Statement
  arguments : List String

/-- The names that a function with these parameters and variables declares. -/
def declared (first : String) (decls : List Decl) (needLength : Bool)
    (lengths : List String) : List String :=
  first :: "stream" :: (decls.map Decl.name ++
    ((if needLength then ["iLength"] else []) ++ lengths.map lengthName))

def SendStub.declared (stub : SendStub) : List String :=
  Emitted.declared stub.server stub.params stub.needLength stub.lengths

def Callback.declared (callback : Callback) : List String :=
  Emitted.declared callback.client callback.decls callback.needLength callback.lengths

def Decl.toInt (types : Types) (decl : Decl) (bytes : List UInt8) : Option Int :=
  if decl.form = .value ∨ decl.form = .reference then
    (types.toInt decl.typeName).map fun convert => convert bytes
  else none

def Decl.valueSize (types : Types) (decl : Decl) : Option Nat :=
  if decl.form = .value then types.sizeOf decl.typeName else none

def Decl.pointedSize (types : Types) (decl : Decl) : Option Nat :=
  if decl.form = .pointer then types.sizeOf decl.typeName else none

/-- The stub's parameters: a value's bytes, or the memory a pointer points to. -/
abbrev Frame := List (Decl × List UInt8)

def Frame.find (frame : Frame) (name : String) : Option (Decl × List UInt8) :=
  List.find? (fun entry => entry.1.name == name) frame

structure SendState where
  stream : OutputStream
  iLength : Option UInt16
  lengths : String → Option UInt16

def SendState.write (state : SendState) (stream : OutputStream) : SendState :=
  {state with stream := stream}

-- none: return -1, or the statement does not compile
def sendStatement (types : Types) (frame : Frame) (state : SendState) :
    Statement → Option SendState
  | .assignLength array count => do
    let (decl,bytes) ← frame.find count
    let value ← decl.toInt types bytes
    some {state with lengths := Function.update state.lengths array (some (UInt16.ofInt value))}
  | .serializeLength array => do
    let length ← state.lengths array
    (state.stream.serialize (le 2 length.toNat)).map state.write
  | .serializeArray array => do
    let (decl,memory) ← frame.find array
    let size ← decl.pointedSize types
    let length ← state.lengths array
    (state.stream.serializeArray size length memory).map state.write
  | .strlen text => do
    let (_,memory) ← frame.find text
    some {state with iLength := some (UInt16.ofNat (memory.takeWhile (· != 0)).length)}
  | .serializeStringLength => do
    let length ← state.iLength
    (state.stream.serialize (le 2 length.toNat)).map state.write
  | .serializeString text => do
    let (_,memory) ← frame.find text
    let length ← state.iLength
    (state.stream.serializeArray 1 length memory).map state.write
  | .serialize name => do
    let (_,bytes) ← frame.find name
    (state.stream.serialize bytes).map state.write
  | .malloca _ => none
  | .terminate _ => none

/-- The buffer that the stub hands on, if every Serialize succeeds. -/
def SendStub.run (types : Types) (stub : SendStub) (memory : List (List UInt8)) :
    Option (List UInt8) := do
  let frame : Frame := stub.params.zip memory
  let state ← stub.body.foldlM (sendStatement types frame)
    ⟨.new stub.capacity,none,fun _ => none⟩
  some state.stream.data

/-- What a pointer points to: the bytes of a block that are written, or a place in the
payload. -/
inductive Target where
  | uninitialised
  | block (memory : List (Option UInt8))
  | payload (offset : Nat)

-- text: the bytes of a char buffer up to where it is zero to its end
inductive Cell where
  | value (bytes : Option (List UInt8))
  | text (content : List UInt8)
  | pointer (target : Target)

def Form.initial : Form → Cell
  | .value => .value none
  | .reference => .value none
  | .pointer => .pointer .uninitialised
  | .buffer => .text []

structure RecvState where
  stream : InputStream
  iLength : Option UInt16
  lengths : String → Option UInt16
  cells : String → Cell

-- refused: return false
inductive Stop where
  | refused
  | undefined
  | illFormed
  deriving DecidableEq

def RecvState.set (state : RecvState) (name : String) (cell : Cell) (stream : InputStream) :
    RecvState :=
  {state with stream := stream,cells := Function.update state.cells name cell}

def orStop {α : Type} (stop : Stop) : Option α → Except Stop α
  | some value => .ok value
  | none => .error stop

def Callback.decl (callback : Callback) (name : String) : Option Decl :=
  callback.decls.find? fun decl => decl.name == name

/-- What memcpy makes of the memory a pointer points to. -/
def Target.copy (bytes : List UInt8) : Target → Option Target
  | .uninitialised => if bytes = [] then some .uninitialised else none
  | .block memory =>
    if bytes.length ≤ memory.length then
      some (.block (bytes.map some ++ memory.drop bytes.length))
    else none
  | .payload _ => none

/-- A variable of a number type, converted; its bytes are not there before it is read. -/
def RecvState.toInt (types : Types) (callback : Callback) (state : RecvState) (name : String) :
    Option (Option Int) := do
  let decl ← callback.decl name
  let convert ← if decl.form = .value then types.toInt decl.typeName else none
  match state.cells name with
  | .value bytes => some (bytes.map convert)
  | _ => none

def recvStatement (types : Types) (callback : Callback) (state : RecvState) :
    Statement → Except Stop RecvState
  | .assignLength array count => do
    let value ← orStop .illFormed (state.toInt types callback count)
    .ok {state with lengths := Function.update state.lengths array (value.map UInt16.ofInt)}
  | .serializeLength array => do
    let (bytes,stream) ← orStop .refused (state.stream.serialize 2)
    .ok {state with stream := stream,
                    lengths := Function.update state.lengths array (some (UInt16.ofNat (ofLe bytes)))}
  | .malloca array => do
    let decl ← orStop .illFormed (callback.decl array)
    let size ← orStop .illFormed (decl.pointedSize types)
    let length ← orStop .undefined (state.lengths array)
    let memory := List.replicate (size * length.toNat) none
    .ok (state.set array (.pointer (.block memory)) state.stream)
  | .serializeArray array => do
    let decl ← orStop .illFormed (callback.decl array)
    let size ← orStop .illFormed (decl.pointedSize types)
    let length ← orStop .undefined (state.lengths array)
    let (bytes,stream) ← orStop .refused (state.stream.serialize (arrayBytes size length))
    match callback.streamClass,state.cells array with
    | .inputStream,.pointer target => do
      let target ← orStop .undefined (target.copy bytes)
      .ok (state.set array (.pointer target) stream)
    | .peerInputStream,.pointer _ =>
      .ok (state.set array (.pointer (.payload state.stream.dataIndex)) stream)
    | _,_ => .error .illFormed
  | .serializeStringLength => do
    let (bytes,stream) ← orStop .refused (state.stream.serialize 2)
    .ok {state with stream := stream,iLength := some (UInt16.ofNat (ofLe bytes))}
  | .serializeString text => do
    let length ← orStop .undefined state.iLength
    let (bytes,stream) ← orStop .refused (state.stream.serialize length.toNat)
    match state.cells text with
    | .text content =>
      if bytes.length ≤ maxOutputBuffer then
        .ok (state.set text (.text (bytes ++ content.drop bytes.length)) stream)
      else .error .undefined
    | _ => .error .illFormed
  | .terminate text => do
    let length ← orStop .undefined state.iLength
    match state.cells text with
    | .text content =>
      if length.toNat < maxOutputBuffer then
        .ok (state.set text (.text (content.set length.toNat 0)) state.stream)
      else .error .undefined
    | _ => .error .illFormed
  | .serialize name => do
    let decl ← orStop .illFormed (callback.decl name)
    let size ← orStop .illFormed (decl.valueSize types)
    let (bytes,stream) ← orStop .refused (state.stream.serialize size)
    .ok (state.set name (.value (some bytes)) stream)
  | .strlen _ => .error .illFormed

def Callback.start (callback : Callback) (payload : List UInt8) : RecvState where
  stream := .new callback.streamClass.lengthBits payload
  iLength := none
  lengths := fun _ => none
  cells := fun name =>
    match callback.decl name with
    | some decl => decl.form.initial
    | none => .value none

def Callback.run (types : Types) (callback : Callback) (payload : List UInt8) :
    Except Stop RecvState :=
  callback.body.foldlM (recvStatement types callback) (callback.start payload)

/-- The first bytes of what a pointer points to, if they are there and written. -/
def Target.read (payload : List UInt8) (size : Nat) : Target → Option (List UInt8)
  | .uninitialised => if size = 0 then some [] else none
  | .block memory =>
    if size ≤ memory.length then (memory.take size).mapM id else none
  | .payload offset =>
    if offset + size ≤ payload.length then some ((payload.drop offset).take size) else none

end Fantuan.Gen.Emitted

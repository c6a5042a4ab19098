import Fantuan.Gen.Generator

/-! A call of a Send stub, and what the handler gets from the callback. An argument is the
bytes of its value, the characters of a string, or the bytes of an array's elements, as
many as its count parameter says.
-/
namespace Fantuan.Gen.Call
open Declaration Emitted Generator

/-- The parameters with their arguments. -/
abbrev Bindings := List (Param × List UInt8)

/-- What the count of an array is worth: it has to be a parameter that is a number. -/
def countOf (types : Types) (language : Language) (bindings : Bindings) (count : String) :
    Option Nat := do
  let (param,bytes) ← bindings.find? fun binding => binding.1.paramName == count
  let convert ←
    if param.kind language = .scalar then types.toInt (typeName language param.paramType) else none
  (convert bytes).toNat?

def arrayLength (types : Types) (language : Language) (bindings : Bindings) (param : Param) :
    Option Nat := do
  let size ← types.sizeOf (typeName language param.paramType)
  let count ← countOf types language bindings param.paramSize
  some (size * count)

/-- The argument is a value of the parameter's type. -/
def Fits (types : Types) (language : Language) (bindings : Bindings) (param : Param)
    (arg : List UInt8) : Prop :=
  (param.kind language = .array →
    arrayLength types language bindings param = some arg.length) ∧
  (param.kind language = .string → 0 ∉ arg) ∧
  (param.kind language = .scalar →
    types.sizeOf (typeName language param.paramType) = some arg.length)

instance (types : Types) (language : Language) (bindings : Bindings) (param : Param)
    (arg : List UInt8) : Decidable (Fits types language bindings param arg) :=
  inferInstanceAs (Decidable (_ ∧ _ ∧ _))

structure Arguments (types : Types) (language : Language) (node : Node) where
  values : List (List UInt8)
  complete : values.length = node.paramSet.length
  fit : ∀ binding ∈ node.paramSet.zip values,
    Fits types language (node.paramSet.zip values) binding.1 binding.2

def Arguments.bindings {types : Types} {language : Language} {node : Node}
    (arguments : Arguments types language node) : Bindings :=
  node.paramSet.zip arguments.values

def memoryOf (language : Language) (param : Param) (arg : List UInt8) : List UInt8 :=
  if param.kind language = .string then arg ++ [0] else arg

def Arguments.memory {types : Types} {language : Language} {node : Node}
    (arguments : Arguments types language node) : List (List UInt8) :=
  arguments.bindings.map fun binding => memoryOf language binding.1 binding.2

def send (types : Types) (language : Language) (filter : Filter)
    (index : Fin filter.node.length)
    (arguments : Arguments types language (filter.node.get index)) : Option (List UInt8) :=
  if SendCompiles (generateSendCpp language filter) then
    (sendStub language (filter.node.get index)).run types arguments.memory
  else none

/-- The bytes of an array argument, by the count argument the handler gets with it. -/
def handedLength (types : Types) (callback : Callback) (state : RecvState) (param : Param)
    (argument : String) : Option Nat := do
  let decl ← callback.decl argument
  let size ← decl.pointedSize types
  let count ← state.toInt types callback param.paramSize
  let count ← count
  let count ← count.toNat?
  some (size * count)

def handed (types : Types) (callback : Callback) (state : RecvState) (param : Param)
    (argument : String) : Option (List UInt8) :=
  match state.cells argument with
  | .value bytes => bytes
  | .text content => some (content.takeWhile (· != 0))
  | .pointer target => do
    let length ← handedLength types callback state param argument
    target.read state.stream.data length

inductive Received where
  | called (args : List (Option (List UInt8)))
  | stopped (stop : Stop)
  deriving DecidableEq

def receive (types : Types) (language : Language) (filter : Filter)
    (index : Fin filter.node.length) (payload : List UInt8) : Received :=
  let node := filter.node.get index
  if RecvCompiles (generateRecvCpp language filter) then
    match (callback language node).run types payload with
    | .ok state =>
      .called (List.zipWith (handed types (callback language node) state) node.paramSet
        (callback language node).arguments)
    | .error stop => .stopped stop
  else .stopped .illFormed

end Fantuan.Gen.Call

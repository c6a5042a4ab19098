import Mathlib.Data.List.Basic

/-! Filter declarations as FTGen and PRGen keep them: a filter's functions and their
parameters. The two parsers fill in the same tables; the two generators differ in the
types they know.
-/
namespace Fantuan.Gen.Declaration

/-- The declarations between client and server, and those between servers. -/
inductive Language where
  | ft
  | pr
  deriving DecidableEq

/-- A parameter declared without a size has the empty one. -/
structure Param where
  paramType : String
  paramName : String
  paramSize : String
  deriving DecidableEq

structure Node where
  funcName : String
  paramSet : List Param

structure Filter where
  node : List Node

def numberTypes : List String :=
  ["int8","uint8","int16","uint16","int32","uint32","int64","uint64","float32","float64"]

def isUserDefinedType : Language → String → Bool
  | .ft, name => !numberTypes.contains name
  | .pr, name => !(numberTypes ++ ["TCHAR","char"]).contains name

def userPrefix : Language → String
  | .ft => "ftd"
  | .pr => "prd"

def typeName (language : Language) (name : String) : String :=
  if isUserDefinedType language name then userPrefix language ++ name else name

/-- The branches of the loops over a function's parameters. -/
inductive Kind where
  | array
  | string
  | scalar
  deriving DecidableEq

-- PRGen has no strings: there the name is a user-defined type like any other
def Param.kind (language : Language) (param : Param) : Kind :=
  if param.paramSize ≠ "" then .array
  else if language = .ft ∧ param.paramType = "string" then .string
  else .scalar

def Param.hasKind (language : Language) (kind : Kind) (param : Param) : Bool :=
  param.kind language == kind

end Fantuan.Gen.Declaration

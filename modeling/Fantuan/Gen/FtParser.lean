import Fantuan.Gen.Lexer
import Fantuan.Lib.Reading

/-! FTGen's parser. It writes into the tables of myFile as it goes, one function at a time,
and a function that gives up leaves there what it has written. PRGen's parser is the same
text with another name for the file.
-/
namespace Fantuan.Gen.FtParser
open Lexer Lib.Reading

def nameSize : Nat := 32

def tableSize : Nat := 32

/-- The characters of each field up to its NUL. -/
structure Param where
  paramType : List Char
  paramName : List Char
  paramSize : List Char
  deriving DecidableEq

-- name: funcName, or structName in FTDGen
structure Node where
  name : List Char
  paramSet : Nat → Param
  paramCount : Nat

structure Filter where
  node : Nat → Node
  nodeCount : Nat
  filterName : List Char
  filterId : List Char

structure Includes where
  includeFile : Nat → List Char
  includeCount : Nat

structure FtFile extends Includes where
  filterSet : Nat → Filter
  filterIndex : Nat

def Param.zero : Param := ⟨[],[],[]⟩

def Node.zero : Node := ⟨[],fun _ => .zero,0⟩

def Filter.zero : Filter := ⟨fun _ => .zero,0,[],[]⟩

def Includes.zero : Includes := ⟨fun _ => [],0⟩

def FtFile.zero : FtFile := ⟨.zero,fun _ => .zero,0⟩

def copied (size : Nat) (name : List Char) : Option (List Char) :=
  if name.length < size then some name else none

def Node.updateParam (update : Param → Param) (node : Node) : Option Node :=
  if node.paramCount < tableSize then
    some {node with paramSet := Function.update node.paramSet node.paramCount
                      (update (node.paramSet node.paramCount))}
  else none

def strcpyName (name : List Char) (node : Node) : Option Node :=
  (copied nameSize name).map fun name => {node with name := name}

def strcpyParamType (name : List Char) (node : Node) : Option Node :=
  (copied nameSize name).bind fun name => node.updateParam fun param =>
    {param with paramType := name}

/-- paramType[strlen(paramType)+1] = '\0': behind a name of 31 characters that is the first
one of paramName. -/
def zeroParamType (node : Node) : Option Node :=
  node.updateParam fun param =>
    if param.paramType.length + 1 = nameSize then {param with paramName := []} else param

def strcpyParamName (name : List Char) (node : Node) : Option Node :=
  (copied nameSize name).bind fun name => node.updateParam fun param =>
    {param with paramName := name}

def zeroParamName (node : Node) : Option Node :=
  node.updateParam fun param =>
    if param.paramName.length + 1 = nameSize then {param with paramSize := []} else param

def strcpyParamSize (name : List Char) (node : Node) : Option Node :=
  (copied nameSize name).bind fun name => node.updateParam fun param =>
    {param with paramSize := name}

/-- Behind paramSize is the next parameter's paramType, or the lowest byte of paramCount. -/
def zeroParamSize (node : Node) : Option Node :=
  if node.paramCount < tableSize then
    if (node.paramSet node.paramCount).paramSize.length + 1 = nameSize then
      if node.paramCount + 1 < tableSize then
        some {node with paramSet := Function.update node.paramSet (node.paramCount + 1)
                          {node.paramSet (node.paramCount + 1) with paramType := []}}
      else some {node with paramCount := node.paramCount - node.paramCount % 256}
    else some node
  else none

def clearParamSize (node : Node) : Option Node :=
  node.updateParam fun param => {param with paramSize := []}

def countParam (node : Node) : Node := {node with paramCount := node.paramCount + 1}

/-- What is written behind the three names of a parameter. -/
structure Zeros where
  paramType : Node → Option Node
  paramName : Node → Option Node
  paramSize : Node → Option Node

def zeros : Zeros := ⟨zeroParamType,zeroParamName,zeroParamSize⟩

def store (copy zero : Node → Option Node) : Check Node Unit := do
  write copy
  write zero

section
variable (zero : Zeros)

/-- What is between temp_buffer and paramCount++. -/
def checkParamSize (buffer : List Char) : Check Node (List Char) :=
  match checkChar '[' buffer with
  | some temp => do
    let (name,temp) ← orNull (checkIdentifier strSize temp)
    let temp ← orNull (checkChar ']' temp)
    store (strcpyParamSize name) zero.paramSize
    pure temp
  | none => do
    write clearParamSize
    pure buffer

def checkParamList (buffer : List Char) : Check Node (List Char) := do
  let (name,buffer) ← orNull (checkIdentifier strSize buffer)
  store (strcpyParamType name) zero.paramType
  let (name,buffer) ← orNull (checkIdentifier strSize buffer)
  store (strcpyParamName name) zero.paramName
  let buffer ← checkParamSize zero buffer
  alter countParam
  pure buffer

-- the comma in front of every parameter but the first
def checkComma (paramCount : Nat) (buffer : List Char) : Check Node (List Char) :=
  if paramCount > 0 then orNull (checkChar ',' buffer) else pure buffer

def paramLoop : Nat → List Char → Check Node (List Char)
  | 0,_ => fun _ => .undefined
  | fuel + 1,buffer =>
    match checkChar ')' buffer with
    | some _ => pure buffer
    | none => do
      let paramCount ← look Node.paramCount
      let buffer ← checkComma paramCount buffer
      let buffer ← checkParamList zero buffer
      paramLoop fuel buffer

def Filter.current (filter : Filter) : Option Node :=
  if filter.nodeCount < tableSize then some (filter.node filter.nodeCount) else none

def Filter.set (node : Node) (filter : Filter) : Filter :=
  {filter with node := Function.update filter.node filter.nodeCount node}

def countNode (filter : Filter) : Filter := {filter with nodeCount := filter.nodeCount + 1}

-- nothing is accessed before the strcpy
def checkFunction (buffer : List Char) : Check Filter (List Char) := do
  let (name,buffer) ← orNull (checkIdentifier strSize buffer)
  let buffer ← within Filter.current Filter.set (do
    write (strcpyName name)
    let buffer ← orNull (checkChar '(' buffer)
    let buffer ← paramLoop zero (buffer.length + 1) buffer
    let buffer ← orNull (checkChar ')' buffer)
    orNull (checkChar ';' buffer))
  alter countNode
  pure buffer

/-- while (true): as long as there is another one. -/
def repeatCheck {σ : Type} (check : List Char → Check σ (List Char)) :
    Nat → List Char → Check σ (List Char)
  | 0,_ => fun _ => .undefined
  | fuel + 1,buffer => fun state =>
    match (check buffer).run state with
    | .undefined => .undefined
    | .null state => .value buffer state
    | .value next state => (repeatCheck check fuel next).run state

def FtFile.current (file : FtFile) : Option Filter :=
  if file.filterIndex < tableSize then some (file.filterSet file.filterIndex) else none

def FtFile.set (filter : Filter) (file : FtFile) : FtFile :=
  {file with filterSet := Function.update file.filterSet file.filterIndex filter}

def countFilter (file : FtFile) : FtFile := {file with filterIndex := file.filterIndex + 1}

def strcpyFilterName (name : List Char) (filter : Filter) : Option Filter :=
  (copied strSize name).map fun name => {filter with filterName := name}

def strcpyFilterId (name : List Char) (filter : Filter) : Option Filter :=
  (copied strSize name).map fun name => {filter with filterId := name}

def checkFilter (buffer : List Char) : Check FtFile (List Char) := do
  let buffer ← orNull (checkKeyword "filter".toList buffer)
  let buffer ← orNull (checkChar '(' buffer)
  let (name,buffer) ← orNull (checkIdentifier strSize buffer)
  let buffer ← within FtFile.current FtFile.set (do
    write (strcpyFilterName name)
    let buffer ← orNull (checkChar ',' buffer)
    let (name,buffer) ← orNull (checkIdentifier strSize buffer)
    write (strcpyFilterId name)
    let buffer ← orNull (checkChar ')' buffer)
    let buffer ← orNull (checkChar '{' buffer)
    let buffer ← repeatCheck (checkFunction zero) (buffer.length + 1) buffer
    orNull (checkChar '}' buffer))
  alter countFilter
  pure buffer

end

def readInclude (buffer : List Char) : Option (List Char × List Char) := do
  let buffer ← checkChar '#' buffer
  let buffer ← checkKeyword "include".toList buffer
  checkString strSize buffer

def strcpyInclude (name : List Char) (includes : Includes) : Option Includes :=
  if includes.includeCount < tableSize then
    (copied strSize name).map fun name =>
      {includeFile := Function.update includes.includeFile includes.includeCount name,
       includeCount := includes.includeCount + 1}
  else none

/-- CheckInclude, for either kind of file. -/
def checkIncludeIn {σ : Type} (view : σ → Includes) (update : Includes → σ → σ)
    (buffer : List Char) : Check σ (List Char) := do
  let (file,buffer) ← orNull (readInclude buffer)
  within (fun state => some (view state)) update (write (strcpyInclude file))
  pure buffer

def FtFile.setIncludes (includes : Includes) (file : FtFile) : FtFile :=
  {file with toIncludes := includes}

def checkInclude (buffer : List Char) : Check FtFile (List Char) :=
  checkIncludeIn FtFile.toIncludes FtFile.setIncludes buffer

inductive Returned (σ : Type) where
  | undefined
  | returned (result : Bool) (file : σ)

def parserLoop {σ : Type} (checkInclude checkDeclaration : List Char → Check σ (List Char)) :
    Nat → List Char → σ → Returned σ
  | 0,_,_ => .undefined
  | fuel + 1,buffer,file =>
    match (checkInclude buffer).run file with
    | .undefined => .undefined
    | .value next file => parserLoop checkInclude checkDeclaration fuel next file
    | .null file =>
      match (checkDeclaration buffer).run file with
      | .undefined => .undefined
      | .value next file => parserLoop checkInclude checkDeclaration fuel next file
      | .null file => .returned true file

def terminated (memory : List Char) : List Char := memory.takeWhile (· != '\x00')

def parser {σ : Type} (checkInclude checkDeclaration : List Char → Check σ (List Char))
    (buf : List Char) (file : σ) : Returned σ :=
  let buffer := escapeSpace (terminated buf)
  parserLoop checkInclude checkDeclaration (buffer.length + 1) buffer file

def parserFt (buf : List Char) : Returned FtFile := parser checkInclude (checkFilter zeros) buf .zero

def parserPr (buf : List Char) : Returned FtFile := parser checkInclude (checkFilter zeros) buf .zero

end Fantuan.Gen.FtParser

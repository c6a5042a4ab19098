import Fantuan.Gen.FtParser

/-! FTDGen's parser of structs. Its node is the one of FTGen with the struct's name; a member
ends with a semicolon, and only behind a member's size there is a zero too many.
-/
namespace Fantuan.Gen.FtdParser
open Lexer Lib.Reading FtParser

structure FtdFile extends Includes where
  nodeSet : Nat → Node
  nodeIndex : Nat

def FtdFile.zero : FtdFile := ⟨.zero,fun _ => .zero,0⟩

def checkParam (buffer : List Char) : Check Node (List Char) := do
  let (name,buffer) ← orNull (checkIdentifier strSize buffer)
  write (strcpyParamType name)
  let (name,buffer) ← orNull (checkIdentifier strSize buffer)
  write (strcpyParamName name)
  let buffer ← checkParamSize zeros buffer
  let buffer ← orNull (checkChar ';' buffer)
  alter countParam
  pure buffer

def FtdFile.current (file : FtdFile) : Option Node :=
  if file.nodeIndex < tableSize then some (file.nodeSet file.nodeIndex) else none

def FtdFile.set (node : Node) (file : FtdFile) : FtdFile :=
  {file with nodeSet := Function.update file.nodeSet file.nodeIndex node}

def countStruct (file : FtdFile) : FtdFile := {file with nodeIndex := file.nodeIndex + 1}

def checkNode (buffer : List Char) : Check FtdFile (List Char) := do
  let buffer ← orNull (checkKeyword "struct".toList buffer)
  let (name,buffer) ← orNull (checkIdentifier strSize buffer)
  let buffer ← within FtdFile.current FtdFile.set (do
    write (strcpyName name)
    let buffer ← orNull (checkChar '{' buffer)
    let buffer ← repeatCheck checkParam (buffer.length + 1) buffer
    let buffer ← orNull (checkChar '}' buffer)
    orNull (checkChar ';' buffer))
  alter countStruct
  pure buffer

def FtdFile.setIncludes (includes : Includes) (file : FtdFile) : FtdFile :=
  {file with toIncludes := includes}

def checkInclude (buffer : List Char) : Check FtdFile (List Char) :=
  checkIncludeIn FtdFile.toIncludes FtdFile.setIncludes buffer

def parserFtd (buf : List Char) : Returned FtdFile := parser checkInclude checkNode buf .zero

end Fantuan.Gen.FtdParser

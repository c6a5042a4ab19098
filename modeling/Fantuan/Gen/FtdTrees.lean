import Fantuan.Gen.FtdParser
import Fantuan.Gen.Trees

/-! The trees of FTDGen: structs of members. Nothing the parser does with a member depends on
the members before it.
-/
namespace Fantuan.Gen.FtdTrees
open Lexer Lib.Reading FtParser FtdParser Trees

structure Struct where
  structName : List Char
  paramSet : List Param
  deriving DecidableEq

def memberTokens (param : Param) : List Token := paramTokens param ++ [.sign ';']

def structTokens (struct : Struct) : List Token :=
  .name "struct".toList :: .name struct.structName :: .sign '{' ::
    (struct.paramSet.flatMap memberTokens ++ [.sign '}',.sign ';'])

def storeMember (param : Param) : Check Node Unit := do
  orNull (readable param.paramType)
  write (strcpyParamType param.paramType)
  orNull (readable param.paramName)
  write (strcpyParamName param.paramName)
  storeParamSize param.paramSize
  alter countParam

def storeStruct (struct : Struct) : Check FtdFile Unit := do
  orNull (readable struct.structName)
  within FtdFile.current FtdFile.set (do
    write (strcpyName struct.structName)
    storeAll storeMember struct.paramSet)
  alter countStruct

def storeItems (items : List (Item Struct)) : Check FtdFile Unit :=
  storeAll (storeItem FtdFile.toIncludes FtdFile.setIncludes storeStruct) items

theorem member_checked (param : Param) (more : List Token) (buffer : List Char)
    (spells : Spells (memberTokens param ++ more) buffer) :
    ∃ rest, Spells more rest ∧
      checkParam buffer = (storeMember param >>= fun _ => pure rest) := by
  have shape : memberTokens param ++ more = paramTokens param ++ .sign ';' :: more := by
    simp [memberTokens]
  rw [shape] at spells
  obtain ⟨one,later,typed⟩ := checkIdentifier_name strSize param.paramType _ buffer spells
  obtain ⟨two,later,named⟩ := checkIdentifier_name strSize param.paramName _ one later
  obtain ⟨three,later,sized⟩ := paramSize_checked param.paramSize (.sign ';' :: more) two later
    (by simp)
  obtain ⟨four,ended,later⟩ := checkChar_sign ';' _ three later
  refine ⟨four,later,?_⟩
  rw [checkParam,storeMember,typed,orNull_name]
  simp only [named,orNull_name,sized,ended,pure_orNull,bind_assoc,pure_bind]

theorem checkParam_brace (more : List Token) (buffer : List Char)
    (spells : Spells (.sign '}' :: more) buffer) : checkParam buffer = orNull none := by
  rw [checkParam,checkIdentifier_other strSize _ buffer spells (by simp)]
  rfl

theorem members_checked (params : List Param) (more : List Token) (buffer : List Char)
    (spells : Spells (params.flatMap memberTokens ++ .sign '}' :: more) buffer) :
    ∃ rest, Spells more rest ∧ ∀ node, True →
      (do
        let buffer ← repeatCheck checkParam (buffer.length + 1) buffer
        orNull (checkChar '}' buffer)).run node =
      (storeAll storeMember params >>= fun _ => pure rest).run node := by
  have long := flatMap_length memberTokens (fun _ => List.cons_ne_nil _ _) params
  have fuel := spells_length _ buffer spells
  rw [List.length_append] at fuel
  refine repeat_checked checkParam storeMember memberTokens (fun _ => True) ?_
    (fun _ _ _ _ _ => trivial) (fun param => ⟨_,_,rfl⟩) checkParam_brace params more _ (by omega)
    buffer spells
  intro param more buffer spells
  obtain ⟨rest,later,checked⟩ := member_checked param more buffer spells
  exact ⟨rest,later,fun node _ => by rw [checked]⟩

theorem struct_checked (struct : Struct) (more : List Token) (buffer : List Char)
    (spells : Spells (structTokens struct ++ more) buffer) :
    ∃ rest, Spells more rest ∧ ∀ file, True →
      (checkNode buffer).run file = (storeStruct struct >>= fun _ => pure rest).run file := by
  have shape : structTokens struct ++ more = .name "struct".toList :: .name struct.structName ::
      .sign '{' :: (struct.paramSet.flatMap memberTokens ++ .sign '}' :: .sign ';' :: more) := by
    simp [structTokens]
  rw [shape] at spells
  obtain ⟨one,later,keyword⟩ := checkKeyword_name "struct".toList _ (by decide) _ buffer spells
  rw [if_pos rfl] at keyword
  obtain ⟨two,later,named⟩ := checkIdentifier_name strSize struct.structName _ one later
  obtain ⟨three,brace,later⟩ := checkChar_sign '{' _ two later
  obtain ⟨four,later,members⟩ := members_checked struct.paramSet _ three later
  obtain ⟨last,ended,later⟩ := checkChar_sign ';' _ four later
  refine ⟨last,later,fun file _ => ?_⟩
  rw [checkNode,storeStruct,keyword]
  simp only [pure_orNull,pure_bind,named,orNull_name,bind_assoc]
  cases readable struct.structName with
  | none => rfl
  | some _ =>
    refine within_then _ _ _ _ last countStruct file fun node _ => ?_
    simp only [brace,pure_orNull,pure_bind,bind_assoc]
    rw [run_bind,run_bind,run_write]
    cases strcpyName struct.structName node with
    | none => rfl
    | some next =>
      simp only [Option.elim_some,value_andThen]
      have inner := members next trivial
      rw [← bind_assoc,run_bind,inner,run_bind,run_bind]
      cases (storeAll storeMember struct.paramSet).run next with
      | undefined => rfl
      | null node => rfl
      | value _ node => simp [ended]

theorem checkNode_other (tokens : List Token) (buffer : List Char)
    (spells : Spells tokens buffer) (other : ∀ value, tokens.head? ≠ some (.name value)) :
    checkNode buffer = orNull none := by
  rw [checkNode,checkKeyword_other _ tokens buffer spells other]
  rfl

theorem parserFtd_stored (items : List (Item Struct)) (buf : List Char)
    (spells : Spells (items.flatMap (itemTokens structTokens)) (terminated buf)) :
    parserFtd buf = stored ((storeItems items).run .zero) := by
  have escaped := spells_escaped _ _ spells
  have fuel := spells_length _ _ escaped
  have long := flatMap_length (itemTokens structTokens)
    (by intro item; cases item <;> exact List.cons_ne_nil _ _) items
  exact items_checked FtdFile.toIncludes FtdFile.setIncludes checkNode storeStruct structTokens
    (fun _ => True) struct_checked (fun _ _ _ _ _ => trivial) (fun _ _ _ => trivial)
    (fun struct => ⟨_,_,rfl⟩) checkNode_other items _ (by omega) _ escaped .zero trivial

end Fantuan.Gen.FtdTrees

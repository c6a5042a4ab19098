import Fantuan.Gen.FtdParser
import Fantuan.Lib.Utf
import Mathlib.Data.List.TakeWhile

/-! What FTDGen emits for a struct: its two declarations, and the conversions between them. The number that
a size stands for is that of the including program.
-/
namespace Fantuan.Gen.FtdConversions
open FtParser Lib.Utf

/-- A format of fprintf is cut at each %s. -/
inductive Piece where
  | text (text : String)
  | argument

structure Line where
  format : List Piece
  arguments : List (List Char)

/-- An argument that is missing is undefined behaviour, one too many is ignored. -/
def fprintf : List Piece → List (List Char) → Option (List Char)
  | [],_ => some []
  | .text text :: format,arguments => (fprintf format arguments).map (text.toList ++ ·)
  | .argument :: format,name :: arguments => (fprintf format arguments).map (name ++ ·)
  | .argument :: _,[] => none

def Line.printed (line : Line) : Bool := (fprintf line.format line.arguments).isSome

def fixed (text : String) : Line := ⟨[.text text],[]⟩

/-- What is done with a member: a conversion of its characters, the conversion of a struct, or a copy. -/
inductive Statement where
  | convert (name size : List Char)
  | helper (name : List Char)
  | assign (name : List Char)

def char : List Char := ['c','h','a','r']

def isText (param : Param) : Prop := param.paramSize ≠ [] ∧ param.paramType = char

instance (param : Param) : Decidable (isText param) := inferInstanceAs (Decidable (_ ∧ _))

def memberStatement (param : Param) : Statement :=
  if param.paramSize ≠ [] then
    if param.paramType = char then .convert param.paramName param.paramSize else .helper param.paramName
  else .assign param.paramName

def members (node : Node) : List Param := (List.range node.paramCount).map node.paramSet

def ftdMember (param : Param) : Line :=
  if param.paramSize ≠ [] then
    ⟨[.text "    ",.argument,.text " ",.argument,.text "[",.argument,.text "+1];\n"],
      [param.paramType,param.paramName,param.paramSize]⟩
  else ⟨[.text "    ",.argument,.text " ",.argument,.text ";\n"],[param.paramType,param.paramName]⟩

def prdMember (param : Param) : Line :=
  if param.paramSize ≠ [] then
    if param.paramType = char then
      ⟨[.text "    TCHAR ",.argument,.text "[",.argument,.text "+1];\n"],[param.paramName,param.paramSize]⟩
    else
      ⟨[.text "    ",.argument,.text " ",.argument,.text "[",.argument,.text "];\n"],
        [param.paramType,param.paramName,param.paramSize]⟩
  else ⟨[.text "    ",.argument,.text " ",.argument,.text ";\n"],[param.paramType,param.paramName]⟩

def structLines (kind : String) (member : Param → Line) (node : Node) : List Line :=
  [⟨[.text "struct ",.text kind,.argument,.text "\n"],[node.name]⟩,fixed "\x7b\n"] ++
    (members node).map member ++
    [⟨[.text "\t",.text kind,.argument,.text "()\x7bmemset(this, 0, sizeof(",.text kind,.argument,.text "));\x7d\n"],
      [node.name,node.name]⟩,fixed "\x7d;\n\n"]

def defineLines (node : Node) : List Line :=
  structLines "ftd" ftdMember node ++ structLines "prd" prdMember node ++
    [⟨[.text "extern int32 prd",.argument,.text "2ftd",.argument,.text "(const prd",.argument,
        .text "* pPrd, ftd",.argument,.text "* pFtd);\n"],[node.name,node.name,node.name,node.name]⟩,
      ⟨[.text "extern int32 ftd",.argument,.text "2prd",.argument,.text "(const ftd",.argument,
        .text "* pFtd, prd",.argument,.text "* pPrd);\n"],[node.name,node.name,node.name,node.name]⟩,
      fixed "\n"]

def returnLines : List Line := [fixed "    \x7b\n",fixed "        return -1;\n",fixed "    \x7d\n"]

/-- In the two calls of helper there are four %s for two arguments. -/
def prd2ftdLines : Statement → List Line
  | .convert name size =>
    [⟨[.text "    iRet = WChar2Char(pPrd->",.argument,.text ", pFtd->",.argument,.text ", ",.argument,
      .text "+1);\n"],[name,name,size]⟩,fixed "    if (iRet == 0)\n"] ++ returnLines
  | .helper name =>
    [⟨[.text "    iRet = prd",.argument,.text "2ftd",.argument,.text "(&pPrd->",.argument,.text ", &pFtd->",
      .argument,.text ");\n"],[name,name]⟩,fixed "    if (iRet == 0)"] ++ returnLines
  | .assign name => [⟨[.text "    pFtd->",.argument,.text " = pPrd->",.argument,.text ";\n"],[name,name]⟩]

def ftd2prdLines : Statement → List Line
  | .convert name size =>
    [⟨[.text "    iRet = Char2WChar(pFtd->",.argument,.text ", pPrd->",.argument,.text ", ",.argument,
      .text "+1);\n"],[name,name,size]⟩,fixed "    if (iRet == 0)\n"] ++ returnLines
  | .helper name =>
    [⟨[.text "    iRet = ftd",.argument,.text "2prd",.argument,.text "(&pFtd->",.argument,.text ", &pPrd->",
      .argument,.text ");\n"],[name,name]⟩,fixed "    if (iRet == 0)"] ++ returnLines
  | .assign name => [⟨[.text "    pPrd->",.argument,.text " = pFtd->",.argument,.text ";\n"],[name,name]⟩]

def functionLines (first : Line) (lines : Statement → List Line) (node : Node) : List Line :=
  [first,fixed "\x7b\n",fixed "    int32 iRet = 0;\n"] ++
    ((members node).map memberStatement).flatMap lines ++ [fixed "    return 0;\n",fixed "\x7d\n\n"]

def implLines (node : Node) : List Line :=
  functionLines ⟨[.text "int32 prd",.argument,.text "2ftd",.argument,.text "(const prd",.argument,
      .text "* pPrd, ftd",.argument,.text "* pFtd)\n"],[node.name,node.name,node.name,node.name]⟩
    prd2ftdLines node ++
  functionLines ⟨[.text "extern int32 ftd",.argument,.text "2prd",.argument,.text "(const ftd",.argument,
      .text "* pFtd, prd",.argument,.text "* pPrd)\n"],[node.name,node.name,node.name,node.name]⟩
    ftd2prdLines node

/-- A ftd or a prd: the units of its arrays of characters, and the bytes of its other members. -/
structure Fields (α : Type) where
  text : List Char → List α
  other : List Char → List UInt8

/-- How a conversion ends: it returns -1, or 0 with what it has written. -/
inductive Ran (σ : Type) where
  | undefined
  | failed
  | done (target : σ)

def Ran.andThen {σ τ : Type} (ran : Ran σ) (next : σ → Ran τ) : Ran τ :=
  match ran with
  | .undefined => .undefined
  | .failed => .failed
  | .done target => next target

section
variable {α β : Type} [DecidableEq α] [OfNat α 0] [OfNat β 0] (convert : List α → List β)
  (sizeOf : List Char → Nat)

def cut (source : List α) : List α := source.takeWhile fun unit => unit ≠ 0

/-- Char2WChar and WChar2Char with the length -1 return 0 for what does not fit with its terminator. -/
def convertArray (size : Nat) (source : List α) (target : List β) : Ran (List β) :=
  if 0 ∈ source then
    let result := convert (cut source) ++ [0]
    if result.length ≤ size + 1 then .done (result ++ target.drop result.length) else .failed
  else .undefined

def execute (source : Fields α) (target : Fields β) : Statement → Ran (Fields β)
  | .convert name size =>
    (convertArray convert (sizeOf size) (source.text name) (target.text name)).andThen fun text =>
      .done {target with text := Function.update target.text name text}
  | .helper _ => .undefined -- the call has been printed from missing arguments
  | .assign name => .done {target with other := Function.update target.other name (source.other name)}

def run (source : Fields α) : List Statement → Fields β → Ran (Fields β)
  | [],target => .done target
  | statement :: rest,target => (execute convert sizeOf source target statement).andThen (run source rest)

end

def ftd2prd (sizeOf : List Char → Nat) (node : Node) (pFtd : Fields UInt8) (pPrd : Fields UInt16) :
    Ran (Fields UInt16) :=
  run widened sizeOf pFtd ((members node).map memberStatement) pPrd

def prd2ftd (sizeOf : List Char → Nat) (node : Node) (pPrd : Fields UInt16) (pFtd : Fields UInt8) :
    Ran (Fields UInt8) :=
  run narrowed sizeOf pPrd ((members node).map memberStatement) pFtd

/-- Each array of characters has its size, and in it a text in UTF-8 with its terminator. -/
def Valid (sizeOf : List Char → Nat) (node : Node) (ftd : Fields UInt8) : Prop :=
  ∀ param ∈ members node, isText param → (ftd.text param.paramName).length = sizeOf param.paramSize + 1 ∧
    ∃ text rest, '\x00' ∉ text ∧ ftd.text param.paramName = utf8 text ++ 0 :: rest

/-- The texts of the arrays are as before, and all bytes of the other members. -/
def Restored (node : Node) (ftd back : Fields UInt8) : Prop :=
  ∀ param ∈ members node,
    (isText param → cut (back.text param.paramName) = cut (ftd.text param.paramName)) ∧
      (¬isText param → back.other param.paramName = ftd.other param.paramName)

/-- Each line is printed with its arguments, and the conversions succeed one after the other, whatever was in
the structs that they write, and give back what was there. -/
structure Correct (node : Node) : Prop where
  printed : ∀ line ∈ defineLines node ++ implLines node, line.printed = true
  restores : ∀ (sizeOf : List Char → Nat) (ftd again : Fields UInt8) (prd : Fields UInt16), Valid sizeOf node ftd →
    ∃ middle back, ftd2prd sizeOf node ftd prd = .done middle ∧ prd2ftd sizeOf node middle again = .done back ∧
      Restored node ftd back

/-- The arrays are of char. -/
def Plain (node : Node) : Prop := ∀ param ∈ members node, param.paramSize ≠ [] → param.paramType = char

theorem memberStatement_text (param : Param) (text : isText param) :
    memberStatement param = .convert param.paramName param.paramSize := by
  rw [memberStatement,if_pos text.1,if_pos text.2]

theorem memberStatement_copy (param : Param) (single : ¬param.paramSize ≠ []) :
    memberStatement param = .assign param.paramName := if_neg single

theorem memberStatement_helper (param : Param) (array : param.paramSize ≠ []) (other : param.paramType ≠ char) :
    memberStatement param = .helper param.paramName := by
  rw [memberStatement,if_pos array,if_neg other]

theorem structLines_printed (kind : String) (member : Param → Line) (node : Node)
    (printed : ∀ param, (member param).printed = true) :
    ∀ line ∈ structLines kind member node, line.printed = true := by
  rw [structLines,List.forall_mem_append,List.forall_mem_append]
  refine ⟨⟨?_,?_⟩,?_⟩
  · simp only [List.forall_mem_cons,List.not_mem_nil,false_imp_iff,implies_true,and_true]
    exact ⟨rfl,rfl⟩
  · rw [List.forall_mem_map]
    exact fun param _ => printed param
  · simp only [List.forall_mem_cons,List.not_mem_nil,false_imp_iff,implies_true,and_true]
    exact ⟨rfl,rfl⟩

theorem defineLines_printed (node : Node) : ∀ line ∈ defineLines node, line.printed = true := by
  rw [defineLines,List.forall_mem_append,List.forall_mem_append]
  refine ⟨⟨structLines_printed "ftd" ftdMember node ?_,structLines_printed "prd" prdMember node ?_⟩,?_⟩
  · intro param
    rw [ftdMember]
    split_ifs
    · rfl
    · rfl
  · intro param
    rw [prdMember]
    split_ifs
    · rfl
    · rfl
    · rfl
  · simp only [List.forall_mem_cons,List.not_mem_nil,false_imp_iff,implies_true,and_true]
    exact ⟨rfl,rfl,rfl⟩

theorem functionLines_printed (first : Line) (lines : Statement → List Line) (node : Node)
    (starts : first.printed = true) : (∀ line ∈ functionLines first lines node, line.printed = true) ↔
      ∀ param ∈ members node, ∀ line ∈ lines (memberStatement param), line.printed = true := by
  have head : ∀ line ∈ [first,fixed "\x7b\n",fixed "    int32 iRet = 0;\n"], line.printed = true := by
    simp only [List.forall_mem_cons,List.not_mem_nil,false_imp_iff,implies_true,and_true]
    exact ⟨starts,rfl,rfl⟩
  have last : ∀ line ∈ [fixed "    return 0;\n",fixed "\x7d\n\n"], line.printed = true := by
    simp only [List.forall_mem_cons,List.not_mem_nil,false_imp_iff,implies_true,and_true]
    exact ⟨rfl,rfl⟩
  rw [functionLines,List.forall_mem_append,List.forall_mem_append,List.forall_mem_flatMap,List.forall_mem_map]
  exact ⟨fun all => all.1.2,fun inner => ⟨⟨head,inner⟩,last⟩⟩

theorem lines_printed (statement : Statement) (direct : ∀ name, statement ≠ .helper name) :
    (∀ line ∈ prd2ftdLines statement, line.printed = true) ∧
      ∀ line ∈ ftd2prdLines statement, line.printed = true := by
  cases statement with
  | helper name => exact absurd rfl (direct name)
  | convert name size =>
    simp only [prd2ftdLines,ftd2prdLines,returnLines,List.cons_append,List.nil_append,List.forall_mem_cons,
      List.not_mem_nil,false_imp_iff,implies_true,and_true]
    exact ⟨⟨rfl,rfl,rfl,rfl,rfl⟩,rfl,rfl,rfl,rfl,rfl⟩
  | assign name =>
    simp only [prd2ftdLines,ftd2prdLines,List.forall_mem_cons,List.not_mem_nil,false_imp_iff,implies_true,and_true]
    exact ⟨rfl,rfl⟩

theorem printed_iff (node : Node) :
    (∀ line ∈ defineLines node ++ implLines node, line.printed = true) ↔ Plain node := by
  rw [List.forall_mem_append,implLines,List.forall_mem_append,functionLines_printed _ _ _ rfl,
    functionLines_printed _ _ _ rfl]
  constructor
  · rintro ⟨-,there,-⟩ param member array
    by_contra other
    have printed := there param member
    rw [memberStatement_helper param array other] at printed
    exact absurd (printed _ List.mem_cons_self) nofun
  · intro arrays
    have direct (param : Param) (member : param ∈ members node) (name : List Char) :
        memberStatement param ≠ .helper name := by
      by_cases array : param.paramSize ≠ []
      · rw [memberStatement_text param ⟨array,arrays param member array⟩]
        nofun
      · rw [memberStatement_copy param array]
        nofun
    exact ⟨defineLines_printed node,fun param member => (lines_printed _ (direct param member)).1,
      fun param member => (lines_printed _ (direct param member)).2⟩

section
variable {α β : Type} [DecidableEq α] [OfNat α 0] [OfNat β 0] (convert : List α → List β)
  (sizeOf : List Char → Nat)

theorem cut_text (text rest : List α) (free : 0 ∉ text) : cut (text ++ 0 :: rest) = text := by
  have all : ∀ unit ∈ text, decide (unit ≠ 0) = true := fun unit member =>
    decide_eq_true fun zero => free (zero ▸ member)
  rw [cut,List.takeWhile_append_of_pos all,List.takeWhile_cons_of_neg (by simp),List.append_nil]

/-- The array takes the conversion of this text. -/
def Takes (source : Fields α) (param : Param) : Prop :=
  0 ∈ source.text param.paramName ∧
    (convert (cut (source.text param.paramName))).length ≤ sizeOf param.paramSize

/-- What the target of the conversion has of a member then. -/
def TextDone (source : Fields α) (target : Fields β) (name : List Char) : Prop :=
  ∃ rest, target.text name = convert (cut (source.text name)) ++ 0 :: rest

theorem execute_done (source : Fields α) (target : Fields β) (param : Param)
    (direct : param.paramSize ≠ [] → param.paramType = char) (takes : isText param → Takes convert sizeOf source param) :
    ∃ next, execute convert sizeOf source target (memberStatement param) = .done next ∧
      (isText param → TextDone convert source next param.paramName) ∧
      (¬isText param → next.other param.paramName = source.other param.paramName) ∧
      (∀ name, TextDone convert source target name → TextDone convert source next name) ∧
      ∀ name, target.other name = source.other name → next.other name = source.other name := by
  by_cases text : isText param
  · obtain ⟨ends,fits⟩ := takes text
    have size : (convert (cut (source.text param.paramName)) ++ [(0 : β)]).length ≤ sizeOf param.paramSize + 1 := by
      rw [List.length_append]
      exact Nat.succ_le_succ fits
    rw [memberStatement_text param text,execute,convertArray,if_pos ends]
    dsimp only
    rw [if_pos size]
    refine ⟨_,rfl,?_,fun other => absurd text other,?_,fun _ same => same⟩
    · intro _
      refine ⟨_,(Function.update_self ..).trans (List.append_assoc ..)⟩
    · intro name done
      by_cases same : name = param.paramName
      · subst same
        exact ⟨_,(Function.update_self ..).trans (List.append_assoc ..)⟩
      · obtain ⟨rest,done⟩ := done
        exact ⟨rest,(Function.update_of_ne same _ _).trans done⟩
  · have single : ¬param.paramSize ≠ [] := fun array => text ⟨array,direct array⟩
    rw [memberStatement_copy param single,execute]
    refine ⟨_,rfl,fun other => absurd other text,fun _ => Function.update_self ..,fun _ done => done,?_⟩
    intro name done
    by_cases same : name = param.paramName
    · subst same
      exact Function.update_self ..
    · exact (Function.update_of_ne same _ _).trans done

theorem run_done (source : Fields α) (params : List Param) (target : Fields β)
    (direct : ∀ param ∈ params, param.paramSize ≠ [] → param.paramType = char)
    (takes : ∀ param ∈ params, isText param → Takes convert sizeOf source param) :
    ∃ last, run convert sizeOf source (params.map memberStatement) target = .done last ∧
      (∀ param ∈ params, (isText param → TextDone convert source last param.paramName) ∧
        (¬isText param → last.other param.paramName = source.other param.paramName)) ∧
      (∀ name, TextDone convert source target name → TextDone convert source last name) ∧
      ∀ name, target.other name = source.other name → last.other name = source.other name := by
  induction params generalizing target with
  | nil => exact ⟨target,rfl,by simp,fun _ done => done,fun _ done => done⟩
  | cons param params ih =>
    obtain ⟨next,first,text,copy,texts,copies⟩ := execute_done convert sizeOf source target param
      (direct param List.mem_cons_self) (takes param List.mem_cons_self)
    obtain ⟨last,rest,each,keeps,kept⟩ := ih next
      (fun param member => direct param (List.mem_cons_of_mem _ member))
      (fun param member => takes param (List.mem_cons_of_mem _ member))
    refine ⟨last,?_,?_,fun name done => keeps name (texts name done),fun name done => kept name (copies name done)⟩
    · rw [List.map_cons,run,first]
      exact rest
    · rw [List.forall_mem_cons]
      exact ⟨⟨fun is => keeps _ (text is),fun other => kept _ (copy other)⟩,each⟩

end

theorem plain_restores (node : Node) (arrays : Plain node) (sizeOf : List Char → Nat) (ftd again : Fields UInt8)
    (prd : Fields UInt16) (valid : Valid sizeOf node ftd) :
    ∃ middle back, ftd2prd sizeOf node ftd prd = .done middle ∧ prd2ftd sizeOf node middle again = .done back ∧
      Restored node ftd back := by
  have takes : ∀ param ∈ members node, isText param → Takes widened sizeOf ftd param := by
    intro param member is
    obtain ⟨size,text,rest,free,same⟩ := valid param member is
    rw [Takes,same,cut_text _ _ (utf8_free text free),widened_utf8]
    have narrow := utf16_length text
    rw [same,List.length_append,List.length_cons] at size
    exact ⟨List.mem_append_right _ List.mem_cons_self,by omega⟩
  obtain ⟨middle,there,done,-⟩ := run_done widened sizeOf ftd (members node) prd arrays takes
  have back : ∀ param ∈ members node, isText param → Takes narrowed sizeOf middle param ∧
      narrowed (cut (middle.text param.paramName)) = cut (ftd.text param.paramName) := by
    intro param member is
    obtain ⟨size,text,rest,free,same⟩ := valid param member is
    obtain ⟨later,converted⟩ := (done param member).1 is
    rw [same,cut_text _ _ (utf8_free text free),widened_utf8] at converted
    rw [Takes,converted,cut_text _ _ (utf16_free text free),narrowed_utf16,same,
      cut_text _ _ (utf8_free text free)]
    rw [same,List.length_append,List.length_cons] at size
    exact ⟨⟨List.mem_append_right _ List.mem_cons_self,by omega⟩,rfl⟩
  obtain ⟨last,again,ends,-⟩ := run_done narrowed sizeOf middle (members node) again arrays
    fun param member is => (back param member is).1
  refine ⟨middle,last,there,again,fun param member => ⟨fun is => ?_,fun other => ?_⟩⟩
  · obtain ⟨rest,converted⟩ := (ends param member).1 is
    rw [converted,(back param member is).2]
    obtain ⟨-,text,later,free,same⟩ := valid param member is
    rw [same,cut_text _ _ (utf8_free text free),cut_text _ _ (utf8_free text free)]
  · exact ((ends param member).2 other).trans ((done param member).2 other)

/-- A struct, as ParserFtd stores it, becomes correct code exactly when its arrays are of char. -/
theorem conversions_correct_iff (node : Node) : Correct node ↔ Plain node :=
  ⟨fun correct => (printed_iff node).mp correct.printed,
    fun arrays => ⟨(printed_iff node).mpr arrays,plain_restores node arrays⟩⟩

def teamText : List Char := "struct Team\x7bint32 score[MAX];\x7d;".toList

/-- The members of the one struct that has been stored. -/
def onlyStruct : Returned FtdParser.FtdFile → Option (List Param)
  | .returned true file => if file.nodeIndex = 1 then some (members (file.nodeSet 0)) else none
  | _ => none

theorem teamText_stored : onlyStruct (FtdParser.parserFtd teamText) =
    some [⟨['i','n','t','3','2'],['s','c','o','r','e'],['M','A','X']⟩] := by
  decide +kernel

theorem conversions_correct_array : ∃ file, FtdParser.parserFtd teamText = .returned true file ∧
    file.nodeIndex = 1 ∧ ¬Correct (file.nodeSet 0) := by
  have stored := teamText_stored
  cases parsed : FtdParser.parserFtd teamText with
  | undefined =>
    rw [parsed] at stored
    cases stored
  | returned result file =>
    rw [parsed] at stored
    cases result with
    | false => cases stored
    | true =>
      obtain ⟨one,stored⟩ := Option.ite_none_right_eq_some.mp stored
      refine ⟨file,rfl,one,fun correct => ?_⟩
      have arrays := (printed_iff _).mp correct.printed
      rw [Plain,Option.some.inj stored] at arrays
      exact absurd (arrays _ List.mem_cons_self (by decide)) (by decide)

end Fantuan.Gen.FtdConversions

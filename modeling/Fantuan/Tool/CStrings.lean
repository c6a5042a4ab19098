import Mathlib.Data.List.TakeWhile
import Fantuan.ServerBase.ServerCommon

/-! C strings in fixed buffers: strcpy_s, strtok_s, and the conversions of util.cpp. A C string is the list
of its bytes before the NUL; the conversion of the OS from UTF-8 is a parameter.
-/
namespace Fantuan.Tool.CStrings
open ServerBase.ServerCommon

def accountNameMax := 32
def passwordMax := 32

/-- char strAccountName[ACCOUNTNAME_MAX*3 + 1] -/
def accountBytes := accountNameMax * 3 + 1

/-- TCHAR m_strAccountName[ACCOUNTNAME_MAX+1] -/
def accountUnits := accountNameMax + 1

def cString (bytes : List UInt8) : List UInt8 := bytes.takeWhile fun byte => byte ≠ 0

inductive Copy where
  | copied (text : List UInt8)
  | aborted -- the invalid parameter handler
  | overrun
  deriving DecidableEq

/-- strcpy_s into a buffer of so many bytes that is told to have size bytes. It copies until it has
copied a NUL or size bytes, and in the second case it aborts. -/
def strcpyS (capacity size : Nat) (source : List UInt8) : Copy :=
  let text := cString (source.take size)
  if capacity < min (text.length + 1) size then .overrun
  else if text.length < size then .copied text
  else .aborted

/-- MultiByteToWideChar fails when the text and its NUL do not fit count units. -/
def char2WChar (utf8 : List UInt8 → WString) (count : Nat) (text : List UInt8) : Option WString :=
  if (utf8 text).length < count then some (utf8 text) else none

/-- WideCharToMultiByte fails likewise. -/
def wchar2Char (narrow : WString → List UInt8) (count : Nat) (text : WString) : Option (List UInt8) :=
  if (narrow text).length < count then some (narrow text) else none

def lowerUnit (unit : UInt16) : UInt16 := if 65 ≤ unit ∧ unit ≤ 90 then unit + 32 else unit

def lowerCase (text : WString) : WString := text.map lowerUnit

/-- The end of a token: its text, the byte that ends it, and the bytes behind that. -/
def tokenEnd (delimiter : UInt8) : List UInt8 → Option (List UInt8 × UInt8 × List UInt8)
  | [] => none
  | byte :: bytes =>
    if byte = delimiter ∨ byte = 0 then some ([],byte,bytes)
    else (tokenEnd delimiter bytes).map fun found => (byte :: found.1,found.2)

/-- What strtok_s returns and leaves in its context, and how many bytes it has read. -/
structure Scan where
  token : Option (List UInt8)
  next : List UInt8
  reads : Nat
  deriving DecidableEq

def Scan.ofEnd (bytes text : List UInt8) (last : UInt8) (rest : List UInt8) : Scan where
  token := if text = [] then none else some text
  next := if last = 0 then last :: rest else rest
  reads := bytes.length - rest.length

/-- strtok_s with one delimiter, without a result where it runs out of the bytes. It overwrites the
delimiter behind the token, which is not read again. -/
def strtokS (delimiter : UInt8) (bytes : List UInt8) : Option Scan :=
  (tokenEnd delimiter (bytes.dropWhile fun byte => byte = delimiter)).map fun found =>
    Scan.ofEnd bytes found.1 found.2.1 found.2.2

section
variable (delimiter : UInt8)

theorem tokenEnd_spec (bytes text rest : List UInt8) (last : UInt8)
    (found : tokenEnd delimiter bytes = some (text,last,rest)) :
    bytes = text ++ last :: rest ∧ (∀ byte ∈ text, byte ≠ delimiter ∧ byte ≠ 0) ∧
      (last = delimiter ∨ last = 0) := by
  induction bytes generalizing text with
  | nil => cases found
  | cons byte bytes ih =>
    rw [tokenEnd] at found
    split at found
    next ends =>
      cases found
      exact ⟨rfl,by simp,ends⟩
    next inside =>
      obtain ⟨⟨inner,ending⟩,later,same⟩ := Option.map_eq_some_iff.mp found
      cases same
      obtain ⟨split,free,ends⟩ := ih inner later
      refine ⟨by rw [split]; rfl,?_,ends⟩
      intro other member
      rcases List.mem_cons.mp member with rfl | within
      · exact not_or.mp inside
      · exact free other within

theorem tokenEnd_append (front back text rest : List UInt8) (last : UInt8)
    (found : tokenEnd delimiter front = some (text,last,rest)) :
    tokenEnd delimiter (front ++ back) = some (text,last,rest ++ back) := by
  induction front generalizing text with
  | nil => cases found
  | cons byte front ih =>
    rw [tokenEnd] at found
    rw [List.cons_append,tokenEnd]
    split at found
    next ends =>
      cases found
      rw [if_pos ends]
    next inside =>
      obtain ⟨⟨inner,ending⟩,later,same⟩ := Option.map_eq_some_iff.mp found
      cases same
      rw [if_neg inside,ih inner later]
      rfl

theorem tokenEnd_short (front back text rest : List UInt8) (last : UInt8)
    (unended : tokenEnd delimiter front = none)
    (found : tokenEnd delimiter (front ++ back) = some (text,last,rest)) : rest.length < back.length := by
  induction front generalizing text with
  | nil =>
    have split := (tokenEnd_spec delimiter back text rest last found).1
    rw [split,List.length_append,List.length_cons]
    omega
  | cons byte front ih =>
    rw [tokenEnd] at unended
    rw [List.cons_append,tokenEnd] at found
    split at unended
    · cases unended
    next inside =>
      rw [if_neg inside] at found
      obtain ⟨⟨inner,ending⟩,later,same⟩ := Option.map_eq_some_iff.mp found
      cases same
      exact ih inner (Option.map_eq_none_iff.mp unended) later

/-- What a scan says about the bytes: so many delimiters, the token, its end and the rest. -/
theorem strtokS_spec (bytes : List UInt8) (scan : Scan) (found : strtokS delimiter bytes = some scan) :
    ∃ count text last rest, bytes = List.replicate count delimiter ++ (text ++ last :: rest) ∧
      (∀ byte ∈ text, byte ≠ delimiter ∧ byte ≠ 0) ∧ (last = delimiter ∨ last = 0) ∧
      (text = [] → last ≠ delimiter) ∧ scan = Scan.ofEnd bytes text last rest := by
  obtain ⟨⟨text,last,rest⟩,ended,same⟩ := Option.map_eq_some_iff.mp found
  obtain ⟨split,free,ends⟩ := tokenEnd_spec delimiter _ text rest last ended
  let skipped := bytes.takeWhile fun byte => byte = delimiter
  have equal : ∀ byte ∈ skipped, byte = delimiter := fun byte member => by
    simpa using List.mem_takeWhile_imp member
  have whole : skipped ++ bytes.dropWhile (fun byte => byte = delimiter) = bytes :=
    List.takeWhile_append_dropWhile
  refine ⟨skipped.length,text,last,rest,?_,free,ends,?_,same.symm⟩
  · rw [← List.eq_replicate_of_mem equal,← split]
    exact whole.symm
  · intro empty
    rw [empty] at split
    have head := List.head?_dropWhile_not (fun byte => byte = delimiter) bytes
    rw [split] at head
    simpa using head

theorem strtokS_append (front back : List UInt8) (scan : Scan) (found : strtokS delimiter front = some scan) :
    strtokS delimiter (front ++ back) = some {scan with next := scan.next ++ back} := by
  obtain ⟨⟨text,last,rest⟩,ended,same⟩ := Option.map_eq_some_iff.mp found
  have remains : front.dropWhile (fun byte => byte = delimiter) ≠ [] := by
    intro empty
    rw [empty] at ended
    cases ended
  have shorter : rest.length ≤ front.length := by
    have split := congrArg List.length (tokenEnd_spec delimiter _ text rest last ended).1
    have drops := List.length_dropWhile_le (fun byte => byte = delimiter) front
    rw [List.length_append,List.length_cons] at split
    omega
  rw [strtokS,List.dropWhile_append,if_neg (by simpa using remains),
    tokenEnd_append delimiter _ back text rest last ended,← same]
  have reads : (front ++ back).length - (rest ++ back).length = front.length - rest.length := by
    rw [List.length_append,List.length_append]
    omega
  have next : (if last = 0 then last :: (rest ++ back) else rest ++ back) =
      (if last = 0 then last :: rest else rest) ++ back := by
    split <;> rfl
  simp only [Option.map_some,Scan.ofEnd,reads,next]

theorem strtokS_short (front back : List UInt8) (scan : Scan) (unended : strtokS delimiter front = none)
    (found : strtokS delimiter (front ++ back) = some scan) : front.length < scan.reads := by
  obtain ⟨⟨text,last,rest⟩,ended,same⟩ := Option.map_eq_some_iff.mp found
  have unended := Option.map_eq_none_iff.mp unended
  have shorter : rest.length < back.length := by
    rw [List.dropWhile_append] at ended
    split at ended
    · have split := congrArg List.length (tokenEnd_spec delimiter _ text rest last ended).1
      have drops := List.length_dropWhile_le (fun byte => byte = delimiter) back
      rw [List.length_append,List.length_cons] at split
      omega
    · exact tokenEnd_short delimiter _ back text rest last unended ended
  rw [← same]
  change front.length < (front ++ back).length - rest.length
  rw [List.length_append]
  omega

theorem strtokS_reads (bytes : List UInt8) (scan : Scan) (found : strtokS delimiter bytes = some scan) :
    scan.next.length ≤ bytes.length ∧ 0 < scan.reads ∧ scan.reads ≤ bytes.length ∧
      scan.reads ≤ bytes.length - scan.next.length + 1 := by
  obtain ⟨count,text,last,rest,split,-,-,-,rfl⟩ := strtokS_spec delimiter bytes scan found
  have size := congrArg List.length split
  rw [List.length_append,List.length_append,List.length_cons] at size
  simp only [Scan.ofEnd]
  split
  · rw [List.length_cons]
    omega
  · omega

theorem strtokS_token (bytes token : List UInt8) (scan : Scan) (found : strtokS delimiter bytes = some scan)
    (some : scan.token = some token) : token ≠ [] ∧ ∀ byte ∈ token, byte ≠ delimiter ∧ byte ≠ 0 := by
  obtain ⟨count,text,last,rest,-,free,-,-,rfl⟩ := strtokS_spec delimiter bytes scan found
  simp only [Scan.ofEnd] at some
  split at some
  · cases some
  next more =>
    cases some
    exact ⟨more,free⟩

end

theorem cString_eq (text : List UInt8) (free : ∀ byte ∈ text, byte ≠ 0) : cString text = text := by
  rw [cString,List.takeWhile_eq_self_iff]
  simpa using free

theorem cString_append (text rest : List UInt8) (free : ∀ byte ∈ text, byte ≠ 0) :
    cString (text ++ rest) = text ++ cString rest :=
  List.takeWhile_append_of_pos (by simpa using free)

/-- A string that is as long as its buffer is too long, for its NUL. -/
theorem strcpyS_whole (size : Nat) (text : List UInt8) (free : ∀ byte ∈ text, byte ≠ 0) :
    strcpyS size size text = if text.length < size then .copied text else .aborted := by
  have part : cString (text.take size) = text.take size :=
    cString_eq _ fun byte member => free byte (List.mem_of_mem_take member)
  rw [strcpyS,part,if_neg (by omega)]
  by_cases fits : text.length < size
  · rw [List.take_of_length_le (by omega)]
  · rw [if_neg fits,if_neg (by rw [List.length_take]; omega)]

end Fantuan.Tool.CStrings

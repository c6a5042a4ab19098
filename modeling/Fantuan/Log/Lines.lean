import Fantuan.Lib.Bytes
import Fantuan.Lib.Utf
import Fantuan.ServerBase.ServerCommon
import Mathlib.Data.List.TakeWhile

/-! The lines of the log: how Push formats one, and what a buffer of TCHARs with its NUL says.
-/
namespace Fantuan.Log.Lines
open ServerBase.ServerCommon Lib.Bytes

/-- BUFFER_MAX_SIZE, of TCHARs in Buffer and RealBuffer, of bytes in m_pBuffer. -/
def bufferMaxSize := 65535

def wide (text : String) : WString := Lib.Utf.utf16 text.toList

structure SystemTime where
  wYear : UInt16
  wMonth : UInt16
  wDay : UInt16
  wHour : UInt16
  wMinute : UInt16
  wSecond : UInt16
  deriving DecidableEq

def decimal (value : Nat) : WString := Lib.Utf.utf16 (Nat.toDigits 10 value)

def twoDigits (value : UInt16) : WString :=
  if value.toNat < 10 then wide "0" ++ decimal value.toNat else decimal value.toNat

def level2String : Int → WString
  | 0 => wide "DEBUG"
  | 1 => wide "STATE"
  | 2 => wide "WARNI"
  | 3 => wide "ERROR"
  | _ => []

/-- [%02d.%02d.%02d %02d:%02d:%02d][%s] -/
def header (now : SystemTime) (iLogLevel : Int) : WString :=
  wide "[" ++ twoDigits now.wYear ++ wide "." ++ twoDigits now.wMonth ++ wide "." ++ twoDigits now.wDay ++
    wide " " ++ twoDigits now.wHour ++ wide ":" ++ twoDigits now.wMinute ++ wide ":" ++
    twoDigits now.wSecond ++ wide "][" ++ level2String iLogLevel ++ wide "]"

/-- The text in a buffer of TCHARs: what is before its first NUL. -/
def wcs (text : WString) : WString := text.takeWhile fun unit => unit ≠ 0

def wideBytes (text : WString) : List UInt8 := text.flatMap fun unit => le 2 unit.toNat

/-- The text in a buffer of bytes that is read as TCHARs. -/
def wideText : List UInt8 → WString
  | low :: high :: bytes =>
    if ofLe [low,high] = 0 then [] else UInt16.ofNat (ofLe [low,high]) :: wideText bytes
  | _ => []

def realBuffer (now : SystemTime) (iLogLevel : Int) (text : WString) : WString :=
  header now iLogLevel ++ wcs text ++ wide "\n"

/-- A Push whose line fits into RealBuffer with its NUL. -/
structure Line where
  now : SystemTime
  iLogLevel : Int
  text : WString
  fits : (realBuffer now iLogLevel text).length < bufferMaxSize
  deriving DecidableEq

def Line.real (line : Line) : WString := realBuffer line.now line.iLogLevel line.text

def Line.whole (line : Line) : WString := header line.now line.iLogLevel ++ line.text ++ wide "\n"

theorem wcs_eq_self (text : WString) (free : 0 ∉ text) : wcs text = text := by
  rw [wcs,List.takeWhile_eq_self_iff]
  intro unit member
  simpa using fun (zero : unit = 0) => free (zero ▸ member)

theorem wcs_shorter (text : WString) (cut : 0 ∈ text) : (wcs text).length < text.length := by
  have shorter : (wcs text).length ≤ text.length := (List.takeWhile_prefix _).length_le
  apply Nat.lt_of_le_of_ne shorter
  intro same
  have whole : wcs text = text := (List.takeWhile_prefix _).eq_of_length same
  have nonzero := List.mem_takeWhile_imp (whole.symm ▸ cut : (0 : UInt16) ∈ wcs text)
  simp at nonzero

theorem decimal_free (value : Nat) : 0 ∉ decimal value := by
  apply Lib.Utf.utf16_free
  intro member
  have digit := Nat.isDigit_of_mem_toDigits (by decide) (by decide) member
  exact absurd digit (by decide)

theorem twoDigits_free (value : UInt16) : 0 ∉ twoDigits value := by
  rw [twoDigits]
  split
  · rw [List.mem_append,not_or]
    exact ⟨by decide,decimal_free _⟩
  · exact decimal_free _

theorem header_free (now : SystemTime) (iLogLevel : Int) : 0 ∉ header now iLogLevel := by
  have level : 0 ∉ level2String iLogLevel := by
    rw [level2String.eq_def]
    split <;> decide
  have dot : (0 : UInt16) ∉ wide "." := by decide
  have colon : (0 : UInt16) ∉ wide ":" := by decide
  have others : (0 : UInt16) ∉ wide "[" ∧ (0 : UInt16) ∉ wide " " ∧ (0 : UInt16) ∉ wide "][" ∧
    (0 : UInt16) ∉ wide "]" := by decide
  simp only [header,List.mem_append,not_or]
  simp only [level,dot,colon,others,twoDigits_free,not_false_eq_true,and_self]

theorem wcs_free (text : WString) : 0 ∉ wcs text := by
  intro member
  have nonzero := List.mem_takeWhile_imp member
  simp at nonzero

theorem real_free (line : Line) : 0 ∉ line.real := by
  have newline : (0 : UInt16) ∉ wide "\n" := by decide
  simp only [Line.real,realBuffer,List.mem_append,not_or]
  exact ⟨⟨header_free _ _,wcs_free _⟩,newline⟩

/-- RealBuffer holds the whole line where the text has no NUL in it, and less where it has one. -/
theorem real_whole (line : Line) (free : 0 ∉ line.text) : line.real = line.whole := by
  rw [Line.real,realBuffer,wcs_eq_self _ free]
  rfl

theorem real_shorter (line : Line) (cut : 0 ∈ line.text) : line.real.length < line.whole.length := by
  have shorter := wcs_shorter line.text cut
  rw [Line.real,realBuffer,Line.whole]
  simp only [List.length_append]
  omega

theorem wideBytes_length (text : WString) : (wideBytes text).length = 2 * text.length := by
  induction text with
  | nil => rfl
  | cons unit text ih =>
    rw [wideBytes,List.flatMap_cons,List.length_append,length_le,List.length_cons]
    change 2 + (wideBytes text).length = _
    omega

theorem wideBytes_append (front back : WString) : wideBytes (front ++ back) = wideBytes front ++ wideBytes back :=
  List.flatMap_append

theorem wideText_bytes (text : WString) (free : 0 ∉ text) (rest : List UInt8) :
    wideText (wideBytes text ++ 0 :: 0 :: rest) = text := by
  induction text with
  | nil => rfl
  | cons unit text ih =>
    obtain ⟨first,later⟩ := not_or.mp (List.mem_cons.not.mp free)
    have spelled : ofLe (le 2 unit.toNat) = unit.toNat := ofLe_le 2 _ (by simpa using unit.toNat_lt)
    have nonzero : unit.toNat ≠ 0 := by
      intro zero
      exact first (UInt16.toNat_inj.mp zero.symm)
    change wideText (UInt8.ofNat unit.toNat :: UInt8.ofNat (unit.toNat / 256) ::
      (wideBytes text ++ 0 :: 0 :: rest)) = unit :: text
    change ofLe [UInt8.ofNat unit.toNat,UInt8.ofNat (unit.toNat / 256)] = unit.toNat at spelled
    rw [wideText,spelled,if_neg nonzero,ih later,UInt16.ofNat_toNat]

end Fantuan.Log.Lines

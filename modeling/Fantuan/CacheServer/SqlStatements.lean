import Fantuan.CacheServer.CacheDBEvent
import Fantuan.Lib.Sql

/-! The statements of the events that paste names between quotes, and how MySQL reads them.
-/
namespace Fantuan.CacheServer.SqlStatements
open Lib.Sql

def sqlStatementMax := 4096
def nameMax := 32

/-- What a TCHAR array of ACCOUNTNAME_MAX+1 or AVATARNAME_MAX+1 can hold. -/
structure Name where
  units : Text
  fits : units.length ≤ nameMax
  free : 0 ∉ units

def wide (text : List Char) : Text := text.map fun c => UInt16.ofNat c.toNat

/-- The invalid parameter handler is called for a text that does not fit. -/
def swprintfS (count : Nat) (text : Text) : Option Text := if text.length < count then some text else none

def spGetAvatarList : Text :=
  wide ['S','P','_','G','e','t','A','v','a','t','a','r','L','i','s','t']

def spCreateAvatar : Text := wide ['S','P','_','C','r','e','a','t','e','A','v','a','t','a','r']

def callWord : Text := wide ['c','a','l','l']

/-- The format up to its first %s. -/
def opening (procedure : Text) (rest : Text) : Text := callWord ++ 32 :: (procedure ++ 40 :: quote :: rest)

/-- The format behind its last %s. -/
def closing : Text := quote :: wide [')',';']

/-- The format between its two %s. -/
def between (rest : Text) : Text := quote :: (wide [',',' '] ++ quote :: rest)

def getAvatarListSql (accountName : Name) : Option Text :=
  swprintfS sqlStatementMax (opening spGetAvatarList (accountName.units ++ closing))

def createAvatarSql (accountName avatarName : Name) : Option Text :=
  swprintfS sqlStatementMax
    (opening spCreateAvatar (accountName.units ++ between (avatarName.units ++ closing)))

def callTokens (procedure : Text) (arguments : List Text) : List Token :=
  .word callWord :: .word procedure :: .sign 40 ::
    ((arguments.map Token.text).intersperse (Token.sign 44) ++ [Token.sign 41,Token.sign 59])

/-- The text is a call of the procedure with these arguments, and nothing else. -/
def OneCall (sql : Option Text) (procedure : Text) (arguments : List Text) : Prop :=
  ∃ text, sql = some text ∧ tokens text = some (callTokens procedure arguments)

theorem swprintfS_fits (text : Text) (fits : text.length < sqlStatementMax) :
    swprintfS sqlStatementMax text = some text := if_pos fits

theorem oneCall_iff (text procedure : Text) (arguments : List Text) (fits : text.length < sqlStatementMax) :
    OneCall (swprintfS sqlStatementMax text) procedure arguments ↔ Reads text (callTokens procedure arguments) := by
  rw [OneCall,swprintfS_fits text fits]
  constructor
  · rintro ⟨_,same,found⟩
    cases same
    exact (tokens_eq_some_iff _ _).mp found
  · intro found
    exact ⟨text,rfl,(tokens_eq_some_iff _ _).mpr found⟩

theorem opening_length (procedure rest : Text) :
    (opening procedure rest).length = procedure.length + rest.length + 7 := by
  have word : callWord.length = 4 := rfl
  simp only [opening,List.length_append,List.length_cons,word]
  omega

theorem opening_reads (procedure rest : Text) (ts : List Token) (some : procedure ≠ [])
    (word : ∀ unit ∈ procedure, isWord unit = true) :
    Reads (opening procedure rest) (.word callWord :: .word procedure :: .sign 40 :: ts) ↔
      Reads (quote :: rest) ts := by
  rw [opening,reads_word callWord 32 _ _ (by decide) (List.all_eq_true.mp rfl) rfl,reads_space,
    reads_word procedure 40 _ _ some word rfl,reads_sign 40 _ _ rfl]

theorem closing_reads (name : Text) :
    Reads (quote :: (name ++ closing)) [Token.text name,Token.sign 41,Token.sign 59] ↔ plain name = true := by
  have ending : Reads (wide [')',';']) [Token.sign 41,Token.sign 59] :=
    (reads_sign 41 _ _ rfl).mpr ((reads_sign 59 _ _ rfl).mpr reads_nil)
  rw [closing,reads_argument name (wide [')',';']) 41 [Token.sign 59] (by decide) (by decide)]
  exact and_iff_left ending

theorem between_reads (first second : Text) :
    Reads (quote :: (first ++ between (second ++ closing)))
      [Token.text first,Token.sign 44,Token.text second,Token.sign 41,Token.sign 59] ↔
      plain first = true ∧ plain second = true := by
  have room : (wide [',',' '] ++ quote :: (second ++ closing)).length ≤
      total [Token.sign 44,Token.text second,Token.sign 41,Token.sign 59] + 1 := by
    change (second ++ closing).length + 3 ≤ 1 + (second.length + 2 + 2) + 1
    rw [List.length_append]
    change second.length + 3 + 3 ≤ _
    omega
  have ends : (wide [',',' '] ++ quote :: (second ++ closing)).head? ≠ some quote := by
    change some (44 : UInt16) ≠ some 39
    decide
  rw [between,reads_argument first _ 44 _ room ends]
  refine and_congr_right fun _ => ?_
  rw [← closing_reads second]
  exact (reads_sign 44 _ _ rfl).trans (reads_space _ _)

theorem getAvatarList_iff (accountName : Name) :
    OneCall (getAvatarListSql accountName) spGetAvatarList [accountName.units] ↔
      plain accountName.units = true := by
  have short := accountName.fits
  rw [getAvatarListSql,oneCall_iff,← closing_reads]
  · exact opening_reads spGetAvatarList _ _ (by decide) (List.all_eq_true.mp rfl)
  · have sizes : closing.length = 3 ∧ spGetAvatarList.length = 16 := ⟨rfl,rfl⟩
    rw [opening_length,List.length_append,sizes.1,sizes.2]
    rw [nameMax] at short
    rw [sqlStatementMax]
    omega

theorem createAvatar_iff (accountName avatarName : Name) :
    OneCall (createAvatarSql accountName avatarName) spCreateAvatar [accountName.units,avatarName.units] ↔
      plain accountName.units = true ∧ plain avatarName.units = true := by
  have short := accountName.fits
  have other := avatarName.fits
  rw [createAvatarSql,oneCall_iff,← between_reads]
  · exact opening_reads spCreateAvatar _ _ (by decide) (List.all_eq_true.mp rfl)
  · have sizes : closing.length = 3 ∧ spCreateAvatar.length = 15 := ⟨rfl,rfl⟩
    have middle (rest : Text) : (between rest).length = rest.length + 4 := rfl
    rw [opening_length,List.length_append,middle,List.length_append,sizes.1,sizes.2]
    rw [nameMax] at short other
    rw [sqlStatementMax]
    omega

/-- Both texts are read as the one call with the names exactly when neither name has a quote, and each
backslash in them stands before a wildcard. -/
theorem sql_safe_iff (accountName avatarName : Name) :
    (OneCall (getAvatarListSql accountName) spGetAvatarList [accountName.units] ∧
      OneCall (createAvatarSql accountName avatarName) spCreateAvatar [accountName.units,avatarName.units]) ↔
      plain accountName.units = true ∧ plain avatarName.units = true := by
  rw [getAvatarList_iff,createAvatar_iff]
  exact ⟨fun both => both.2,fun both => ⟨both.1,both⟩⟩

def injectedUnits : Text :=
  wide ['x'] ++ quote :: (wide [')',';'] ++ opening spGetAvatarList (wide ['a']))

theorem injected_fits : injectedUnits.length ≤ nameMax := by decide
theorem injected_free : 0 ∉ injectedUnits := by decide
theorem account_fits : (wide ['a']).length ≤ nameMax := by decide
theorem account_free : 0 ∉ wide ['a'] := by decide

def injected : Name := ⟨injectedUnits,injected_fits,injected_free⟩
def account : Name := ⟨wide ['a'],account_fits,account_free⟩

/-- The name ends its literal and adds a call. -/
theorem injected_calls : (createAvatarSql account injected).bind tokens =
    some (callTokens spCreateAvatar [wide ['a'],wide ['x']] ++ callTokens spGetAvatarList [wide ['a']]) := by
  decide +kernel

theorem sql_safe_injected : ¬(OneCall (getAvatarListSql account) spGetAvatarList [account.units] ∧
    OneCall (createAvatarSql account injected) spCreateAvatar [account.units,injected.units]) := by
  rintro ⟨-,text,same,found⟩
  have calls := injected_calls
  rw [same,Option.bind_some,found] at calls
  have length := congrArg List.length (Option.some.inj calls)
  cases length

end Fantuan.CacheServer.SqlStatements

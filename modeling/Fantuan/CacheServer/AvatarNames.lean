import Mathlib.Data.List.GetD
import Fantuan.CacheServer.AvatarCreates
import Fantuan.CacheServer.EventResults
import Fantuan.Lib.Utf
import Fantuan.Tool.CStrings

/-! The name of an avatar from the packet that asks for it to the packets that tell of it: through the
conversions of the master and of the cache, a column of the database, and back.
-/
namespace Fantuan.CacheServer.AvatarNames
open ServerBase.ServerCommon Tool.ObjectPool Tool.CStrings Lib.Utf CacheDBEvent ServerLoop Player AvatarCreates
  EventResults

def avatarNameMax := 32

/-- TCHAR and char m_strAvatarName[AVATARNAME_MAX+1] -/
def avatarNameSize := avatarNameMax + 1

/-- The conversions of the OS. A legal text keeps its characters, and what is illegal is replaced by
characters that are not. -/
structure Os where
  widen : List UInt8 → WString
  narrow : WString → List UInt8
  widens : ∀ text, widen (utf8 text) = utf16 text
  narrows : ∀ text, narrow (utf16 text) = utf8 text
  replaces : ∀ bytes, ∃ text, widen bytes = utf16 text

def osEnv (os : Os) (env : Env) : Env :=
  {env with
    char2WChar := char2WChar os.widen avatarNameSize
    wchar2Char := wchar2Char os.narrow avatarNameSize}

/-- ftdAvatarCreateData2prdAvatarCreateData in the master, which passes the packet on, and then in the cache.
A field without a terminator is read into what is behind it in the memory of each. -/
def accept (os : Os) (field master cache : List UInt8) : Option WString :=
  match char2WChar os.widen avatarNameSize (cString (field ++ master)) with
  | some _ => char2WChar os.widen avatarNameSize (cString (field ++ cache))
  | none => none

/-- The parameters of the procedure are VARCHAR(32): a longer text is refused, or it is cut. -/
def Passes (os : Os) (connection : Connection) : Prop :=
  ∀ accountName avatarName account name, connection.arguments accountName avatarName = some (account,name) →
    account = (os.narrow accountName).take avatarNameMax ∧ name = (os.narrow avatarName).take avatarNameMax

/-- FireEvent for a list of which these are the ids and the texts in the database. -/
def listFired (env : Env) (sessionId : UInt32) (accountName : WString) (stored : List (UInt64 × Text)) :
    PlayerDBEvent :=
  fireEvent (some (stored.map fun row => ⟨row.1,env.char2WChar row.2⟩))
    ⟨sessionId,0,.getAvatarList accountName []⟩

def Kept (env : Env) (text : Text) : Prop :=
  ∃ name, env.char2WChar text = some name ∧ env.wchar2Char name = some text

def Sends (packet : Packet) (s t : Cache) : Prop :=
  ∃ success marks, t.log = marks ++ .sent (.client packet) success :: s.log

section
variable {Key : Type} [DecidableEq Key] (key : Text → Key)

/-- A creation that inserts a row is acknowledged, and so is each list with that row then, where its other
names can be told and the player waits for it. -/
def Answerable (connection : Connection) (env : Env) (avatarName : WString) : Prop :=
  ∀ player accountName db s row, (s.contexts player).avatarCount.toNat < avatarCountMax →
    (create key connection env player accountName avatarName db s).1.avatar = db.avatar ++ [row] →
    (∃ sent, Sends (.avatarCreateAck 0 sent) s
      (create key connection env player accountName avatarName db s).2) ∧
    ∀ player accountName stored s, stored.length ≤ avatarCountMax →
      (∀ other ∈ stored, other.2 ≠ row.avatarName → Kept env other.2) →
      (transition (s.contexts player).state .avatarListAck).isSome = true →
      Sends (.avatarListAck 0 stored) s (onPlayerEventResult env player
        (listFired env (s.contexts player).sessionId accountName stored) s)

/-- A request is dropped before it reaches the database, or its name is answered for. -/
def Answers (os : Os) (connection : Connection) (env : Env) (field master cache : List UInt8) : Prop :=
  ∀ avatarName, accept os field master cache = some avatarName →
    Answerable key connection (osEnv os env) avatarName

end

/-- The name is not inserted for any account, or in UTF-8 it has no more than 32 bytes. -/
def Fits (os : Os) (connection : Connection) (field master cache : List UInt8) : Prop :=
  ∀ avatarName, accept os field master cache = some avatarName →
    (∃ accountName, (connection.arguments accountName avatarName).isSome = true) →
    (os.narrow avatarName).length ≤ avatarNameMax

theorem accept_some (os : Os) (field master cache : List UInt8) (avatarName : WString)
    (accepted : accept os field master cache = some avatarName) :
    avatarName = os.widen (cString (field ++ cache)) ∧ avatarName.length < avatarNameSize := by
  rw [accept] at accepted
  cases first : char2WChar os.widen avatarNameSize (cString (field ++ master)) with
  | none =>
    rw [first] at accepted
    cases accepted
  | some name =>
    rw [first] at accepted
    obtain ⟨fits,rfl⟩ := Option.ite_some_none_eq_some.mp accepted
    exact ⟨rfl,fits⟩

theorem accept_back (os : Os) (field master cache : List UInt8) (avatarName : WString)
    (accepted : accept os field master cache = some avatarName) : os.widen (os.narrow avatarName) = avatarName := by
  obtain ⟨rfl,-⟩ := accept_some os field master cache avatarName accepted
  obtain ⟨text,same⟩ := os.replaces (cString (field ++ cache))
  rw [same,os.narrows,os.widens]

theorem accept_kept (os : Os) (env : Env) (field master cache : List UInt8) (avatarName : WString)
    (accepted : accept os field master cache = some avatarName)
    (fits : (os.narrow avatarName).length ≤ avatarNameMax) : Kept (osEnv os env) (os.narrow avatarName) := by
  have back := accept_back os field master cache avatarName accepted
  have short := (accept_some os field master cache avatarName accepted).2
  refine ⟨avatarName,?_,if_pos (Nat.lt_succ_of_le fits)⟩
  change (if (os.widen (os.narrow avatarName)).length < avatarNameSize then _ else _) = _
  rw [back,if_pos short]

theorem readAvatars_kept (env : Env) (stored : List (UInt64 × Text)) (avatars : List Avatar)
    (kept : ∀ row ∈ stored, Kept env row.2) :
    ∃ added, readAvatars (stored.map fun row => ⟨row.1,env.char2WChar row.2⟩) avatars = (0,avatars ++ added) ∧
      added.map (fun avatar => (avatar.avatarId,env.wchar2Char avatar.avatarName)) =
        stored.map fun row => (row.1,some row.2) := by
  induction stored generalizing avatars with
  | nil => exact ⟨[],by rw [List.append_nil]; rfl,rfl⟩
  | cons row stored ih =>
    obtain ⟨name,widens,narrows⟩ := kept row List.mem_cons_self
    obtain ⟨added,reads,told⟩ := ih (avatars ++ [⟨row.1,name⟩]) fun row member =>
      kept row (List.mem_cons_of_mem _ member)
    refine ⟨⟨row.1,name⟩ :: added,?_,?_⟩
    · rw [List.map_cons,widens,readAvatars]
      dsimp only
      rw [reads,List.append_assoc]
      rfl
    · rw [List.map_cons,List.map_cons,told,narrows]

theorem range_getD {α β : Type} (items : List α) (default : α) (f : α → β) :
    ((List.range items.length).map fun i => f (items.getD i default)) = items.map f := by
  apply List.ext_getElem
  · rw [List.length_map,List.length_range,List.length_map]
  · intro i first second
    rw [List.length_map,List.length_range] at first
    rw [List.getElem_map,List.getElem_map,List.getElem_range,List.getD_eq_getElem _ _ first]

theorem listResult_sends (env : Env) (player : Object) (arrayAvatar : List Avatar) (stored : List (UInt64 × Text))
    (s : Cache) (short : stored.length ≤ avatarCountMax)
    (told : arrayAvatar.map (fun avatar => (avatar.avatarId,env.wchar2Char avatar.avatarName)) =
      stored.map fun row => (row.1,some row.2))
    (waits : (transition (s.contexts player).state .avatarListAck).isSome = true) :
    Sends (.avatarListAck 0 stored) s (onPlayerEventGetAvatarListResult env player 0 arrayAvatar s) := by
  obtain ⟨state,next⟩ := Option.isSome_iff_exists.mp waits
  have length : arrayAvatar.length = stored.length := by
    have lengths := congrArg List.length told
    rwa [List.length_map,List.length_map] at lengths
  rw [onPlayerEventGetAvatarListResult,expect,next]
  dsimp only
  let awaited := s.update player fun context => {context with state := state}
  let listed := saveAvatars player 0 arrayAvatar awaited
  have count : (listed.contexts player).avatarCount.toNat = arrayAvatar.length := by
    change ((awaited.update player fun context => {context with
      avatarCount := UInt8.ofNat arrayAvatar.length}).contexts player).avatarCount.toNat = _
    rw [update_same]
    rw [avatarCountMax] at short
    exact UInt8.toNat_ofNat_of_lt' (by change _ < 256; omega)
  have entries := range_getD arrayAvatar ⟨0,[]⟩ fun avatar => (avatar.avatarId,env.wchar2Char avatar.avatarName)
  rw [count,entries,told]
  have all : ((stored.map fun row => (row.1,some row.2)).any fun entry => entry.2.isNone) = false := by
    rw [List.any_map,List.any_eq_false]
    intro _ _ unconverted
    cases unconverted
  rw [all,if_neg Bool.false_ne_true]
  have sent : ((List.range arrayAvatar.length).map fun i =>
      ((((stored.map fun row => (row.1,some row.2)).map fun entry => (entry.1,entry.2.getD [])).getD i (0,[])))) =
        stored := by
    rw [length,List.map_map]
    change ((List.range stored.length).map fun i => (stored.map id).getD i (0,[])) = stored
    rw [List.map_id]
    exact (range_getD stored (0,[]) id).trans (List.map_id stored)
  rw [sent]
  obtain ⟨success,marks,log,-⟩ := sendClient_log env player listed (.avatarListAck 0 stored)
  exact ⟨success,marks,log⟩

theorem list_sends (env : Env) (player : Object) (accountName : WString) (stored : List (UInt64 × Text))
    (s : Cache) (short : stored.length ≤ avatarCountMax) (kept : ∀ row ∈ stored, Kept env row.2)
    (waits : (transition (s.contexts player).state .avatarListAck).isSome = true) :
    Sends (.avatarListAck 0 stored) s (onPlayerEventResult env player
      (listFired env (s.contexts player).sessionId accountName stored) s) := by
  obtain ⟨added,reads,told⟩ := readAvatars_kept env stored [] kept
  have event : listFired env (s.contexts player).sessionId accountName stored =
      ⟨(s.contexts player).sessionId,0,.getAvatarList accountName added⟩ := by
    change PlayerDBEvent.mk _ (readAvatars _ []).1 (.getAvatarList accountName (readAvatars _ []).2) = _
    rw [reads]
    rfl
  rw [event]
  exact listResult_sends env player added stored s short told waits

section
variable {Key : Type} [DecidableEq Key] (key : Text → Key) (os : Os) (connection : Connection) (env : Env)
  (avatarName : WString)

/-- A name that can be told is told. -/
theorem answerable_kept (passes : Passes os connection) (fits : (os.narrow avatarName).length ≤ avatarNameMax)
    (kept : Kept (osEnv os env) (os.narrow avatarName)) : Answerable key connection (osEnv os env) avatarName := by
  intro player accountName db s row room inserted
  constructor
  · have cases_ := createResult_cases (osEnv os env) player s
      (carried avatarName (query key connection accountName avatarName db).2)
    rw [← create_result key connection (osEnv os env) player accountName avatarName db s,carried_name] at cases_
    obtain ⟨missing | full,-⟩ | ⟨name,success,marks,-,-,log,-⟩ := cases_
    · have told : (osEnv os env).wchar2Char avatarName = some (os.narrow avatarName) :=
        if_pos (Nat.lt_succ_of_le fits)
      rw [told] at missing
      cases missing
    · exact absurd full (Nat.not_le_of_gt room)
    · exact ⟨_,success,marks,log⟩
  · intro player' accountName' stored u short others waits
    obtain ⟨account,name,accountId,read,-,-,asked⟩ :=
      query_inserts key connection accountName avatarName db row inserted
    have text : row.avatarName = os.narrow avatarName := by
      change (query key connection accountName avatarName db).1.avatar = _ at inserted
      rw [asked] at inserted
      have same := (List.cons.inj (List.append_cancel_left inserted)).1
      rw [← same,← List.take_of_length_le fits]
      exact (passes accountName avatarName account name read).2
    refine list_sends (osEnv os env) player' accountName' stored u short (fun other member => ?_) waits
    by_cases same : other.2 = row.avatarName
    · rw [same,text]
      exact kept
    · exact others other member same

/-- One that has more bytes is not acknowledged where it is inserted. -/
theorem answerable_short (answers : Answerable key connection (osEnv os env) avatarName)
    (inserts : ∃ accountName, (connection.arguments accountName avatarName).isSome = true) :
    (os.narrow avatarName).length ≤ avatarNameMax := by
  obtain ⟨accountName,read⟩ := inserts
  obtain ⟨⟨account,name⟩,read⟩ := Option.isSome_iff_exists.mp read
  let db : Procedures.Database Text := ⟨[⟨1,account⟩],[],2,1⟩
  let s := Commands.init env.config
  have selected : Procedures.selectAccountId key account db = some (some 1) := by
    have mine : Procedures.accountsOf key account db = [⟨1,account⟩] := List.filter_cons_of_pos (by simp)
    rw [Procedures.selectAccountId,mine]
    rfl
  have asked : (create key connection (osEnv os env) 0 accountName avatarName db s).1.avatar =
      db.avatar ++ [⟨1,1,name,0⟩] := by
    change (query key connection accountName avatarName db).1.avatar = _
    rw [query_arguments key connection accountName avatarName db account name read,
      createAvatar_inserts key account name db 1 selected rfl]
    rfl
  obtain ⟨⟨sent,success,marks,log⟩,-⟩ := answers 0 accountName db s _ (Nat.succ_pos 9) asked
  have cases_ := createResult_cases (osEnv os env) 0 s
    (carried avatarName (query key connection accountName avatarName db).2)
  rw [← create_result key connection (osEnv os env) 0 accountName avatarName db s,carried_name] at cases_
  obtain ⟨-,same⟩ | ⟨told,-,-,narrows,-⟩ := cases_
  · rw [same] at log
    have lengths := congrArg List.length log
    rw [List.length_append,List.length_cons] at lengths
    omega
  · obtain ⟨fits,-⟩ := Option.ite_some_none_eq_some.mp narrows
    exact Nat.le_of_lt_succ fits

theorem fits_valid (text : List Char) (rest master cache : List UInt8) (free : '\x00' ∉ text)
    (short : (utf8 text).length ≤ avatarNameMax) : Fits os connection (utf8 text ++ 0 :: rest) master cache := by
  intro avatarName accepted _
  have same := (accept_some os _ master cache avatarName accepted).1
  have bytes : ∀ byte ∈ utf8 text, byte ≠ 0 := fun byte member zero => utf8_free text free (zero ▸ member)
  rw [List.append_assoc,cString_append _ _ bytes] at same
  have ends : cString (0 :: rest ++ cache) = [] := rfl
  rw [ends,List.append_nil,os.widens] at same
  rw [same,os.narrows]
  exact short

/-- Requests are answered exactly when the names that are inserted keep to the size of their fields. -/
theorem avatarName_answers_iff (field master cache : List UInt8) (passes : Passes os connection) :
    Answers key os connection env field master cache ↔ Fits os connection field master cache := by
  constructor
  · intro answers avatarName accepted inserts
    exact answerable_short key os connection env avatarName (answers avatarName accepted) inserts
  · intro fits avatarName accepted
    by_cases inserts : ∃ accountName, (connection.arguments accountName avatarName).isSome = true
    · have fits := fits avatarName accepted inserts
      exact answerable_kept key os connection env avatarName passes fits
        (accept_kept os env field master cache avatarName accepted fits)
    · intro player accountName db s row _ inserted
      obtain ⟨account,name,-,read,-⟩ := query_inserts key connection accountName avatarName db row inserted
      exact absurd ⟨accountName,by rw [read]; rfl⟩ inserts

end

/-- The conversions of Unicode, with one replacement character for each byte that is illegal. -/
def unicode : Os where
  widen := widened
  narrow := narrowed
  widens := widened_utf8
  narrows := narrowed_utf16
  replaces := fun _ => ⟨_,rfl⟩

/-- The names are read as they are written, and what is too long is cut. -/
def cutting : Connection where
  arguments accountName avatarName :=
    some ((narrowed accountName).take avatarNameMax,(narrowed avatarName).take avatarNameMax)
  stores := true

theorem cutting_passes : Passes unicode cutting := by
  intro accountName avatarName account name read
  cases read
  exact ⟨rfl,rfl⟩

def illegalField : List UInt8 := List.replicate 11 255 ++ List.replicate 22 0

theorem illegal_accepted : accept unicode illegalField [] [] = some (List.replicate 11 65533) := by decide +kernel

theorem illegal_narrowed : (narrowed (List.replicate 11 65533)).length = 33 := by decide +kernel

theorem avatarName_answers_ascii : Passes unicode cutting ∧
    (Answers id unicode cutting Commands.sampleEnv (97 :: List.replicate 32 0) [] [] ↔
      Fits unicode cutting (97 :: List.replicate 32 0) [] []) :=
  ⟨cutting_passes,avatarName_answers_iff id unicode cutting Commands.sampleEnv _ [] [] cutting_passes⟩

theorem avatarName_answers_illegal :
    ¬Answers id unicode cutting Commands.sampleEnv illegalField [] [] := by
  intro answers
  have short := answerable_short id unicode cutting Commands.sampleEnv _ (answers _ illegal_accepted) ⟨[97],rfl⟩
  change (narrowed (List.replicate 11 65533)).length ≤ 32 at short
  rw [illegal_narrowed] at short
  exact absurd short (by decide)

end Fantuan.CacheServer.AvatarNames

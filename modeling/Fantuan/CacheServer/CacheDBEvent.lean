import Fantuan.ServerBase.ServerCommon

/-! PlayerDBEvents: what the players of the cache ask the DB for, and how FireEvent fills in
the answer. MySQL is a parameter: its answer to the statement of an event.
-/
namespace Fantuan.CacheServer.CacheDBEvent
open ServerBase.ServerCommon

def avatarCountMax := 10

/-- prdAvatar. -/
structure Avatar where
  avatarId : UInt64
  avatarName : WString
  deriving DecidableEq

/-- The members of an event of each type; the list is its array up to m_iAvatarCount. -/
inductive EventData where
  | getAvatarList (accountName : WString) (arrayAvatar : List Avatar)
  | avatarCreate (accountName : WString) (avatar : Avatar)
  | avatarSelectData (avatarId : UInt64) (avatarName : WString) (lastChannelId : UInt8)
  | avatarEnterRegion (avatarId : UInt64) (avatarName : WString)
  | avatarSaveData (avatarName : WString) (lastChannelId : UInt8)
  | avatarLogout (avatarId : UInt64)
  | avatarFinalize
  deriving DecidableEq

def EventData.eventId : EventData → UInt32
  | .getAvatarList _ _ => 1
  | .avatarCreate _ _ => 2
  | .avatarSelectData _ _ _ => 3
  | .avatarEnterRegion _ _ => 4
  | .avatarSaveData _ _ => 5
  | .avatarLogout _ => 6
  | .avatarFinalize => 999

structure PlayerDBEvent where
  sessionId : UInt32
  ret : Int32
  data : EventData

/-- What FireEvent reads of a row: the number in its first column, and the name in its third
as Char2WChar converts it. -/
structure Row where
  number : UInt64
  name : Option WString

/-- A query fails or has rows; one that returns no data has none. -/
abbrev Answer := Option (List Row)

/-- A name that cannot be converted ends the reading. -/
def readAvatars : List Row → List Avatar → Int32 × List Avatar
  | [], avatars => (0,avatars)
  | row :: rows, avatars =>
    match row.name with
    | some name => readAvatars rows (avatars ++ [⟨row.number,name⟩])
    | none => (-1,avatars)

-- a query that fails leaves m_iRet at the 0 of the constructor
def fireEvent (answer : Answer) (event : PlayerDBEvent) : PlayerDBEvent :=
  match event.data,answer with
  | .getAvatarList accountName avatars,some rows =>
    let read := readAvatars rows avatars
    {event with ret := read.1, data := .getAvatarList accountName read.2}
  | .avatarCreate accountName avatar,some rows =>
    let created := rows.foldl (fun avatar row => {avatar with avatarId := row.number}) avatar
    {event with ret := 0, data := .avatarCreate accountName created}
  | .avatarSelectData avatarId avatarName lastChannelId,some rows =>
    let selected := rows.foldl (fun _ row => row.number.toUInt8) lastChannelId
    {event with ret := 0, data := .avatarSelectData avatarId avatarName selected}
  | .avatarEnterRegion _ _,_ | .avatarSaveData _ _,_ | .avatarLogout _,_ => {event with ret := 0}
  | _,_ => event

def overruns (answer : Answer) : EventData → Bool
  | .getAvatarList _ _ =>
    let rows := answer.getD []
    avatarCountMax < rows.length && (rows.take avatarCountMax).all fun row => row.name.isSome
  | _ => false

theorem fireEvent_same (answer : Answer) (event : PlayerDBEvent) :
    (fireEvent answer event).sessionId = event.sessionId ∧
      (fireEvent answer event).data.eventId = event.data.eventId := by
  obtain ⟨sessionId,ret,data⟩ := event
  cases data <;> cases answer <;> exact ⟨rfl,rfl⟩

end Fantuan.CacheServer.CacheDBEvent

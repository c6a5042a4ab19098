import Fantuan.ServerBase.SessionRecv
import Fantuan.StarNet.ServerStreams
import Fantuan.Tool.CStrings

/-! ChatSession: its state machine, the login and the packets behind it. An accepted login returns from
OnData with the login message still in m_RecvBuf, where the packets are appended to it.
-/
namespace Fantuan.ChatServer.Sessions
open StarNet.Packet StarNet.RecvLoop StarNet.RecvStream StarNet.RecvChunks ServerBase.ServerCommon Tool.CStrings
open ServerBase.SessionRecv (packetLoop Chunk ClientPacket stream)

inductive SessionState where
  | none | onConnection | disconnect | onDisconnect | loggedIn | onLoginReq
  deriving DecidableEq

inductive SessionEvent where
  | onConnection | disconnect | onDisconnect | onData | send | loggedIn | onLoginReq
  deriving DecidableEq

def initStateMachine : SessionState → List (SessionEvent × SessionState)
  | .none => [(.onConnection,.onConnection)]
  | .onConnection => [(.disconnect,.disconnect),(.onDisconnect,.onDisconnect),(.onData,.onConnection),
      (.loggedIn,.loggedIn)]
  | .disconnect => [(.onDisconnect,.onDisconnect)]
  | .onDisconnect => []
  | .loggedIn => [(.disconnect,.disconnect),(.onDisconnect,.onDisconnect),(.onData,.loggedIn),
      (.send,.loggedIn)]
  | .onLoginReq => [(.disconnect,.disconnect),(.onDisconnect,.onDisconnect),(.onData,.onLoginReq),
      (.send,.onLoginReq)]

def transition (state : SessionState) (event : SessionEvent) : Option SessionState :=
  ((initStateMachine state).find? fun row => row.1 = event).map Prod.snd

/-- The members that OnData and the login use. -/
structure ChatSession where
  currState : SessionState
  recvBuf : List UInt8
  accountName : WString
  deriving DecidableEq

def connected : ChatSession := ⟨.onConnection,[],[]⟩

inductive Exit where
  | returned
  | undefined -- a copy left its source or its target
  | aborted -- strcpy_s called the invalid parameter handler
  | running
  deriving DecidableEq

/-- The results of HandleLoginPacket, what was done with the packets, and how OnData ended. -/
structure DataRun where
  logins : List Int
  actions : List (Action ServerPacket)
  exit : Exit
  session : ChatSession
  deriving DecidableEq

/-- m_strAccountName counts only after a conversion that succeeds. -/
def nameAccount (utf8 : List UInt8 → WString) (text : List UInt8) (session : ChatSession) :
    Int × ChatSession :=
  match char2WChar utf8 accountUnits text with
  | none => (-1,session)
  | some name =>
    if name.length = 0 then (-1,{session with accountName := name})
    else (0,{session with accountName := lowerCase name})

def loggedInNtf (session : ChatSession) : Int × ChatSession :=
  match transition session.currState .loggedIn with
  | some next => if next = .loggedIn then (0,{session with currState := next})
      else (-1,{session with currState := next})
  | none => (-1,session)

/-- The connection is there, so Disconnect only asks it to disconnect. -/
def handleLoginPacket (utf8 : List UInt8 → WString) (session : ChatSession) : Exit × Int × ChatSession :=
  match strcpyS accountBytes session.recvBuf.length session.recvBuf with
  | .overrun => (.undefined,0,session)
  | .aborted => (.aborted,0,session)
  | .copied text =>
    let (checked,named) := nameAccount utf8 text session
    if checked ≠ 0 then (.returned,-2,named)
    else
      let (notified,told) := loggedInNtf named
      if notified ≠ 0 then (.returned,-3,told) else (.returned,1,told)

/-- OnData in ONCONNECTION; a result of 0 would clear the buffer. -/
def loginData (utf8 : List UInt8 → WString) : Nat → ChatSession → List UInt8 → DataRun
  | 0, session, _ => ⟨[],[],.running,session⟩
  | fuel + 1, session, chunk =>
    let count := copyLength packetLoop session.recvBuf chunk
    let copied := .copy session.recvBuf.length count chunk.length
    if session.recvBuf.length + count ≤ maxInputBuffer ∧ count ≤ chunk.length then
      let filled := {session with recvBuf := session.recvBuf ++ chunk.take count}
      let next (session : ChatSession) (logins : List Int) : DataRun :=
        if (chunk.drop count).isEmpty then ⟨logins,[copied],.returned,session⟩
        else
          let run := loginData utf8 fuel session (chunk.drop count)
          {run with logins := logins ++ run.logins, actions := copied :: run.actions}
      if filled.recvBuf = [] then next filled []
      else
        match handleLoginPacket utf8 filled with
        | (.returned,result,tried) =>
          if result ≠ 0 then ⟨[result],[copied],.returned,tried⟩
          else next {tried with recvBuf := []} [result]
        | (exit,_,tried) => ⟨[],[copied],exit,tried⟩
    else ⟨[],[copied],.undefined,session⟩

def packetData (fuel : Nat) (session : ChatSession) (chunk : List UInt8) : DataRun :=
  let run := receive packetLoop fuel session.recvBuf chunk
  match run.exit with
  | .returned left => ⟨[],run.actions,.returned,{session with recvBuf := left}⟩
  | .undefined => ⟨[],run.actions,.undefined,session⟩
  | .running => ⟨[],run.actions,.running,session⟩

def onData (utf8 : List UInt8 → WString) (fuel : Nat) (session : ChatSession) (chunk : List UInt8) : DataRun :=
  if transition session.currState .onData ≠ some session.currState then ⟨[],[],.returned,session⟩
  else if session.currState = .onConnection then loginData utf8 fuel session chunk
  else packetData fuel session chunk

def onDatas (utf8 : List UInt8 → WString) (fuel : Nat) : ChatSession → List Chunk → DataRun
  | session, [] => ⟨[],[],.returned,session⟩
  | session, chunk :: chunks =>
    let first := onData utf8 fuel session chunk.val
    if first.exit = .returned then
      let rest := onDatas utf8 fuel first.session chunks
      {rest with logins := first.logins ++ rest.logins, actions := first.actions ++ rest.actions}
    else first

/-- The login that the first chunks bring is accepted and all of it gone, none of it was handled as a
packet, and the packets of the others are dispatched. -/
structure Enters (utf8 : List UInt8 → WString) (fuel : Nat) (login chunks : List Chunk)
    (packets : List ClientPacket) : Prop where
  returned : (onDatas utf8 fuel connected login).exit = .returned
  accepted : (onDatas utf8 fuel connected login).session.currState = .loggedIn
  cleared : (onDatas utf8 fuel connected login).session.recvBuf = []
  silent : calls (onDatas utf8 fuel connected login).actions = []
  sent : received chunks = stream packets
  ended : (onDatas utf8 fuel (onDatas utf8 fuel connected login).session chunks).exit = .returned
  dispatched : calls (onDatas utf8 fuel (onDatas utf8 fuel connected login).session chunks).actions =
    packets.map fun packet => (packet.packet,true)

/-- A session that is logged in still has received bytes to treat as packets. -/
def Remains (session : ChatSession) : Prop := session.currState = .loggedIn → session.recvBuf ≠ []

section
variable (utf8 : List UInt8 → WString)

theorem nameAccount_recvBuf (text : List UInt8) (session : ChatSession) :
    (nameAccount utf8 text session).2.recvBuf = session.recvBuf := by
  rw [nameAccount]
  split
  · rfl
  · split <;> rfl

theorem loggedInNtf_recvBuf (session : ChatSession) :
    (loggedInNtf session).2.recvBuf = session.recvBuf := by
  rw [loggedInNtf]
  split
  · split <;> rfl
  · rfl

/-- HandleLoginPacket leaves the received bytes where they are, and never returns 0. -/
theorem handleLoginPacket_leaves (session : ChatSession) :
    (handleLoginPacket utf8 session).2.2.recvBuf = session.recvBuf ∧
      ((handleLoginPacket utf8 session).1 = .returned → (handleLoginPacket utf8 session).2.1 ≠ 0) := by
  rw [handleLoginPacket]
  split
  · exact ⟨rfl,fun wrong => by cases wrong⟩
  · exact ⟨rfl,fun wrong => by cases wrong⟩
  next text _ =>
    have named := nameAccount_recvBuf utf8 text session
    dsimp only
    split
    · exact ⟨named,fun _ => by simp⟩
    · have told := (loggedInNtf_recvBuf (nameAccount utf8 text session).2).trans named
      split
      · exact ⟨told,fun _ => by simp⟩
      · exact ⟨told,fun _ => by simp⟩

theorem loginData_remains (fuel : Nat) (session : ChatSession) (chunk : List UInt8)
    (waits : session.currState ≠ .loggedIn) : Remains (loginData utf8 fuel session chunk).session := by
  have start (session : ChatSession) (waits : session.currState ≠ .loggedIn) : Remains session :=
    fun accepted => absurd accepted waits
  induction fuel generalizing session chunk with
  | zero => exact start session waits
  | succ fuel ih =>
    rw [loginData]
    dsimp only
    split
    · split
      · split
        · exact start _ waits
        · exact ih _ _ waits
      next filled =>
        have leaves := handleLoginPacket_leaves utf8
          {session with recvBuf := session.recvBuf ++ chunk.take (copyLength packetLoop session.recvBuf chunk)}
        split
        next result tried handled =>
          rw [handled] at leaves
          rw [if_pos (leaves.2 rfl)]
          intro _
          change tried.recvBuf ≠ []
          rw [leaves.1]
          exact filled
        next exit result tried _ handled =>
          rw [handled] at leaves
          intro _
          change tried.recvBuf ≠ []
          rw [leaves.1]
          exact filled
    · exact start session waits

theorem packetData_remains (fuel : Nat) (session : ChatSession) (chunk : List UInt8) (remains : Remains session)
    (silent : calls (packetData fuel session chunk).actions = []) :
    Remains (packetData fuel session chunk).session := by
  rw [packetData] at silent ⊢
  split
  next left returned =>
    rw [returned] at silent
    have uncalled := receive_uncalled packetLoop fuel session.recvBuf chunk left returned silent
    intro accepted
    have some := remains accepted
    change left ≠ []
    rw [uncalled]
    simp [some]
  · exact remains
  · exact remains

theorem onData_remains (fuel : Nat) (session : ChatSession) (chunk : List UInt8) (remains : Remains session)
    (silent : calls (onData utf8 fuel session chunk).actions = []) :
    Remains (onData utf8 fuel session chunk).session := by
  rw [onData] at silent ⊢
  split
  · exact remains
  next takes =>
    rw [if_neg takes] at silent
    split
    next connecting => exact loginData_remains utf8 fuel session chunk (by rw [connecting]; simp)
    next later =>
      rw [if_neg later] at silent
      exact packetData_remains fuel session chunk remains silent

theorem onDatas_remains (fuel : Nat) (session : ChatSession) (chunks : List Chunk) (remains : Remains session)
    (silent : calls (onDatas utf8 fuel session chunks).actions = []) :
    Remains (onDatas utf8 fuel session chunks).session := by
  induction chunks generalizing session with
  | nil => exact remains
  | cons chunk chunks ih =>
    rw [onDatas] at silent ⊢
    dsimp only at silent ⊢
    split
    next returned =>
      rw [if_pos returned] at silent
      dsimp only at silent
      rw [calls_append] at silent
      obtain ⟨now,later⟩ := List.append_eq_nil_iff.mp silent
      exact ih _ (onData_remains utf8 fuel session chunk.val remains now) later
    next stopped =>
      rw [if_neg stopped] at silent
      exact onData_remains utf8 fuel session chunk.val remains silent

end

/-- No login is taken in as it should be: whatever is accepted stays in the buffer. -/
theorem onDatas_enters_never (utf8 : List UInt8 → WString) (fuel : Nat) (login chunks : List Chunk)
    (packets : List ClientPacket) : ¬ Enters utf8 fuel login chunks packets := by
  intro enters
  have fresh : Remains connected := fun accepted => by cases accepted
  exact onDatas_remains utf8 fuel connected login fresh enters.silent enters.accepted enters.cleared

/-- The account "a" is accepted, and the packet behind it is appended to the login message. -/
theorem onDatas_enters_account :
    let ascii := fun text : List UInt8 => text.map UInt8.toUInt16
    let entered := (onDatas ascii 9 connected [⟨[97,0],by decide⟩]).session
    let sent : Chunk := ⟨[1,2,1,0,7],by decide⟩
    let packet : ClientPacket := ⟨0x0201,[7],by decide⟩
    entered = ⟨.loggedIn,[97,0],[97]⟩ ∧ received [sent] = stream [packet] ∧
      calls (onDatas ascii 9 entered [sent]).actions = [] ∧
      ¬ Enters ascii 9 [⟨[97,0],by decide⟩] [sent] [packet] := by
  refine ⟨by decide,by decide,by decide,fun enters => ?_⟩
  have cleared := enters.cleared
  revert cleared
  decide

end Fantuan.ChatServer.Sessions

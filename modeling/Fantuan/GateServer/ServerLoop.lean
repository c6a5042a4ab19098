import Fantuan.Lib.Drain
import Fantuan.Lib.Table
import Fantuan.ServerBase.ServerCommon
import Fantuan.Tool.ObjectPool

/-! GateServerLoop: the sessions of a gate, by their ids and account names, and the pass
that clears the finalizing ones. The receive buffer, the token and the keys, which Clear
resets too, are left out.
-/
namespace Fantuan.GateServer.ServerLoop
open Lib.Table Lib.Drain ServerBase.ServerCommon Tool.ObjectPool

inductive SessionState where
  | none | onConnection | disconnect | onDisconnect | loggedIn | transfered | onGateAllocReq
  | gateAllocAck | gateReleaseReq | gateLoginReq | holdConnection | onMasterDisconnect
  deriving DecidableEq

/-- A connection and a region server are their ids. -/
structure GateSession where
  sessionId : UInt32
  connection : Option Nat
  state : SessionState
  connectionTime : UInt32
  loggedInTime : UInt32
  accountName : WString
  loginSessionId : UInt32
  finalizing : Bool
  tempSession : Bool
  regionServer : Option UInt8
  deriving DecidableEq

/-- The session id stays, and so does the login session id. -/
def GateSession.clear (session : GateSession) : GateSession :=
  {session with
    connection := .none
    state := .none
    connectionTime := 0
    loggedInTime := 0
    accountName := []
    finalizing := false
    tempSession := true
    regionServer := .none}

structure Loop where
  shutdownStatus : ShutdownStatus
  sessionPool : Pool
  sessions : Object → GateSession
  sessionMap : Map UInt32 Object
  sessionMapByName : Map WString Object
  sessionCount : UInt16
  tempSessionCount : UInt16
  finalizingQueue : List Object

/-- Only a session that is not temporary is taken from the names. -/
def clearSession (session : Object) (s : Loop) : Loop :=
  let data := s.sessions session
  {s with
    sessionMap := erase data.sessionId s.sessionMap
    sessionMapByName :=
      if data.tempSession = false then erase data.accountName s.sessionMapByName
      else s.sessionMapByName
    sessionCount := if data.tempSession then s.sessionCount else s.sessionCount - 1
    tempSessionCount := if data.tempSession then s.tempSessionCount - 1 else s.tempSessionCount
    sessions := Function.update s.sessions session data.clear
    sessionPool := s.sessionPool.release session}

def clearFinalizing (s : Loop) : Loop :=
  {drainBack clearSession s.finalizingQueue s with finalizingQueue := []}

def loopPass (s : Loop) : Loop :=
  let drained := clearFinalizing s
  if drained.shutdownStatus = .startShutdown then {drained with shutdownStatus := .readyForShutdown}
  else drained

structure Gone (session : Object) (s : Loop) : Prop where
  sessions : ∀ sessionId, find sessionId s.sessionMap ≠ some session
  names : ∀ accountName, find accountName s.sessionMapByName ≠ some session

/-- The session is only where ClearSession looks: under its id and, unless it is temporary,
its account name. -/
structure Placed (session : Object) (s : Loop) : Prop where
  sessions : ∀ sessionId, find sessionId s.sessionMap = some session →
    sessionId = (s.sessions session).sessionId
  names : ∀ accountName, find accountName s.sessionMapByName = some session →
    (s.sessions session).tempSession = false ∧ accountName = (s.sessions session).accountName

theorem clearSession_gone (session : Object) (s : Loop) :
    Gone session (clearSession session s) ↔ Placed session s := by
  have sessions := erase_unlisted (s.sessions session).sessionId session s.sessionMap
  have names := erase_if_unlisted ((s.sessions session).tempSession = false)
    (s.sessions session).accountName session s.sessionMapByName
  constructor
  · rintro ⟨noSession,noName⟩
    exact ⟨sessions.mp noSession,names.mp noName⟩
  · rintro ⟨oneSession,oneName⟩
    exact ⟨sessions.mpr oneSession,names.mpr oneName⟩

/-- Every queued session is returned to the pool once, cleared and gone, and the queue is
empty. -/
def Passed (s after : Loop) : Prop :=
  after.finalizingQueue = [] ∧ Disposed (fun s => s.sessionPool.objectList)
    (fun session s => s.sessions session = (s.sessions session).clear) Gone s.finalizingQueue s after

theorem clearFinalizing_passed (s : Loop) : Passed s (clearFinalizing s) ↔
    s.finalizingQueue.length ≤ 1 ∧ ∀ session ∈ s.finalizingQueue, Placed session s := by
  have blank (session : Object) (s : Loop) : (clearSession session s).sessions session =
      ((clearSession session s).sessions session).clear := by
    unfold clearSession
    dsimp only
    rw [Function.update_self]
    rfl
  have drained := drainBack_disposed (fun s : Loop => s.sessionPool.objectList)
    (fun session s => s.sessions session = (s.sessions session).clear) Gone clearSession
    (fun _ _ => rfl) blank s.finalizingQueue s
  simp only [clearSession_gone] at drained
  have empty : (clearFinalizing s).finalizingQueue = [] := rfl
  rw [← drained,Passed,and_iff_right empty]
  exact disposed_congr _ _ _ s.finalizingQueue s _ (clearFinalizing s) rfl (fun _ => Iff.rfl)
    fun _ => ⟨fun gone => {gone with},fun gone => {gone with}⟩

theorem loopPass_passed (s : Loop) : Passed s (loopPass s) ↔
    s.finalizingQueue.length ≤ 1 ∧ ∀ session ∈ s.finalizingQueue, Placed session s := by
  rw [← clearFinalizing_passed,loopPass]
  split
  · apply and_congr Iff.rfl
    exact disposed_congr _ _ _ s.finalizingQueue s (clearFinalizing s) _ rfl (fun _ => Iff.rfl)
      fun _ => ⟨fun gone => {gone with},fun gone => {gone with}⟩
  · rfl

end Fantuan.GateServer.ServerLoop

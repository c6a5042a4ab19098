import Fantuan.GateServer.Session
import Fantuan.Lib.Run

/-! The commands of the gate loop, its alarms and its passes. A run is a sequence of them in
any order, from the state that Init leaves. The network reports the end of a connection once.
-/
namespace Fantuan.GateServer.Commands
open Lib.Table ServerBase.ServerCommon Tool.ObjectPool ServerLoop Session

/-- m_iSessionMax of the loop, which hides the one of its base class. -/
def sessionMax (config : Config) : UInt16 := config.sessionMax + config.sessionMax / 5

def tempSessionMax (config : Config) : UInt16 :=
  config.sessionMax * 2 - sessionMax config

/-- The maximum of the base class and of the session pool. -/
def poolMax (config : Config) : Nat := (config.sessionMax * 2).toNat

/-- serverId_ and session_index_ of a session that has not been used. -/
def initialSessionId (config : Config) (index : Nat) : UInt32 :=
  config.serverId.toUInt32 * 16777216 + UInt32.ofNat index * 256

def blankSession (sessionId : UInt32) : GateSession where
  sessionId := sessionId
  connection := none
  state := .none
  connectionTime := 0
  loggedInTime := 0
  accountName := []
  loginSessionId := 0
  finalizing := false
  tempSession := true
  regionServer := none

/-- Init allocates all sessions, numbers them and frees them in this order. -/
def init (config : Config) : Gate where
  shutdownStatus := .notShutdown
  sessionPool := ⟨List.range (poolMax config),poolMax config,poolMax config,0⟩
  sessions := fun index =>
    blankSession (if index < poolMax config then initialSessionId config index else 0)
  sessionMap := ∅
  sessionMapByName := ∅
  sessionCount := 0
  tempSessionCount := 0
  finalizingQueue := []
  currTime := 0
  connections := fun _ => ⟨false,none⟩
  log := []
  undefined := false

def onCommandOnConnect (config : Config) (connection : Nat) (s : Gate) : Gate :=
  if tempSessionMax config ≤ s.tempSessionCount then asyncDisconnect (some connection) s
  else match s.sessionPool.allocate with
    | (none,_) => asyncDisconnect (some connection) s
    | (some session,pool) =>
      let connected := onConnection session connection {s with sessionPool := pool}
      {connected with tempSessionCount := connected.tempSessionCount + 1}

def onCommandOnData (env : Env) (connection : Nat) (login : Login) (packets : Nat) (s : Gate) : Gate :=
  match (s.connections connection).client with
  | some session =>
    if (s.sessions session).finalizing then s else onData env session login packets s
  | none => s

def unmapSession (session : Object) (s : Gate) : Gate :=
  {s with sessionMap := erase (s.sessions session).sessionId s.sessionMap}

def onCommandOnDisconnect (env : Env) (connection : Nat) (s : Gate) : Gate :=
  match (s.connections connection).client with
  | some session => onDisconnect env session (unmapSession session s)
  | none => s

/-- GetSession lets the index that is one too high through to the array. -/
def forSession (sessionId : UInt32) (handle : Object → Gate → Gate) (s : Gate) : Gate :=
  match getSession sessionId s with
  | some session => handle session s
  | none =>
    {s with undefined := s.undefined || (sessionIndex sessionId).toNat = s.sessionPool.maxSize}

def onCommandShutdown (env : Env) (s : Gate) : Gate :=
  (values s.sessionMap).foldl (fun s session =>
    if (s.sessions session).connection.isSome then disconnect env session s
    else closeSession env session false s) {s with shutdownStatus := .startShutdown}

def onCommandGateAllocReq (env : Env) (loginSessionId : UInt32) (accountName : WString) (s : Gate) :
    Gate :=
  let asked := s.note (.gateAllocReq loginSessionId accountName)
  if (find accountName s.sessionMapByName).isSome then asked
  else if sessionMax env.config ≤ s.sessionCount then
    send env (.gateAllocAck env.config.serverId loginSessionId accountName 0) asked
  else match s.sessionPool.allocate with
    | (none,_) => {asked with undefined := true}
    | (some session,pool) =>
      onGateAllocReq env session loginSessionId accountName {asked with
        sessionPool := pool
        sessionCount := s.sessionCount + 1
        sessionMapByName := insert accountName session s.sessionMapByName}

def onCommandGateReleaseReq (env : Env) (accountName : WString) (s : Gate) : Gate :=
  match find accountName s.sessionMapByName with
  | some session => onGateReleaseReq env session s
  | none => s

def checkSession (env : Env) (s : Gate) (session : Object) : Gate :=
  let data := s.sessions session
  if data.state = .onConnection ∧ data.connectionTime + env.config.connectionTimeout ≤ s.currTime then
    disconnect env session s
  else s

def checkSessionState (env : Env) (s : Gate) : Gate :=
  (List.range (sessionMax env.config).toNat).foldl (checkSession env) s

def reportState (env : Env) (s : Gate) : Gate :=
  send env (.gateReportState env.config.serverId s.sessionCount) s

/-- Data for a client, broadcast or forwarded, is sent without a change of a session. -/
inductive Action where
  | onConnect (connection : Nat)
  | onData (connection : Nat) (login : Login) (packets : Nat)
  | onDisconnect (connection : Nat)
  | disconnect (sessionId : UInt32)
  | shutdown
  | gateAllocReq (loginSessionId : UInt32) (accountName : WString)
  | gateReleaseReq (loginSessionId : UInt32) (accountName : WString)
  | regionBindReq (sessionId : UInt32) (regionServerId : UInt8)
  | checkSessionState
  | reportState
  | tick (currTime : UInt32)
  | pass

/-- These commands and alarms have no effect once the shutdown has started. -/
def whileRunning (handle : Gate → Gate) (s : Gate) : Gate :=
  if s.shutdownStatus = .notShutdown then handle s else s

/-- The acceptor resets client_ before it gives a connection out. -/
def accept (connection : Nat) (s : Gate) : Gate :=
  {s with connections := Function.update s.connections connection ⟨true,none⟩}

def hangUp (connection : Nat) (s : Gate) : Gate :=
  {s with
    connections := Function.update s.connections connection
      ⟨false,(s.connections connection).client⟩}

def step (env : Env) (s : Gate) : Action → Gate
  | .onConnect connection =>
    if (s.connections connection).live then s
    else whileRunning (onCommandOnConnect env.config connection) (accept connection s)
  | .onData connection login packets =>
    if (s.connections connection).live then
      whileRunning (onCommandOnData env connection login packets) s
    else s
  | .onDisconnect connection =>
    if (s.connections connection).live then
      onCommandOnDisconnect env connection (hangUp connection s)
    else s
  | .disconnect sessionId => forSession sessionId onMasterDisconnect s
  | .shutdown => onCommandShutdown env s
  | .gateAllocReq loginSessionId accountName =>
    whileRunning (onCommandGateAllocReq env loginSessionId accountName) s
  | .gateReleaseReq _ accountName => whileRunning (onCommandGateReleaseReq env accountName) s
  | .regionBindReq sessionId regionServerId =>
    whileRunning (forSession sessionId fun session => onRegionBindReq env session regionServerId) s
  | .checkSessionState => whileRunning (checkSessionState env) s
  | .reportState => whileRunning (reportState env) s
  | .tick currTime => {s with currTime := currTime}
  | .pass => {s with toLoop := loopPass s.toLoop}

/-- Gate 1 with room for five sessions, and sends that succeed. -/
def sampleEnv : Env := ⟨⟨1,5,1000⟩,fun _ => true,fun _ => true⟩

end Fantuan.GateServer.Commands

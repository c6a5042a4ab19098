import Fantuan.Lib.Run
import Fantuan.ServerBase.Sessions

/-! SessionServerLoop, of which ChatServerLoop is a copy: its commands, its alarms and its passes.
A run is a sequence of them in any order, from the state that Init leaves. The network reports
the end of a connection once.
-/
namespace Fantuan.ServerBase.SessionServerLoop
open Lib.Table Lib.Run ServerCommon Tool.ObjectPool Sessions

/-- serverId_ and session_index_ of a session that has not been used. -/
def initialSessionId (config : Config) (index : Nat) : UInt32 :=
  config.serverId.toUInt32 * 16777216 + UInt32.ofNat index * 256

def blankSession (sessionId : UInt32) : Session where
  sessionId := sessionId
  connection := none
  state := .none
  connectionTime := 0
  loggedInTime := 0
  accountName := []

def init (config : Config) : Loop where
  shutdownStatus := .notShutdown
  sessionPool := ⟨List.range config.sessionMax.toNat,config.sessionMax.toNat,config.sessionMax.toNat,0⟩
  sessions := fun index =>
    blankSession (if index < config.sessionMax.toNat then initialSessionId config index else 0)
  sessionMap := ∅
  currTime := 0
  connections := fun _ => ⟨false,none⟩
  log := []
  undefined := false

def clearSession (session : Object) (s : Loop) : Loop :=
  {s with sessionMap := erase (s.sessions session).sessionId s.sessionMap}

/-- m_arraySession holds the objects in the order of their creation. -/
def getSession (config : Config) (sessionId : UInt32) (s : Loop) : Option Object :=
  let object := (sessionIndex sessionId).toNat
  if object < config.sessionMax.toNat ∧ (s.sessions object).sessionId = sessionId then some object
  else none

/-- GetSession lets the index that is one too high through to the array. -/
def forSession (config : Config) (sessionId : UInt32) (handle : Object → Loop → Loop) (s : Loop) : Loop :=
  match getSession config sessionId s with
  | some session => handle session s
  | none => {s with undefined := s.undefined || sessionIndex sessionId = config.sessionMax}

def onCommandOnConnect (env : Env) (connection : Nat) (s : Loop) : Loop :=
  match s.sessionPool.allocate with
  | (none,_) => s.note (.asyncDisconnect connection)
  | (some session,pool) =>
    onConnection env session connection {s with
      sessionPool := pool
      sessionMap := insert (s.sessions session).sessionId session s.sessionMap}

def onCommandOnDisconnect (env : Env) (connection : Nat) (s : Loop) : Loop :=
  match (s.connections connection).client with
  | some session =>
    let ended := onDisconnect env session (clearSession session s)
    {ended with sessionPool := ended.sessionPool.release session}
  | none => s

def onCommandOnData (env : Env) (connection : Nat) (login : Login) (packets : List Packet) (s : Loop) :
    Loop :=
  match (s.connections connection).client with
  | some session => onData env session login packets s
  | none => s.note (.asyncDisconnect connection)

def onCommandBroadcastData (env : Env) (sessionIds : List UInt32) (s : Loop) : Loop :=
  sessionIds.foldl (fun s sessionId => forSession env.config sessionId (sendData env) s) s

def onCommandShutdown (env : Env) (s : Loop) : Loop :=
  (values s.sessionMap).foldl (fun s session => disconnect env session s)
    {s with shutdownStatus := .startShutdown}

def checkSession (env : Env) (s : Loop) (session : Object) : Loop :=
  let data := s.sessions session
  let late : Bool := match data.state with
    | .onConnection => data.connectionTime + env.config.connectionTimeout ≤ s.currTime
    | .loggedIn => data.loggedInTime + env.config.loginTimeout ≤ s.currTime
    | _ => false
  if late then disconnect env session s else s

def checkSessionState (env : Env) (s : Loop) : Loop :=
  (List.range env.config.sessionMax.toNat).foldl (checkSession env) s

/-- Only the login server reports. -/
def reportState (env : Env) (s : Loop) : Loop :=
  match env.config.kind with
  | .login => send env (.loginReportState env.config.serverId) s
  | .chat => s

def loopPass (s : Loop) : Loop :=
  if s.shutdownStatus = .startShutdown then {s with shutdownStatus := .readyForShutdown} else s

/-- Only the login server forwards packets and knows OnLoginFailedAck. -/
inductive Action where
  | onConnect (connection : Nat)
  | onData (connection : Nat) (login : Login) (packets : List Packet)
  | onDisconnect (connection : Nat)
  | disconnect (sessionId : UInt32)
  | sendData (sessionId : UInt32)
  | broadcastData (sessionIds : List UInt32)
  | packetForward (sessionId : UInt32)
  | onLoginFailedAck (sessionId : UInt32)
  | clearSession (session : Object)
  | shutdown
  | checkSessionState
  | reportState
  | tick (currTime : UInt32)
  | pass

/-- These commands and alarms have no effect once the shutdown has started. -/
def whileRunning (handle : Loop → Loop) (s : Loop) : Loop :=
  if s.shutdownStatus = .notShutdown then handle s else s

/-- The acceptor resets client_ before it gives a connection out. -/
def accept (connection : Nat) (s : Loop) : Loop :=
  {s with connections := Function.update s.connections connection ⟨true,none⟩}

def hangUp (connection : Nat) (s : Loop) : Loop :=
  {s with
    connections := Function.update s.connections connection
      ⟨false,(s.connections connection).client⟩}

def step (env : Env) (s : Loop) : Action → Loop
  | .onConnect connection =>
    if (s.connections connection).live then s
    else whileRunning (onCommandOnConnect env connection) (accept connection s)
  | .onData connection login packets =>
    if (s.connections connection).live then
      whileRunning (onCommandOnData env connection login packets) s
    else s
  | .onDisconnect connection =>
    if (s.connections connection).live then
      onCommandOnDisconnect env connection (hangUp connection s)
    else s
  | .disconnect sessionId => forSession env.config sessionId (disconnect env) s
  | .sendData sessionId => whileRunning (forSession env.config sessionId (sendData env)) s
  | .broadcastData sessionIds => whileRunning (onCommandBroadcastData env sessionIds) s
  | .packetForward sessionId =>
    match env.config.kind with
    | .login => whileRunning (forSession env.config sessionId (sendData env)) s
    | .chat => s
  | .onLoginFailedAck sessionId =>
    match env.config.kind with
    | .login => whileRunning (forSession env.config sessionId (onLoginFailedAck env)) s
    | .chat => s
  | .clearSession session =>
    if session < env.config.sessionMax.toNat then clearSession session s else s
  | .shutdown => onCommandShutdown env s
  | .checkSessionState => whileRunning (checkSessionState env) s
  | .reportState => whileRunning (reportState env) s
  | .tick currTime => {s with currTime := currTime}
  | .pass => loopPass s

/-- Server 1 with room for two sessions; the sends succeed and there are buffers. -/
def sampleEnv (kind : Kind) : Env :=
  ⟨⟨kind,1,2,1000,1000⟩,fun _ => true,fun _ => true,fun _ => false⟩

end Fantuan.ServerBase.SessionServerLoop

import Fantuan.GateServer.ServerLoop
import Fantuan.Tool.StateMachine

/-! GateSession and what GateServerLoop does for one session: connecting, logging in,
handing the connection over, and closing. The keys and the receive buffer are left out:
what a packet holds is given with it.
-/
namespace Fantuan.GateServer.Session
open Lib.Table Lib.Drain ServerBase.ServerCommon Tool.ObjectPool Tool.StateMachine ServerLoop

inductive SessionEvent where
  | onConnection | disconnect | onDisconnect | onData | send | loggedIn | transfered
  | onGateAllocReq | gateAllocAck | gateReleaseReq | gateLoginReq | onMasterDisconnect
  | sessionDisconnectReq
  deriving DecidableEq

-- the rows of Session::InitStateMachine come first
def initStateMachine : SessionState → List (SessionEvent × SessionState)
  | .none => [(.onConnection,.onConnection),(.onGateAllocReq,.onGateAllocReq)]
  | .onConnection => [(.disconnect,.disconnect),(.onDisconnect,.onDisconnect),
      (.onData,.onConnection),(.loggedIn,.transfered)]
  | .disconnect => [(.onDisconnect,.onDisconnect)]
  | .onDisconnect => []
  | .transfered => []
  | .onGateAllocReq => [(.gateAllocAck,.gateAllocAck)]
  | .gateAllocAck => [(.transfered,.loggedIn)]
  | .gateReleaseReq => []
  | .loggedIn => [(.gateLoginReq,.gateLoginReq)]
  | .gateLoginReq => [(.disconnect,.disconnect),(.onDisconnect,.holdConnection),
      (.onData,.gateLoginReq),(.send,.gateLoginReq),(.onMasterDisconnect,.onMasterDisconnect)]
  | .holdConnection => [(.sessionDisconnectReq,.onDisconnect)]
  | .onMasterDisconnect => [(.onDisconnect,.onDisconnect)]

def transition (state : SessionState) (event : SessionEvent) : Option SessionState :=
  outputState initStateMachine state event

inductive Message where
  | gateAllocAck (serverId : UInt8) (loginSessionId : UInt32) (accountName : WString) (sessionId : UInt32)
  | onGateLoginReq (sessionId : UInt32) (accountName : WString)
  | onSessionDisconnect (sessionId : UInt32)
  | gateReportState (serverId : UInt8) (sessionCount : UInt16)
  | packetForward (sessionId : UInt32)
  deriving DecidableEq

inductive Event where
  | gateAllocReq (loginSessionId : UInt32) (accountName : WString)
  | sent (message : Message) (success : Bool)
  | asyncDisconnect (connection : Nat)
  | close (connection : Nat)
  deriving DecidableEq

/-- The members of GateServerConfig that the loop and its sessions read. -/
structure Config where
  serverId : UInt8
  sessionMax : UInt16
  connectionTimeout : UInt32

/-- A send made with n events logged succeeds when net n does. -/
structure Env where
  config : Config
  net : Nat → Bool
  hasPeerServer : UInt8 → Bool

/-- Accepted and not yet reported as disconnected, and its client_. -/
structure Connection where
  live : Bool
  client : Option Object
  deriving DecidableEq

/-- The newest event is first in the log; undefined is set by an access through a null
pointer or outside an array. -/
structure Gate extends Loop where
  currTime : UInt32
  connections : Nat → Connection
  log : List Event
  undefined : Bool

def Gate.update (s : Gate) (session : Object) (change : GateSession → GateSession) : Gate :=
  {s with sessions := Function.update s.sessions session (change (s.sessions session))}

@[simp] theorem update_same (s : Gate) (session : Object) (change : GateSession → GateSession) :
    (s.update session change).sessions session = change (s.sessions session) :=
  Function.update_self ..

theorem update_other (s : Gate) (session other : Object) (change : GateSession → GateSession)
    (different : other ≠ session) : (s.update session change).sessions other = s.sessions other :=
  Function.update_of_ne different ..

def setState (session : Object) (next : SessionState) (s : Gate) : Gate :=
  s.update session fun data => {data with state := next}

def reaches (event : SessionEvent) (session : Object) (s : Gate) : Option SessionState :=
  transition (s.sessions session).state event

def stateTransition (event : SessionEvent) (session : Object) (s : Gate) : Gate :=
  match reaches event session s with
  | some next => setState session next s
  | none => s

def Gate.note (s : Gate) (event : Event) : Gate := {s with log := event :: s.log}

def sends (env : Env) (s : Gate) : Bool := env.net s.log.length

def send (env : Env) (message : Message) (s : Gate) : Gate := s.note (.sent message (sends env s))

def setClient (client : Object) (connection : Nat) (s : Gate) : Gate :=
  {s with
    connections := Function.update s.connections connection
      ⟨(s.connections connection).live,some client⟩}

def asyncDisconnect (connection : Option Nat) (s : Gate) : Gate :=
  match connection with
  | some connection => s.note (.asyncDisconnect connection)
  | none => {s with undefined := true}

def pushFinalizing (session : Object) (s : Gate) : Gate :=
  let closed := s.update session fun data => {data with finalizing := true}
  {closed with finalizingQueue := s.finalizingQueue ++ [session]}

def allocAck (env : Env) (data : GateSession) : Message :=
  .gateAllocAck env.config.serverId data.loginSessionId data.accountName data.sessionId

/-- The states that CloseSession leaves to the connection's disconnect. -/
def needDisconnect : SessionState → Bool
  | .onConnection | .loggedIn | .gateLoginReq => true
  | _ => false

def closeSession (env : Env) (session : Object) (isByMaster : Bool) (s : Gate) : Gate :=
  let data := s.sessions session
  if data.finalizing then s
  else if needDisconnect data.state then asyncDisconnect data.connection s
  else if data.state = .onGateAllocReq ∧ isByMaster = false ∧ s.shutdownStatus ≠ .startShutdown then
    pushFinalizing session (send env (allocAck env data) s)
  else pushFinalizing session s

def closeConnection (session : Object) (s : Gate) : Gate :=
  match (s.sessions session).connection with
  | some connection =>
    (s.note (.close connection)).update session fun data => {data with connection := none}
  | none => s

def sessionDisconnect (session : Object) (s : Gate) : Message :=
  .onSessionDisconnect (s.sessions session).sessionId

def onDisconnect (env : Env) (session : Object) (s : Gate) : Gate :=
  match reaches .onDisconnect session s with
  | none => s
  | some next =>
    let closed := closeConnection session (setState session next s)
    let sent := send env (sessionDisconnect session closed) closed
    match next with
    | .holdConnection =>
      if closed.shutdownStatus = .startShutdown then closeSession env session false closed
      else if sends env closed then
        closeSession env session false (stateTransition .sessionDisconnectReq session sent)
      else sent
    | .onDisconnect => if sends env closed then closeSession env session false sent else sent
    | _ => closed

def disconnect (env : Env) (session : Object) (s : Gate) : Gate :=
  if (s.sessions session).finalizing then s
  else match reaches .disconnect session s with
    | none => s
    | some next =>
      let moved := setState session next s
      match (s.sessions session).connection with
      | some connection => asyncDisconnect (some connection) moved
      | none => onDisconnect env session moved

def onConnection (session : Object) (connection : Nat) (s : Gate) : Gate :=
  let connected :=
    if reaches .onConnection session s = some .onConnection then
      setClient session connection (s.update session fun data => {data with
        sessionId := nextSequence data.sessionId
        connection := some connection
        state := .onConnection
        connectionTime := s.currTime})
    else s
  connected.update session fun data => {data with tempSession := true}

def onGateAllocReq (env : Env) (session : Object) (loginSessionId : UInt32) (accountName : WString)
    (s : Gate) : Gate :=
  if reaches .onGateAllocReq session s = some .onGateAllocReq then
    let named := s.update session fun data => {data with
      state := .onGateAllocReq
      sessionId := nextSequence data.sessionId
      accountName := accountName
      loginSessionId := loginSessionId
      tempSession := false}
    let sent := send env (allocAck env (named.sessions session)) named
    if sends env named then stateTransition .gateAllocAck session sent else sent
  else s

def onGateReleaseReq (env : Env) (session : Object) (s : Gate) : Gate :=
  if (s.sessions session).finalizing then s
  else closeSession env session true (stateTransition .gateReleaseReq session s)

def onRegionBindReq (env : Env) (session : Object) (regionServerId : UInt8) (s : Gate) : Gate :=
  if (s.sessions session).finalizing then s
  else s.update session fun data => {data with
    regionServer := if env.hasPeerServer regionServerId then some regionServerId else none}

/-- GateSession::Clone: `session` takes the connection of `temp`. -/
def clone (session temp : Object) (s : Gate) : Gate :=
  let source := s.sessions temp
  if (s.sessions session).tempSession ∨ source.tempSession = false then s
  else
    let cloned := s.update session fun data => {data with
      connectionTime := source.connectionTime
      loggedInTime := source.loggedInTime
      connection := source.connection
      accountName := source.accountName}
    match source.connection with
    | some connection => setClient session connection cloned
    | none => {cloned with undefined := true}

def onSessionTransfered (env : Env) (session : Object) (s : Gate) : Gate :=
  let moved := stateTransition .transfered session s
  if reaches .transfered session s = some .loggedIn then
    let data := moved.sessions session
    let sent := send env (.onGateLoginReq data.sessionId data.accountName) moved
    if sends env moved then stateTransition .gateLoginReq session sent else disconnect env session sent
  else moved

def getSession (sessionId : UInt32) (s : Gate) : Option Object :=
  let object := (sessionIndex sessionId).toNat
  if object < s.sessionPool.maxSize ∧ (s.sessions object).sessionId = sessionId then some object
  else none

def transferSession (env : Env) (tempSessionId : UInt32) (accountName : WString) (s : Gate) :
    Bool × Gate :=
  match find accountName s.sessionMapByName with
  | none => (false,s)
  | some session =>
    let state := (s.sessions session).state
    if state ≠ .gateAllocAck ∧ state ≠ .holdConnection then (false,s)
    else match getSession tempSessionId s with
      | some temp => (true,onSessionTransfered env session (clone session temp s))
      | none => (true,onSessionTransfered env session {s with undefined := true})

def loggedInNtf (env : Env) (temp : Object) (s : Gate) : Bool × Gate :=
  let data := s.sessions temp
  if data.finalizing ∨ reaches .loggedIn temp s = none then (false,s)
  else match transferSession env data.sessionId data.accountName s with
    | (false,failed) => (false,disconnect env temp failed)
    | (true,transfered) =>
      let moved := stateTransition .loggedIn temp transfered
      if reaches .loggedIn temp transfered = some .transfered then
        (true,closeSession env temp false moved)
      else (false,moved)

/-- What HandleLoginPacket makes of the bytes; a token has the account in lower case. -/
inductive Login where
  | waiting
  | refused (accountName : WString)
  | token (accountName : WString)

def setAccountName (session : Object) (accountName : WString) (s : Gate) : Gate :=
  s.update session fun data => {data with accountName := accountName}

def handleLoginPacket (env : Env) (session : Object) (login : Login) (s : Gate) : Gate :=
  match login with
  | .waiting => s
  | .refused accountName => disconnect env session (setAccountName session accountName s)
  | .token accountName =>
    match loggedInNtf env session (setAccountName session accountName s) with
    | (true,loggedIn) => loggedIn
    | (false,failed) => disconnect env session failed

/-- The receivers of the gate forward a packet to the master or to the region. -/
def handlePacket (env : Env) (session : Object) (s : Gate) : Gate :=
  let sent := send env (.packetForward (s.sessions session).sessionId) s
  if sends env s then sent else disconnect env session sent

/-- The bytes are read as a login packet or as so many packets, as the state asks. -/
def onData (env : Env) (session : Object) (login : Login) (packets : Nat) (s : Gate) : Gate :=
  if reaches .onData session s ≠ some (s.sessions session).state then s
  else if (s.sessions session).state = .onConnection then handleLoginPacket env session login s
  else repeated (handlePacket env session) packets s

def onMasterDisconnect (session : Object) (s : Gate) : Gate :=
  if (s.sessions session).finalizing then s
  else
    let moved := stateTransition .onMasterDisconnect session s
    if reaches .onMasterDisconnect session s = some .onMasterDisconnect then
      asyncDisconnect (moved.sessions session).connection moved
    else moved

end Fantuan.GateServer.Session

import Fantuan.Lib.Drain
import Fantuan.Lib.Table
import Fantuan.ServerBase.ServerCommon
import Fantuan.Tool.ObjectPool
import Fantuan.Tool.StateMachine

/-! Session, as the login server and the chat server use it: connecting, logging in, and closing.
The keys and the receive buffer are left out: what a packet holds is given with it.
-/
namespace Fantuan.ServerBase.Sessions
open Lib.Table Lib.Drain ServerCommon Tool.ObjectPool Tool.StateMachine

/-- LoginSession extends Session, and ChatSession is a copy of it. -/
inductive Kind where
  | login | chat
  deriving DecidableEq

inductive SessionState where
  | none | onConnection | disconnect | onDisconnect | loggedIn | onLoginReq | onLoginFailedAck
  | onGateAllocNtf | onVersionReq
  deriving DecidableEq

inductive SessionEvent where
  | onConnection | disconnect | onDisconnect | onData | send | loggedIn | onLoginReq
  | onLoginFailedAck | onGateAllocNtf | onVersionReq
  deriving DecidableEq

-- the rows of Session::InitStateMachine come first
def loginStateMachine : SessionState → List (SessionEvent × SessionState)
  | .none => [(.onConnection,.onConnection)]
  | .onConnection => [(.disconnect,.disconnect),(.onDisconnect,.onDisconnect),
      (.onData,.onConnection),(.loggedIn,.loggedIn)]
  | .disconnect => [(.onDisconnect,.onDisconnect)]
  | .onDisconnect => []
  | .loggedIn => [(.disconnect,.disconnect),(.onDisconnect,.onDisconnect),(.onData,.loggedIn),
      (.send,.loggedIn),(.onVersionReq,.onVersionReq)]
  | .onVersionReq => [(.disconnect,.disconnect),(.onDisconnect,.onDisconnect),
      (.onLoginReq,.onLoginReq),(.send,.onVersionReq)]
  | .onLoginReq => [(.disconnect,.disconnect),(.onDisconnect,.onDisconnect),(.onData,.onLoginReq),
      (.send,.onLoginReq),(.onLoginFailedAck,.onLoginFailedAck),(.onGateAllocNtf,.onGateAllocNtf)]
  | .onLoginFailedAck => [(.disconnect,.disconnect),(.onDisconnect,.onDisconnect),
      (.onData,.onLoginFailedAck),(.send,.onLoginFailedAck)]
  | .onGateAllocNtf => [(.disconnect,.disconnect),(.onDisconnect,.onDisconnect),
      (.onData,.onGateAllocNtf),(.send,.onGateAllocNtf)]

def chatStateMachine : SessionState → List (SessionEvent × SessionState)
  | .none => [(.onConnection,.onConnection)]
  | .onConnection => [(.disconnect,.disconnect),(.onDisconnect,.onDisconnect),
      (.onData,.onConnection),(.loggedIn,.loggedIn)]
  | .disconnect => [(.onDisconnect,.onDisconnect)]
  | .onDisconnect => []
  | .loggedIn => [(.disconnect,.disconnect),(.onDisconnect,.onDisconnect),(.onData,.loggedIn),
      (.send,.loggedIn)]
  | .onLoginReq => [(.disconnect,.disconnect),(.onDisconnect,.onDisconnect),(.onData,.onLoginReq),
      (.send,.onLoginReq)]
  | .onLoginFailedAck | .onGateAllocNtf | .onVersionReq => []

def initStateMachine : Kind → SessionState → List (SessionEvent × SessionState)
  | .login => loginStateMachine
  | .chat => chatStateMachine

def transition (kind : Kind) (state : SessionState) (event : SessionEvent) : Option SessionState :=
  outputState (initStateMachine kind) state event

/-- A connection is its number. -/
structure Session where
  sessionId : UInt32
  connection : Option Nat
  state : SessionState
  connectionTime : UInt32
  loggedInTime : UInt32
  accountName : WString
  deriving DecidableEq

/-- The session id stays, and so does the account name of a chat session. -/
def Session.clear (kind : Kind) (session : Session) : Session :=
  {session with
    connection := .none
    state := .none
    connectionTime := 0
    loggedInTime := 0
    accountName := match kind with
      | .login => []
      | .chat => session.accountName}

inductive Message where
  | onLoginReq (sessionId : UInt32) (accountName : WString)
  | onSessionDisconnect (sessionId : UInt32)
  | loginReportState (serverId : UInt8)
  deriving DecidableEq

inductive Event where
  | sent (message : Message) (success : Bool)
  | asyncSend (connection : Nat)
  | noBuffer
  | asyncDisconnect (connection : Nat)
  | close (connection : Nat)
  deriving DecidableEq

/-- loginTimeout is the m_iChatTimeout of a chat server. -/
structure Config where
  kind : Kind
  serverId : UInt8
  sessionMax : UInt16
  connectionTimeout : UInt32
  loginTimeout : UInt32

/-- With n events logged, net n tells whether a send to the master succeeds, buffer n whether
there is an output buffer, and serverReady n whether the server is ready for shutdown. -/
structure Env where
  config : Config
  net : Nat → Bool
  buffer : Nat → Bool
  serverReady : Nat → Bool

/-- Accepted and not yet reported as disconnected, and its client_. -/
structure Connection where
  live : Bool
  client : Option Object
  deriving DecidableEq

/-- The newest event is first in the log; undefined is set by an access through a null
pointer or outside an array. -/
structure Loop where
  shutdownStatus : ShutdownStatus
  sessionPool : Pool
  sessions : Object → Session
  sessionMap : Map UInt32 Object
  currTime : UInt32
  connections : Nat → Connection
  log : List Event
  undefined : Bool

def Loop.update (s : Loop) (session : Object) (change : Session → Session) : Loop :=
  {s with sessions := Function.update s.sessions session (change (s.sessions session))}

@[simp] theorem update_same (s : Loop) (session : Object) (change : Session → Session) :
    (s.update session change).sessions session = change (s.sessions session) :=
  Function.update_self ..

theorem update_other (s : Loop) (session other : Object) (change : Session → Session)
    (different : other ≠ session) : (s.update session change).sessions other = s.sessions other :=
  Function.update_of_ne different ..

def setState (session : Object) (next : SessionState) (s : Loop) : Loop :=
  s.update session fun data => {data with state := next}

def reaches (env : Env) (event : SessionEvent) (session : Object) (s : Loop) : Option SessionState :=
  transition env.config.kind (s.sessions session).state event

def stateTransition (env : Env) (event : SessionEvent) (session : Object) (s : Loop) : Loop :=
  match reaches env event session s with
  | some next => setState session next s
  | none => s

def Loop.note (s : Loop) (event : Event) : Loop := {s with log := event :: s.log}

def sends (env : Env) (s : Loop) : Bool := env.net s.log.length

def send (env : Env) (message : Message) (s : Loop) : Loop := s.note (.sent message (sends env s))

def onConnection (env : Env) (session : Object) (connection : Nat) (s : Loop) : Loop :=
  if reaches env .onConnection session s = some .onConnection then
    {s.update session fun data => {data with
        sessionId := nextSequence data.sessionId
        connection := some connection
        state := .onConnection
        connectionTime := s.currTime} with
      connections := Function.update s.connections connection
        ⟨(s.connections connection).live,some session⟩}
  else s

def closeConnection (session : Object) (s : Loop) : Loop :=
  match (s.sessions session).connection with
  | some connection =>
    (s.note (.close connection)).update session fun data => {data with connection := none}
  | none => s

def endConnection (env : Env) (session : Object) (s : Loop) : Loop :=
  if reaches env .onDisconnect session s = some .onDisconnect then
    (closeConnection session (setState session .onDisconnect s)).update session fun data =>
      {data with sessionId := nextSequence data.sessionId}.clear env.config.kind
  else stateTransition env .onDisconnect session s

def onDisconnect (env : Env) (session : Object) (s : Loop) : Loop :=
  let ended := endConnection env session s
  match env.config.kind with
  | .chat => ended
  | .login =>
    if (ended.sessions session).state = .onLoginReq ∧ env.serverReady ended.log.length = false then
      send env (.onSessionDisconnect (ended.sessions session).sessionId) ended
    else ended

def disconnect (env : Env) (session : Object) (s : Loop) : Loop :=
  match (s.sessions session).connection with
  | some connection => s.note (.asyncDisconnect connection)
  | none => onDisconnect env session s

def sendData (env : Env) (session : Object) (s : Loop) : Loop :=
  if env.buffer s.log.length then
    match (s.sessions session).connection with
    | some connection => s.note (.asyncSend connection)
    | none => {s with undefined := true}
  else s.note .noBuffer

def loggedInNtf (env : Env) (session : Object) (s : Loop) : Bool × Loop :=
  let moved := stateTransition env .loggedIn session s
  if reaches env .loggedIn session s = some .loggedIn then
    (true,moved.update session fun data => {data with loggedInTime := s.currTime})
  else (false,moved)

/-- What HandleLoginPacket makes of the bytes; a token has the account in lower case. -/
inductive Login where
  | waiting
  | refused (accountName : WString)
  | token (accountName : WString)

/-- The login server takes the buffer for the new key before it tells that the client is in. -/
def handleLoginPacket (env : Env) (session : Object) (login : Login) (s : Loop) : Loop :=
  match login with
  | .waiting => s
  | .refused accountName =>
    disconnect env session (s.update session fun data => {data with accountName := accountName})
  | .token accountName =>
    let named := s.update session fun data => {data with accountName := accountName}
    if env.config.kind = .login ∧ env.buffer named.log.length = false then
      disconnect env session (named.note .noBuffer)
    else match loggedInNtf env session named, env.config.kind with
      | (false,failed), _ => disconnect env session failed
      | (true,loggedIn), .chat => loggedIn
      | (true,loggedIn), .login =>
        match (named.sessions session).connection with
        | some connection => loggedIn.note (.asyncSend connection)
        | none => {loggedIn with undefined := true}

/-- The packets of a client: the login server knows one, the chat server none. -/
inductive Packet where
  | versionReq (version : UInt32)
  | other

def clientVersion : UInt32 := 1

/-- VersionAck returns 0 whether it is sent or not. -/
def onVersionReq (env : Env) (session : Object) (version : UInt32) (s : Loop) : Loop :=
  let moved := stateTransition env .onVersionReq session s
  if reaches env .onVersionReq session s ≠ some .onVersionReq then disconnect env session moved
  else
    let told := sendData env session moved
    if version ≠ clientVersion then disconnect env session told
    else
      let data := told.sessions session
      let sent := send env (.onLoginReq data.sessionId data.accountName) told
      if sends env told then stateTransition env .onLoginReq session sent
      else disconnect env session sent

def handlePacket (env : Env) (session : Object) (s : Loop) (packet : Packet) : Loop :=
  match env.config.kind, packet with
  | .login, .versionReq version => onVersionReq env session version s
  | _, _ => s

/-- The bytes are read as a login packet or as packets, as the state asks. -/
def onData (env : Env) (session : Object) (login : Login) (packets : List Packet) (s : Loop) : Loop :=
  if reaches env .onData session s ≠ some (s.sessions session).state then s
  else if (s.sessions session).state = .onConnection then handleLoginPacket env session login s
  else packets.foldl (handlePacket env session) s

def onLoginFailedAck (env : Env) (session : Object) (s : Loop) : Loop :=
  let moved := stateTransition env .onLoginFailedAck session s
  if reaches env .onLoginFailedAck session s ≠ some .onLoginFailedAck then disconnect env session moved
  else disconnect env session (sendData env session moved)

end Fantuan.ServerBase.Sessions

import Fantuan.CacheServer.Player
import Fantuan.Lib.Run

/-! The commands of the cache loop, its passes and the DB threads. A run is a sequence of them
in any order, from the state that the constructor leaves. A pass is any number of results and
then a drain, and the threads may step between them.
-/
namespace Fantuan.CacheServer.Commands
open Lib.Table Lib.Drain Lib.Run ServerBase.ServerCommon Tool.ObjectPool CacheDBEvent ServerLoop Player

def poolMax := 5000

def init (config : Config) : Cache where
  shutdownStatus := .notShutdown
  playerContextPool := Tool.ObjectPool.new poolMax
  contexts := fun _ => .clear
  playerContextBySessionId := ∅
  playerContextByAvatarId := ∅
  finalizingQueue := []
  dbConnPool := DbConnPool.new config.dbConnCount
  dbEvents := fun _ => ⟨0,0,.avatarFinalize⟩
  arrayAvatar := fun _ => []
  currTime := 0
  undefined := false
  delay := none
  logins := fun _ => 0
  loginCount := 0
  log := []

def forSession (sessionId : UInt32) (handle : Object → Cache → Cache) (s : Cache) : Cache :=
  match find sessionId s.playerContextBySessionId with
  | some player => handle player s
  | none => s

/-- The result of the insertion is ignored. -/
def onCommandOnLoginReq (sessionId : UInt32) (accountName : WString) (s : Cache) : Cache :=
  match s.playerContextPool.allocate with
  | (none,_) => s
  | (some player,pool) =>
    onLoginReq player sessionId accountName {s with
      playerContextPool := pool
      playerContextBySessionId := insert sessionId player s.playerContextBySessionId
      logins := Function.update s.logins player s.loginCount
      loginCount := s.loginCount + 1}

/-- What GateClientRecv passes on; other stands for a packet that reaches no handler. -/
inductive ClientPacket where
  | avatarListReq
  | avatarCreateReq (avatarName : List UInt8)
  | avatarSelectReq (avatarName : List UInt8)
  | other

def onPacketReceived (env : Env) (player : Object) (packet : ClientPacket) (s : Cache) : Cache :=
  match packet with
  | .avatarListReq => onAvatarListReq env player s
  | .avatarCreateReq avatarName =>
    match env.char2WChar avatarName with
    | some name => onAvatarCreateReq env player name s
    | none => s
  | .avatarSelectReq avatarName =>
    match env.char2WChar avatarName with
    | some name => onAvatarSelectReq env player name s
    | none => s
  | .other => s

def saveDataToDB (env : Env) (s : Cache) : Cache :=
  (values s.playerContextBySessionId).foldl (fun s player =>
    if (s.contexts player).finalizing || s.currTime < (s.contexts player).nextSaveDataTime then s
    else onSaveDataReq env player false s) s

/-- A step of a DB thread; a firing that ends has filled in its event. -/
def work (env : Env) (worker : Nat) (s : Cache) : Cache :=
  let worked := {s with dbConnPool := DbConnPool.workerStep worker s.dbConnPool}
  match s.dbConnPool.workers[worker]? with
  | some (.firing event) =>
    {worked with
      dbEvents := Function.update s.dbEvents event (fireEvent (env.answers event) (s.dbEvents event))
      undefined := s.undefined || overruns (env.answers event) (s.dbEvents event).data}
  | _ => worked

def onDBEventResult (env : Env) (s : Cache) : Cache :=
  match s.dbConnPool.returnList with
  | event :: _ =>
    forSession (s.dbEvents event).sessionId
      (fun player => onPlayerEventResult env player (s.dbEvents event)) {s with
        dbConnPool := DbConnPool.popFromDBEventReturnList s.dbConnPool
        log := .handled event :: s.log}
  | [] => s

def deletePlayer (player : Object) (s : Cache) : Cache :=
  {s with
    toLoop := ServerLoop.deletePlayer player s.toLoop
    log := .deleted (s.logins player) :: s.log}

def checkShutdown (s : Cache) : Cache :=
  if s.shutdownStatus = .startShutdown then {s with shutdownStatus := .readyForShutdown} else s

def drain (s : Cache) : Cache :=
  checkShutdown {drainBack deletePlayer s.finalizingQueue s with finalizingQueue := []}

inductive Action where
  | shutdown
  | onLoginReq (sessionId : UInt32) (accountName : WString)
  | onLogoutReq (sessionId : UInt32)
  | onRegionEnterReq (sessionId : UInt32) (serverId : UInt8) (avatarName : WString)
  | packetForward (sessionId : UInt32) (packet : ClientPacket)
  | saveData
  | tick (currTime : UInt32)
  | work (worker : Nat)
  | result
  | drain

def whileRunning (handle : Cache → Cache) (s : Cache) : Cache :=
  if s.shutdownStatus = .notShutdown then handle s else s

def step (env : Env) (s : Cache) : Action → Cache
  | .shutdown => whileRunning (fun s => {s with shutdownStatus := .startShutdown}) s
  | .onLoginReq sessionId accountName => whileRunning (onCommandOnLoginReq sessionId accountName) s
  | .onLogoutReq sessionId => whileRunning (forSession sessionId (onLogoutReq env)) s
  | .onRegionEnterReq sessionId serverId avatarName =>
    whileRunning (forSession sessionId fun player => onRegionEnterReq env player serverId avatarName) s
  | .packetForward sessionId packet =>
    whileRunning (forSession sessionId fun player => onPacketReceived env player packet) s
  | .saveData => whileRunning (saveDataToDB env) s
  | .tick currTime => {s with currTime := currTime}
  | .work worker => work env worker s
  | .result => onDBEventResult env s
  | .drain => drain s

/-- One DB thread, sends and allocations that succeed, and an account with one avatar. -/
def sampleEnv : Env where
  config := ⟨1000,1⟩
  net := fun _ => true
  memory := fun _ => true
  answers := fun _ => some [⟨7,some [97]⟩]
  wchar2Char := fun _ => some [97]
  char2WChar := fun _ => some [97]
  hasPeerServer := fun _ => true

def firstSession : UInt32 := 16777216
def secondSession : UInt32 := 16777472

/-- The DB thread takes an event, fires it and hands it back, and the loop handles the result. -/
def answered : List Action := [.work 0,.work 0,.work 0,.work 0,.work 0,.result]

/-- A player logs in, selects the avatar and enters the region. -/
def entering (sessionId : UInt32) : List Action :=
  ([.onLoginReq sessionId [97],.packetForward sessionId .avatarListReq] : List Action) ++ answered ++
    ([.packetForward sessionId (.avatarSelectReq [97])] : List Action) ++ answered ++
    ([.onRegionEnterReq sessionId 2 [97]] : List Action) ++ answered

end Fantuan.CacheServer.Commands

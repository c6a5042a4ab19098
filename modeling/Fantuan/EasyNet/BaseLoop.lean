import Mathlib.Logic.Function.Basic
import Fantuan.EasyNet.BaseSession
import Fantuan.Lib.Run
import Fantuan.Lib.Table

/-! EasyBaseLoop: the sessions of its connections and the map of them. A session is put into the map
before OnConnection has given it an id, so that every entry has the key 0.
-/
namespace Fantuan.EasyNet.BaseLoop
open Lib.Table Lib.Run StarNet.RecvLoop BaseSession

inductive Event where
  | disconnectEx (conn : Nat)
  | closed (conn : Nat)
  | sent (conn : Nat) (packet : EasyPacket)
  deriving DecidableEq

/-- client has client_ of each connection that is there. The newest event is first in the log;
undefined is set by an OnData that leaves its buffer or never ends, and by a send on no connection. -/
structure Loop where
  sessions : Nat → EasyBaseSession
  created : Nat
  client : Nat → Option Nat
  sessionMap : Map UInt32 Nat
  sessionIdStart : UInt32
  log : List Event
  undefined : Bool

def Loop.new : Loop where
  sessions := fun _ => .new
  created := 0
  client := fun _ => none
  sessionMap := ∅
  sessionIdStart := 0
  log := []
  undefined := false

inductive Command where
  | onConnect (conn : Nat)
  | onDisconnect (conn : Nat)
  | onData (conn : Nat) (data : Chunk)
  | sendData (sessionId : UInt32) (packet : EasyPacket)
  | shutdown
  | disconnect (sessionId : UInt32)

def change (session : Nat) (value : EasyBaseSession) (s : Loop) : Loop :=
  {s with sessions := Function.update s.sessions session value}

def onConnection (session conn : Nat) (s : Loop) : Loop :=
  let start := s.sessionIdStart + 1
  {change session {s.sessions session with sessionId := start, connection := some conn} s with
    sessionIdStart := start
    client := Function.update s.client conn (some session)}

def onDisconnect (session : Nat) (s : Loop) : Loop :=
  match (s.sessions session).connection with
  | some conn =>
    {change session {s.sessions session with connection := none} s with
      client := Function.update s.client conn none
      log := .closed conn :: s.log}
  | none => s

def disconnect (session : Nat) (s : Loop) : Loop :=
  match (s.sessions session).connection with
  | some conn => {s with log := .disconnectEx conn :: s.log}
  | none => onDisconnect session s

def getSession (sessionId : UInt32) (s : Loop) : Option Nat := find sessionId s.sessionMap

def onCommandOnConnect (conn : Nat) (s : Loop) : Loop :=
  let session := s.created
  let made := change session .new {s with created := s.created + 1}
  onConnection session conn
    {made with sessionMap := insert (made.sessions session).sessionId session made.sessionMap}

def onCommandOnDisconnect (conn : Nat) (s : Loop) : Loop :=
  match s.client conn with
  | some session =>
    onDisconnect session {s with sessionMap := erase (s.sessions session).sessionId s.sessionMap}
  | none => s

def onCommandOnData (conn : Nat) (data : Chunk) (s : Loop) : Loop :=
  match s.client conn with
  | some session =>
    let fuel := maxBuffer + 2 * data.val.length + 2
    match (onData fuel (s.sessions session) data.val).exit with
    | .returned left => change session {s.sessions session with recvBuf := left} s
    | _ => {s with undefined := true}
  | none => {s with log := .disconnectEx conn :: s.log}

def onCommandSendData (sessionId : UInt32) (packet : EasyPacket) (s : Loop) : Loop :=
  match getSession sessionId s with
  | some session =>
    match (s.sessions session).connection with
    | some conn => {s with log := .sent conn packet :: s.log}
    | none => {s with undefined := true}
  | none => s

def onCommandShutdown (s : Loop) : Loop := (values s.sessionMap).foldl (fun s session => disconnect session s) s

def onCommandDisconnect (sessionId : UInt32) (s : Loop) : Loop :=
  match getSession sessionId s with
  | some session => disconnect session s
  | none => s

/-- A connection that is there is not reported again. -/
def step (s : Loop) : Command → Loop
  | .onConnect conn => if (s.client conn).isSome then s else onCommandOnConnect conn s
  | .onDisconnect conn => onCommandOnDisconnect conn s
  | .onData conn data => onCommandOnData conn data s
  | .sendData sessionId packet => onCommandSendData sessionId packet s
  | .shutdown => onCommandShutdown s
  | .disconnect sessionId => onCommandDisconnect sessionId s

/-- The map has the sessions of the connections, each under its id, and a shutdown reaches them. -/
structure Exact (s : Loop) : Prop where
  found : ∀ conn session, s.client conn = some session →
    getSession (s.sessions session).sessionId s = some session
  only : ∀ sessionId session, getSession sessionId s = some session →
    (s.sessions session).sessionId = sessionId ∧ ∃ conn, s.client conn = some session
  shutdown : ∀ conn session, s.client conn = some session →
    ∃ events, (step s .shutdown).log = events ++ s.log ∧ .disconnectEx conn ∈ events

structure Unused (s : Loop) : Prop where
  client : ∀ conn, s.client conn = none
  sessionMap : s.sessionMap = ∅
  sessionIdStart : s.sessionIdStart = 0

def connects : Command → Bool
  | .onConnect _ => true
  | _ => false

theorem new_unused : Unused .new := ⟨fun _ => rfl,rfl,rfl⟩

theorem unused_getSession (s : Loop) (unused : Unused s) (sessionId : UInt32) : getSession sessionId s = none := by
  rw [getSession,unused.sessionMap,find_empty]

theorem unused_exact (s : Loop) (unused : Unused s) : Exact s := by
  constructor
  · intro conn session live
    rw [unused.client conn] at live
    cases live
  · intro sessionId session present
    rw [unused_getSession s unused] at present
    cases present
  · intro conn session live
    rw [unused.client conn] at live
    cases live

theorem step_unused (s : Loop) (unused : Unused s) (command : Command) (other : connects command = false) :
    Unused (step s command) := by
  have missing := unused_getSession s unused
  cases command with
  | onConnect conn => cases other
  | onDisconnect conn =>
    rw [step,onCommandOnDisconnect,unused.client conn]
    exact unused
  | onData conn data =>
    rw [step,onCommandOnData,unused.client conn]
    exact ⟨unused.client,unused.sessionMap,unused.sessionIdStart⟩
  | sendData sessionId packet =>
    rw [step,onCommandSendData,missing sessionId]
    exact unused
  | shutdown =>
    rw [step,onCommandShutdown,unused.sessionMap]
    exact unused
  | disconnect sessionId =>
    rw [step,onCommandDisconnect,missing sessionId]
    exact unused

theorem connect_inexact (s : Loop) (unused : Unused s) (conn : Nat) : ¬ Exact (step s (.onConnect conn)) := by
  intro exact
  have connected : step s (.onConnect conn) = onCommandOnConnect conn s := by
    rw [step,unused.client conn]
    rfl
  rw [connected] at exact
  have live : (onCommandOnConnect conn s).client conn = some s.created := Function.update_self ..
  have id : ((onCommandOnConnect conn s).sessions s.created).sessionId = 1 := by
    simp only [onCommandOnConnect,onConnection,change,Function.update_self,unused.sessionIdStart]
    rfl
  have missing : getSession 1 (onCommandOnConnect conn s) = none := by
    simp only [getSession,onCommandOnConnect,onConnection,change,Function.update_self,unused.sessionMap]
    change find 1 (insert (0 : UInt32) s.created ∅) = none
    rw [find_insert_other 0 1 s.created ∅ (by decide),find_empty]
  have present := exact.found conn s.created live
  rw [id,missing] at present
  cases present

/-- From an unused loop on, by induction on the commands. -/
theorem unused_run (s : Loop) (unused : Unused s) (commands : List Command) :
    (∀ earlier later, commands = earlier ++ later → Exact (run step s earlier)) ↔
      ∀ command ∈ commands, connects command = false := by
  induction commands generalizing s with
  | nil =>
    refine ⟨fun _ command member => absurd member (by simp),fun _ earlier later parts => ?_⟩
    obtain ⟨rfl,-⟩ := List.append_eq_nil_iff.mp parts.symm
    exact unused_exact s unused
  | cons command commands ih =>
    rw [List.forall_mem_cons]
    cases other : connects command with
    | true =>
      refine ⟨fun exact => ?_,fun none => absurd none.1 (by simp)⟩
      cases command with
      | onConnect conn => exact absurd (exact [.onConnect conn] commands rfl) (connect_inexact s unused conn)
      | _ => cases other
    | false =>
      have next := ih (step s command) (step_unused s unused command other)
      constructor
      · intro exact
        refine ⟨rfl,next.mp fun earlier later parts => ?_⟩
        exact exact (command :: earlier) later (by rw [parts]; rfl)
      · rintro ⟨-,others⟩ earlier later parts
        cases earlier with
        | nil => exact unused_exact s unused
        | cons first earlier =>
          obtain ⟨rfl,rest⟩ := List.cons.inj parts
          exact next.mpr others earlier later rest

/-- The map is exact in every state of a run just as long as no connection is reported. -/
theorem run_exact_iff (commands : List Command) :
    (∀ earlier later, commands = earlier ++ later → Exact (run step .new earlier)) ↔
      ∀ command ∈ commands, connects command = false :=
  unused_run .new new_unused commands

/-- After two connections a shutdown disconnects the first of them only, and the second session is
not found by its id. -/
theorem run_exact_two :
    let s := run step .new [.onConnect 5,.onConnect 6]
    s.client 5 = some 0 ∧ s.client 6 = some 1 ∧ (s.sessions 1).sessionId = 2 ∧ getSession 2 s = none ∧
      (step s .shutdown).log = [.disconnectEx 5] ∧ ¬ Exact s := by
  refine ⟨rfl,rfl,rfl,by decide,by decide,fun exact => ?_⟩
  have present := exact.found 6 1 rfl
  revert present
  decide

end Fantuan.EasyNet.BaseLoop

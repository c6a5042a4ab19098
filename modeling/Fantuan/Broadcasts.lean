import Fantuan.ServerBase.ServerHelper
import Mathlib.Algebra.Group.Nat.Defs
import Mathlib.Data.List.Count
import Mathlib.Data.List.Perm.Basic
import Mathlib.Data.UInt

/-! A broadcast from the region server to the sessions of its players: gathered for each gate by the
helper, carried in one message a gate, and expanded again by the gates.
-/
namespace Fantuan.Broadcasts
open StarNet.Packet StarNet.DataStream ServerBase.ServerCommon ServerBase.ServerHelper

/-- The gates that are configured, those to which there is a connection, and those that have the
memory for the command. -/
structure Env where
  hasPeerServer : UInt8 → Bool
  connected : UInt8 → Bool
  memory : UInt8 → Bool

def Env.getPeerServer (env : Env) (id : UInt8) : Option UInt8 :=
  if env.hasPeerServer id then some id else none

/-- RegionServerLoop::BroadcastData, with the sessions of the players as the map is walked. -/
def broadcastData (env : Env) (players : List UInt32) (packet : Packet) (helper : BroadcastHelper) :
    List Message × BroadcastHelper :=
  (players.foldl (fun helper session => helper.addGateSession session) helper.clear).sendData
    env.connected packet

/-- The temporary array of a logic loop, which has room for m_iPlayerMax avatars. -/
structure RegionLogicLoop where
  helper : BroadcastHelper
  delaySendData : Packet
  playerMax : Nat
  arrayTempAvatar : List Nat
  sessionId : Nat → UInt32
  undefined : Bool

def RegionLogicLoop.addAvatarToTemp (avatar : Nat) (loop : RegionLogicLoop) : RegionLogicLoop :=
  {loop with
    arrayTempAvatar := loop.arrayTempAvatar ++ [avatar]
    undefined := loop.undefined || decide (loop.playerMax ≤ loop.arrayTempAvatar.length)}

def RegionLogicLoop.broadcastToTemp (env : Env) (loop : RegionLogicLoop) :
    List Message × RegionLogicLoop :=
  let (messages,helper) := broadcastData env (loop.arrayTempAvatar.map loop.sessionId)
    loop.delaySendData loop.helper
  (messages,{loop with helper := helper, arrayTempAvatar := []})

structure Call where
  gate : UInt8
  session : UInt32
  typeId : UInt16
  buf : List UInt8
  deriving DecidableEq

/-- The sessions to which a gate sends now: found, not finalizing, with a region server, and in a state
from which it may send. -/
abbrev Ready := UInt8 → UInt32 → Bool

/-- GatePeerRecv::BroadcastData and _OnCommandBroadcastData; the copy into the command's array of
BROADCAST_SESSION_MAX entries is not bounded. -/
def receive (env : Env) (ready : Ready) (message : Message) : List Call × Bool :=
  match broadcastCallback message.payload with
  | none => ([],false)
  | some received =>
    if env.memory message.gate = false then ([],false)
    else
      (((readSessions received.sessionCount.toNat received.arraySessionId).filter (ready message.gate)).map
          fun session => ⟨message.gate,session,received.typeId,received.buf.take received.len.toNat⟩,
        decide (broadcastSessionMax < received.sessionCount.toNat))

def calls (env : Env) (ready : Ready) (messages : List Message) : List Call :=
  messages.flatMap fun message => (receive env ready message).1

/-- Whatever the gates find ready: nothing undefined happens, and each player's session is sent the
packet once by its own gate, and no other. -/
def Reaches (env : Env) (players : List UInt32) (packet : Packet) (sent : List Message) (undefined : Bool) :
    Prop :=
  ∀ ready : Ready, undefined = false ∧ (∀ message ∈ sent, (receive env ready message).2 = false) ∧
    ∀ call, (calls env ready sent).count call =
      if call.typeId = packet.typeId ∧ call.buf = packet.buf ∧ call.gate = serverId call.session ∧
        ready call.gate call.session = true
      then players.count call.session else 0

def onGate (gate : UInt8) (players : List UInt32) : List UInt32 :=
  players.filter fun session => serverId session = gate

/-- A gate to which one message can take the packet for all its players. -/
structure Open (env : Env) (players : List UInt32) (packet : Packet) (gate : UInt8) : Prop where
  known : gate.toNat < serverCountMax
  configured : env.hasPeerServer gate = true
  connected : env.connected gate = true
  memory : env.memory gate = true
  few : (onGate gate players).length ≤ broadcastSessionMax
  room : 18 + 4 * (onGate gate players).length + packet.buf.length ≤ maxOutputBuffer

/-- A helper as Init leaves it, and every broadcast. -/
structure Configured (env : Env) (helper : BroadcastHelper) : Prop where
  gates : ∀ gate : UInt8, gate.toNat < serverCountMax →
    (helper.arrayGateServerSessionDesc gate.toNat).gateServer = env.getPeerServer gate
  defined : helper.undefined = false

theorem add_take (sessions : List UInt32) (session : UInt32) (desc : GateServerSessionDesc)
    (listed : desc.arraySessionId = sessions.take broadcastSessionMax) :
    (desc.add session).arraySessionId = (sessions ++ [session]).take broadcastSessionMax := by
  have size := congrArg List.length listed
  rw [List.length_take] at size
  rw [GateServerSessionDesc.add]
  split
  case isTrue room =>
    rw [List.take_of_length_le (by omega)] at listed
    rw [List.take_of_length_le (by rw [List.length_append,List.length_singleton]; omega),← listed]
  case isFalse full =>
    rw [List.take_append_of_le_length (by omega)]
    exact listed

theorem add_gateServer (session : UInt32) (desc : GateServerSessionDesc) :
    (desc.add session).gateServer = desc.gateServer := by
  rw [GateServerSessionDesc.add]
  split <;> rfl

section
variable (session : UInt32) (helper : BroadcastHelper)
  (known : ¬ serverCountMax ≤ (serverId session).toNat)
include known

theorem addGateSession_same :
    (helper.addGateSession session).arrayGateServerSessionDesc (serverId session).toNat =
      (helper.arrayGateServerSessionDesc (serverId session).toNat).add session := by
  rw [BroadcastHelper.addGateSession,if_neg known]
  exact Function.update_self ..

theorem addGateSession_other (id : Nat) (other : id ≠ (serverId session).toNat) :
    (helper.addGateSession session).arrayGateServerSessionDesc id =
      helper.arrayGateServerSessionDesc id := by
  rw [BroadcastHelper.addGateSession,if_neg known]
  exact Function.update_of_ne other ..

end

structure Gathered (env : Env) (players : List UInt32) (helper : BroadcastHelper) : Prop where
  gates : ∀ gate : UInt8, gate.toNat < serverCountMax →
    (helper.arrayGateServerSessionDesc gate.toNat).gateServer = env.getPeerServer gate ∧
    (helper.arrayGateServerSessionDesc gate.toNat).arraySessionId =
      (onGate gate players).take broadcastSessionMax
  undefined : helper.undefined = true ↔ ∃ session ∈ players, serverCountMax ≤ (serverId session).toNat

private theorem addGateSession_gathered (env : Env) (players : List UInt32) (session : UInt32)
    (helper : BroadcastHelper) (gathered : Gathered env players helper) :
    Gathered env (players ++ [session]) (helper.addGateSession session) := by
  by_cases beyond : serverCountMax ≤ (serverId session).toNat
  · refine ⟨?_,?_⟩
    · intro gate known
      have other : serverId session ≠ gate := by
        rintro rfl
        omega
      rw [BroadcastHelper.addGateSession,if_pos beyond,onGate,List.filter_append,
        List.filter_singleton,decide_eq_false other,cond_false,List.append_nil]
      exact gathered.gates gate known
    · rw [BroadcastHelper.addGateSession,if_pos beyond]
      constructor
      · intro _
        exact ⟨session,by simp,beyond⟩
      · intro _
        rfl
  · refine ⟨?_,?_⟩
    · intro gate known
      obtain ⟨gateServer,sessions⟩ := gathered.gates gate known
      rw [onGate,List.filter_append,List.filter_singleton]
      by_cases here : serverId session = gate
      · subst gate
        rw [addGateSession_same session helper beyond,add_gateServer,decide_eq_true rfl,cond_true]
        exact ⟨gateServer,add_take _ session _ sessions⟩
      · have apart : gate.toNat ≠ (serverId session).toNat := fun same =>
          here (UInt8.toNat_inj.mp same).symm
        rw [addGateSession_other session helper beyond _ apart,decide_eq_false here,cond_false,
          List.append_nil]
        exact ⟨gateServer,sessions⟩
    · rw [BroadcastHelper.addGateSession,if_neg beyond]
      change helper.undefined = true ↔ _
      rw [gathered.undefined]
      constructor
      · rintro ⟨other,listed,far⟩
        exact ⟨other,List.mem_append_left _ listed,far⟩
      · rintro ⟨other,listed,far⟩
        obtain old | new := List.mem_append.mp listed
        · exact ⟨other,old,far⟩
        · rw [List.mem_singleton.mp new] at far
          exact absurd far beyond

private theorem clear_gathered (env : Env) (helper : BroadcastHelper) (configured : Configured env helper) :
    Gathered env [] helper.clear := by
  refine ⟨?_,?_⟩
  · intro gate known
    exact ⟨configured.gates gate known,rfl⟩
  · rw [BroadcastHelper.clear,configured.defined]
    simp

theorem gathers (env : Env) (players : List UInt32) (helper : BroadcastHelper)
    (configured : Configured env helper) :
    Gathered env players
      (players.foldl (fun helper session => helper.addGateSession session) helper.clear) := by
  have general (before after : List UInt32) (helper : BroadcastHelper)
      (gathered : Gathered env before helper) : Gathered env (before ++ after)
        (after.foldl (fun helper session => helper.addGateSession session) helper) := by
    induction after generalizing before helper with
    | nil =>
      rw [List.append_nil]
      exact gathered
    | cons session after ih =>
      rw [List.append_cons,List.foldl_cons]
      exact ih _ _ (addGateSession_gathered env before session helper gathered)
  exact general [] players _ (clear_gathered env helper configured)

/-- The sessions that a gate has from its message, in the order of its array. -/
def arrived (env : Env) (players : List UInt32) (packet : Packet) (gate : UInt8) : List UInt32 :=
  let sessions := (onGate gate players).take broadcastSessionMax
  if 18 + 4 * sessions.length + packet.buf.length ≤ maxOutputBuffer ∧ env.hasPeerServer gate = true ∧
    env.connected gate = true ∧ env.memory gate = true then sessions else []

private theorem sendDesc_calls (env : Env) (ready : Ready) (players : List UInt32) (packet : Packet)
    (gate : UInt8) (desc : GateServerSessionDesc)
    (gateServer : desc.gateServer = env.getPeerServer gate)
    (sessions : desc.arraySessionId = (onGate gate players).take broadcastSessionMax) :
    calls env ready (sendDesc env.connected packet desc).1 =
      ((arrived env players packet gate).filter (ready gate)).map
        fun session => ⟨gate,session,packet.typeId,packet.buf⟩ := by
  have few : desc.arraySessionId.length ≤ broadcastSessionMax := desc.inside
  rw [arrived,← sessions]
  by_cases empty : desc.arraySessionId.length = 0
  · rw [sendDesc,if_pos empty,List.length_eq_zero_iff.mp empty,ite_self]
    rfl
  · rw [sendDesc,if_neg empty]
    have total := broadcastBytes_length desc.arraySessionId packet
    cases written : broadcastPayload desc.arraySessionId packet with
    | none =>
      have long : ¬ 18 + 4 * desc.arraySessionId.length + packet.buf.length ≤ maxOutputBuffer := by
        intro room
        obtain ⟨stream,some⟩ := broadcastPayload_room desc.arraySessionId packet few
          (by rw [total,maxPeerBuffer]; rw [maxOutputBuffer] at room; omega)
        rw [written] at some
        cases some
      rw [if_neg (fun all => long all.1)]
      rfl
    | some stream =>
      have data := broadcastPayload_data desc.arraySessionId packet few stream written
      simp only
      rw [gateServer,Env.getPeerServer]
      by_cases configured : env.hasPeerServer gate = true
      · rw [if_pos configured]
        simp only
        rw [send,data,total]
        by_cases connected : env.connected gate = true
        · rw [if_neg (by rw [connected]; exact Bool.noConfusion)]
          by_cases room : 18 + 4 * desc.arraySessionId.length + packet.buf.length ≤ maxOutputBuffer
          · rw [if_neg (by rw [peerPacketHead]; omega),calls,List.flatMap_singleton,receive,
              broadcastCallback_bytes desc.arraySessionId packet few]
            simp only
            by_cases memory : env.memory gate = true
            · rw [if_neg (by rw [memory]; exact Bool.noConfusion),
                if_pos ⟨room,configured,connected,memory⟩,count_toNat _ few,readSessions_memory,packet_len,
                List.take_length]
            · rw [if_pos (by simpa using memory),if_neg (fun all => memory all.2.2.2)]
              rfl
          · rw [if_pos (by rw [peerPacketHead]; omega),if_neg (fun all => room all.1)]
            rfl
        · rw [if_pos (by simpa using connected),if_neg (fun all => connected all.2.2.1)]
          rfl
      · rw [if_neg configured,if_neg (fun all => configured all.2.1)]
        rfl

private theorem sendDesc_received (env : Env) (ready : Ready) (packet : Packet)
    (desc : GateServerSessionDesc) (message : Message)
    (sent : message ∈ (sendDesc env.connected packet desc).1) : (receive env ready message).2 = false := by
  have few : desc.arraySessionId.length ≤ broadcastSessionMax := desc.inside
  rw [sendDesc] at sent
  split at sent
  · cases sent
  · split at sent
    · cases sent
    case h_2 stream written =>
      split at sent
      · rw [send] at sent
        split at sent
        · cases sent
        · split at sent
          · cases sent
          · rw [List.mem_singleton.mp sent,receive,
              broadcastPayload_data desc.arraySessionId packet few stream written,
              broadcastCallback_bytes desc.arraySessionId packet few]
            simp only
            split
            · rfl
            · rw [count_toNat _ few]
              exact decide_eq_false (Nat.not_lt.mpr few)
      · cases sent

private theorem sendDesc_defined (env : Env) (packet : Packet) (desc : GateServerSessionDesc)
    (given : desc.arraySessionId ≠ [] → desc.gateServer ≠ none) :
    (sendDesc env.connected packet desc).2 = false := by
  rw [sendDesc]
  split
  · rfl
  case isFalse some =>
    have led := given fun empty => some (List.length_eq_zero_iff.mpr empty)
    split
    · rfl
    · split
      · rfl
      case h_2 none => exact absurd none led

private theorem count_range (n only : Nat) (lists : Nat → List Call) (call : Call)
    (elsewhere : ∀ id, id < n → id ≠ only → (lists id).count call = 0) :
    ((List.range n).flatMap lists).count call = if only < n then (lists only).count call else 0 := by
  induction n with
  | zero => rfl
  | succ n ih =>
    rw [List.range_succ,List.flatMap_append,List.count_append,List.flatMap_singleton,
      ih fun id before apart => elsewhere id (Nat.lt_succ_of_lt before) apart]
    by_cases here : only = n
    · rw [here,if_neg (Nat.lt_irrefl n),if_pos (Nat.lt_succ_self n),Nat.zero_add]
    · rw [elsewhere n (Nat.lt_succ_self n) (Ne.symm here),Nat.add_zero]
      by_cases before : only < n
      · rw [if_pos before,if_pos (Nat.lt_succ_of_lt before)]
      · rw [if_neg before,if_neg (by omega)]

private theorem count_calls (gate : UInt8) (packet : Packet) (sessions : List UInt32) (call : Call) :
    (sessions.map fun session => (⟨gate,session,packet.typeId,packet.buf⟩ : Call)).count call =
      if call.gate = gate ∧ call.typeId = packet.typeId ∧ call.buf = packet.buf
      then sessions.count call.session else 0 := by
  by_cases same : call.gate = gate ∧ call.typeId = packet.typeId ∧ call.buf = packet.buf
  · obtain ⟨callGate,session,typeId,buf⟩ := call
    obtain ⟨rfl,rfl,rfl⟩ := same
    rw [if_pos ⟨rfl,rfl,rfl⟩]
    exact List.count_map_of_injective sessions
      (fun session => (⟨callGate,session,packet.typeId,packet.buf⟩ : Call))
      (fun _ _ equal => congrArg Call.session equal) session
  · rw [if_neg same]
    apply List.count_eq_zero.mpr
    intro member
    obtain ⟨session,_,rfl⟩ := List.mem_map.mp member
    exact same ⟨rfl,rfl,rfl⟩

private theorem sendData_calls (env : Env) (ready : Ready) (players : List UInt32) (packet : Packet)
    (helper : BroadcastHelper) (gathered : Gathered env players helper) (call : Call) :
    (calls env ready (helper.sendData env.connected packet).1).count call =
      if call.gate.toNat < serverCountMax ∧ call.typeId = packet.typeId ∧ call.buf = packet.buf ∧
        ready call.gate call.session = true
      then (arrived env players packet call.gate).count call.session else 0 := by
  have gates (id : Nat) (known : id < serverCountMax) : calls env ready
      (sendDesc env.connected packet (helper.arrayGateServerSessionDesc id)).1 =
      ((arrived env players packet (UInt8.ofNat id)).filter (ready (UInt8.ofNat id))).map
        fun session => ⟨UInt8.ofNat id,session,packet.typeId,packet.buf⟩ := by
    have same : (UInt8.ofNat id).toNat = id :=
      UInt8.toNat_ofNat_of_lt (Nat.lt_trans known (by decide))
    obtain ⟨gateServer,sessions⟩ := gathered.gates (UInt8.ofNat id) (by rw [same]; exact known)
    rw [same] at gateServer sessions
    exact sendDesc_calls env ready players packet _ _ gateServer sessions
  have spread : calls env ready (helper.sendData env.connected packet).1 =
      (List.range serverCountMax).flatMap fun id =>
        calls env ready (sendDesc env.connected packet (helper.arrayGateServerSessionDesc id)).1 := by
    rw [BroadcastHelper.sendData,calls,List.flatMap_map,List.flatMap_assoc]
    rfl
  rw [spread,count_range serverCountMax call.gate.toNat]
  · by_cases known : call.gate.toNat < serverCountMax
    · rw [if_pos known,gates _ known,UInt8.ofNat_toNat,count_calls]
      by_cases same : call.typeId = packet.typeId ∧ call.buf = packet.buf
      · rw [if_pos ⟨rfl,same⟩]
        by_cases prepared : ready call.gate call.session = true
        · rw [if_pos ⟨known,same.1,same.2,prepared⟩,List.count_filter prepared]
        · rw [if_neg (fun all => prepared all.2.2.2)]
          exact List.count_eq_zero.mpr fun member => prepared (List.mem_filter.mp member).2
      · rw [if_neg (fun all => same all.2),if_neg (fun all => same ⟨all.2.1,all.2.2.1⟩)]
    · rw [if_neg known,if_neg (fun all => known all.1)]
  · intro id before apart
    have same : (UInt8.ofNat id).toNat = id :=
      UInt8.toNat_ofNat_of_lt (Nat.lt_trans before (by decide))
    rw [gates id before,count_calls,if_neg]
    intro ⟨gate,_⟩
    rw [gate,same] at apart
    exact apart rfl

private theorem onGate_count (gate : UInt8) (players : List UInt32) (session : UInt32) :
    (onGate gate players).count session = if serverId session = gate then players.count session else 0 := by
  by_cases here : serverId session = gate
  · rw [if_pos here,onGate]
    exact List.count_filter (by simpa using here)
  · rw [if_neg here]
    exact List.count_eq_zero.mpr fun member =>
      here (of_decide_eq_true (List.mem_filter.mp member).2)

private theorem open_arrived (env : Env) (players : List UInt32) (packet : Packet) (gate : UInt8)
    (free : Open env players packet gate) : arrived env players packet gate = onGate gate players := by
  rw [arrived,List.take_of_length_le free.few]
  exact if_pos ⟨free.room,free.configured,free.connected,free.memory⟩

private theorem arrived_listed (env : Env) (players : List UInt32) (packet : Packet) (gate : UInt8)
    (session : UInt32) (member : session ∈ arrived env players packet gate) :
    session ∈ players ∧ serverId session = gate := by
  rw [arrived] at member
  split at member
  · obtain ⟨listed,here⟩ := List.mem_filter.mp (List.mem_of_mem_take member)
    exact ⟨listed,of_decide_eq_true here⟩
  · cases member

private theorem arrived_open (env : Env) (players : List UInt32) (packet : Packet) (gate : UInt8)
    (known : gate.toNat < serverCountMax) (some : onGate gate players ≠ [])
    (all : (arrived env players packet gate).length = (onGate gate players).length) :
    Open env players packet gate := by
  rw [arrived] at all
  split at all
  case isTrue took =>
    rw [List.length_take] at all
    have few : (onGate gate players).length ≤ broadcastSessionMax := by omega
    rw [List.take_of_length_le few] at took
    exact ⟨known,took.2.1,took.2.2.1,took.2.2.2,few,took.1⟩
  case isFalse =>
    exact absurd (List.length_eq_zero_iff.mp all.symm) some

private theorem broadcast_iff (env : Env) (players : List UInt32) (packet : Packet)
    (helper : BroadcastHelper) (configured : Configured env helper) :
    Reaches env players packet (broadcastData env players packet helper).1
        (broadcastData env players packet helper).2.undefined ↔
      ∀ session ∈ players, Open env players packet (serverId session) := by
  have gathered := gathers env players helper configured
  rw [broadcastData]
  generalize players.foldl (fun helper session => helper.addGateSession session) helper.clear = full
    at gathered
  constructor
  · intro reaches session listed
    obtain ⟨defined,_,counts⟩ := reaches fun _ _ => true
    have known : (serverId session).toNat < serverCountMax := by
      by_contra beyond
      have far := gathered.undefined.mpr ⟨session,listed,Nat.le_of_not_lt beyond⟩
      rw [BroadcastHelper.sendData,far] at defined
      cases defined
    have member : session ∈ onGate (serverId session) players :=
      List.mem_filter.mpr ⟨listed,decide_eq_true rfl⟩
    have same : (arrived env players packet (serverId session)).Perm (onGate (serverId session) players) := by
      rw [List.perm_iff_count]
      intro other
      rw [onGate_count]
      have counted := counts ⟨serverId session,other,packet.typeId,packet.buf⟩
      rw [sendData_calls env _ players packet full gathered,if_pos ⟨known,rfl,rfl,rfl⟩] at counted
      rw [counted]
      by_cases here : serverId other = serverId session
      · rw [if_pos here,if_pos ⟨rfl,rfl,here.symm,rfl⟩]
      · rw [if_neg here,if_neg (fun all => here all.2.2.1.symm)]
    exact arrived_open env players packet _ known (List.ne_nil_of_mem member) same.length_eq
  · intro free ready
    have near : full.undefined = false := by
      rw [← Bool.not_eq_true,gathered.undefined]
      rintro ⟨session,listed,far⟩
      exact absurd (free session listed).known (Nat.not_lt.mpr far)
    refine ⟨?_,?_,?_⟩
    · change (full.undefined || _) = false
      rw [near,Bool.false_or,List.any_map,List.any_eq_false]
      intro id inside
      have known := List.mem_range.mp inside
      have same : (UInt8.ofNat id).toNat = id :=
        UInt8.toNat_ofNat_of_lt (Nat.lt_trans known (by decide))
      obtain ⟨gateServer,sessions⟩ := gathered.gates (UInt8.ofNat id) (by rw [same]; exact known)
      rw [same] at gateServer sessions
      rw [Function.comp_apply,sendDesc_defined]
      · exact Bool.false_ne_true
      · intro given
        rw [sessions] at given
        obtain ⟨session,member⟩ := List.exists_mem_of_ne_nil _ given
        obtain ⟨listed,here⟩ := List.mem_filter.mp (List.mem_of_mem_take member)
        have configured := (free session listed).configured
        rw [of_decide_eq_true here] at configured
        rw [gateServer,Env.getPeerServer,if_pos configured]
        exact Option.some_ne_none _
    · intro message sent
      obtain ⟨pair,inside,carried⟩ := List.mem_flatMap.mp sent
      obtain ⟨id,_,rfl⟩ := List.mem_map.mp inside
      exact sendDesc_received env ready packet _ message carried
    · intro call
      rw [sendData_calls env ready players packet full gathered]
      by_cases mine : call.typeId = packet.typeId ∧ call.buf = packet.buf ∧
          call.gate = serverId call.session ∧ ready call.gate call.session = true
      · rw [if_pos mine]
        by_cases listed : call.session ∈ players
        · have wide := free call.session listed
          rw [← mine.2.2.1] at wide
          rw [if_pos ⟨wide.known,mine.1,mine.2.1,mine.2.2.2⟩,open_arrived env players packet _ wide,
            onGate_count,if_pos mine.2.2.1.symm]
        · rw [List.count_eq_zero.mpr listed,ite_eq_right_iff]
          intro _
          exact List.count_eq_zero.mpr fun member =>
            listed (arrived_listed env players packet call.gate call.session member).1
      · rw [if_neg mine,ite_eq_right_iff]
        intro others
        refine List.count_eq_zero.mpr fun member => mine ⟨others.2.1,others.2.2.1,?_,others.2.2.2⟩
        exact (arrived_listed env players packet call.gate call.session member).2.symm

section
variable (id : UInt8) (gateServer : Option UInt8) (helper : BroadcastHelper)
  (known : ¬ serverCountMax ≤ id.toNat)
include known

theorem setGateServer_same :
    ((helper.setGateServer id gateServer).arrayGateServerSessionDesc id.toNat).gateServer =
      gateServer := by
  rw [BroadcastHelper.setGateServer,if_neg known]
  change (Function.update helper.arrayGateServerSessionDesc id.toNat _ id.toNat).gateServer = _
  rw [Function.update_self]

theorem setGateServer_other (other : Nat) (apart : other ≠ id.toNat) :
    (helper.setGateServer id gateServer).arrayGateServerSessionDesc other =
      helper.arrayGateServerSessionDesc other := by
  rw [BroadcastHelper.setGateServer,if_neg known]
  exact Function.update_of_ne apart ..

end

theorem new_configured (env : Env) : Configured env (BroadcastHelper.new env.getPeerServer) := by
  have general (n : Nat) (below : n ≤ serverCountMax) (helper : BroadcastHelper)
      (filled : helper = (List.range n).foldl
        (fun helper id => helper.setGateServer (UInt8.ofNat id) (env.getPeerServer (UInt8.ofNat id)))
        ⟨fun _ => ⟨none,[],Nat.zero_le _⟩,false⟩) :
      (∀ gate : UInt8, gate.toNat < n →
        (helper.arrayGateServerSessionDesc gate.toNat).gateServer = env.getPeerServer gate) ∧
        helper.undefined = false := by
    induction n generalizing helper with
    | zero =>
      subst filled
      exact ⟨fun gate before => absurd before (Nat.not_lt_zero _),rfl⟩
    | succ n ih =>
      obtain ⟨gates,defined⟩ := ih (Nat.le_of_succ_le below) _ rfl
      have same : (UInt8.ofNat n).toNat = n :=
        UInt8.toNat_ofNat_of_lt (Nat.lt_of_lt_of_le below (by decide))
      have inside : ¬ serverCountMax ≤ (UInt8.ofNat n).toNat := by
        rw [same]
        omega
      rw [List.range_succ,List.foldl_append,List.foldl_cons,List.foldl_nil] at filled
      subst filled
      refine ⟨?_,?_⟩
      · intro gate before
        by_cases here : gate.toNat = n
        · obtain rfl : gate = UInt8.ofNat n := UInt8.toNat_inj.mp (here.trans same.symm)
          exact setGateServer_same _ _ _ inside
        · rw [setGateServer_other _ _ _ inside _ (by rw [same]; exact here)]
          exact gates gate (by omega)
      · rw [BroadcastHelper.setGateServer,if_neg inside]
        exact defined
  obtain ⟨gates,defined⟩ := general serverCountMax (Nat.le_refl _)
    (BroadcastHelper.new env.getPeerServer) (by rw [BroadcastHelper.new])
  exact ⟨gates,defined⟩

theorem broadcastData_configured (env : Env) (players : List UInt32) (packet : Packet)
    (helper : BroadcastHelper) (configured : Configured env helper)
    (defined : (broadcastData env players packet helper).2.undefined = false) :
    Configured env (broadcastData env players packet helper).2 := by
  have gathered := gathers env players helper configured
  refine ⟨?_,defined⟩
  intro gate known
  exact (gathered.gates gate known).1

/-- The temporary array after some avatars were put into it. -/
def addAll (avatars : List Nat) (loop : RegionLogicLoop) : RegionLogicLoop :=
  avatars.foldl (fun loop avatar => loop.addAvatarToTemp avatar) loop

private theorem addAll_temp (avatars : List Nat) (loop : RegionLogicLoop) :
    (addAll avatars loop).arrayTempAvatar = loop.arrayTempAvatar ++ avatars ∧
      (addAll avatars loop).helper = loop.helper ∧ (addAll avatars loop).sessionId = loop.sessionId ∧
      (addAll avatars loop).delaySendData = loop.delaySendData ∧
      ((addAll avatars loop).undefined = false ↔ loop.undefined = false ∧
        (avatars = [] ∨ loop.arrayTempAvatar.length + avatars.length ≤ loop.playerMax)) := by
  induction avatars generalizing loop with
  | nil => simp [addAll]
  | cons avatar avatars ih =>
    obtain ⟨temp,helper,sessionId,data,undefined⟩ := ih (loop.addAvatarToTemp avatar)
    refine ⟨?_,helper,sessionId,data,?_⟩
    · exact temp.trans (List.append_assoc ..)
    · refine undefined.trans ?_
      change (loop.undefined || decide (loop.playerMax ≤ loop.arrayTempAvatar.length)) = false ∧
        (avatars = [] ∨ (loop.arrayTempAvatar ++ [avatar]).length + avatars.length ≤ loop.playerMax) ↔ _
      rw [Bool.or_eq_false_iff,decide_eq_false_iff_not,List.length_append,List.length_singleton,
        List.length_cons]
      constructor
      · rintro ⟨⟨before,room⟩,rfl | rest⟩
        · exact ⟨before,.inr (by rw [List.length_nil]; omega)⟩
        · exact ⟨before,.inr (by omega)⟩
      · rintro ⟨before,none | rest⟩
        · cases none
        · exact ⟨⟨before,by omega⟩,.inr (by omega)⟩

structure Fresh (env : Env) (loop : RegionLogicLoop) : Prop where
  configured : Configured env loop.helper
  empty : loop.arrayTempAvatar = []
  defined : loop.undefined = false

private theorem broadcastToTemp_iff (env : Env) (loop : RegionLogicLoop) (avatars : List Nat)
    (fresh : Fresh env loop) :
    Reaches env (avatars.map loop.sessionId) loop.delaySendData
        ((addAll avatars loop).broadcastToTemp env).1
        (((addAll avatars loop).broadcastToTemp env).2.helper.undefined ||
          ((addAll avatars loop).broadcastToTemp env).2.undefined) ↔
      avatars.length ≤ loop.playerMax ∧
        ∀ session ∈ avatars.map loop.sessionId,
          Open env (avatars.map loop.sessionId) loop.delaySendData (serverId session) := by
  obtain ⟨temp,helper,sessionId,data,undefined⟩ := addAll_temp avatars loop
  rw [fresh.empty,List.nil_append] at temp
  rw [fresh.empty] at undefined
  have inside : (addAll avatars loop).undefined = false ↔ avatars.length ≤ loop.playerMax := by
    rw [undefined,List.length_nil,Nat.zero_add]
    constructor
    · rintro ⟨_,rfl | room⟩
      · exact Nat.zero_le _
      · exact room
    · intro room
      exact ⟨fresh.defined,.inr room⟩
  rw [← broadcast_iff env _ loop.delaySendData loop.helper fresh.configured,
    RegionLogicLoop.broadcastToTemp,temp,helper,sessionId,data]
  change Reaches env _ _ _ (_ || (addAll avatars loop).undefined) ↔ _
  constructor
  · intro reaches
    refine ⟨?_,?_⟩
    · obtain ⟨defined,_⟩ := reaches fun _ _ => true
      exact inside.mp (Bool.or_eq_false_iff.mp defined).2
    · intro ready
      obtain ⟨defined,rest⟩ := reaches ready
      exact ⟨(Bool.or_eq_false_iff.mp defined).1,rest⟩
  · rintro ⟨room,reaches⟩ ready
    obtain ⟨defined,rest⟩ := reaches ready
    exact ⟨Bool.or_eq_false_iff.mpr ⟨defined,inside.mpr room⟩,rest⟩

/-- A broadcast reaches each player's session once, exactly where the gate of each player can be sent
one message for all its players; one from the temporary array, where the array has room besides. -/
theorem broadcast_reaches (env : Env) (helper : BroadcastHelper) (configured : Configured env helper)
    (loop : RegionLogicLoop) (fresh : Fresh env loop) :
    (∀ players packet, Reaches env players packet (broadcastData env players packet helper).1
        (broadcastData env players packet helper).2.undefined ↔
      ∀ session ∈ players, Open env players packet (serverId session)) ∧
    ∀ avatars, Reaches env (avatars.map loop.sessionId) loop.delaySendData
        ((addAll avatars loop).broadcastToTemp env).1
        (((addAll avatars loop).broadcastToTemp env).2.helper.undefined ||
          ((addAll avatars loop).broadcastToTemp env).2.undefined) ↔
      avatars.length ≤ loop.playerMax ∧
        ∀ session ∈ avatars.map loop.sessionId,
          Open env (avatars.map loop.sessionId) loop.delaySendData (serverId session) :=
  ⟨fun players packet => broadcast_iff env players packet helper configured,
    fun avatars => broadcastToTemp_iff env loop avatars fresh⟩

def openEnv : Env := ⟨fun _ => true,fun _ => true,fun _ => true⟩

def ping : Packet := ⟨0,[1],by decide⟩

/-- The sessions of the avatars are on two gates in turn. -/
def newLoop : RegionLogicLoop :=
  ⟨BroadcastHelper.new openEnv.getPeerServer,ping,100,[],
    fun avatar => UInt32.ofNat (2^24 * (1 + avatar % 2) + 2^8 * avatar),false⟩

def fivePlayers : List UInt32 := [0,1,2,3,4].map newLoop.sessionId

theorem broadcast_reaches_five :
    let sent := broadcastData openEnv fivePlayers ping newLoop.helper
    let last := (addAll [0,1,2,3,4] newLoop).broadcastToTemp openEnv
    Reaches openEnv fivePlayers ping sent.1 sent.2.undefined ∧
      Reaches openEnv fivePlayers ping last.1 (last.2.helper.undefined || last.2.undefined) := by
  intro sent last
  have configured := new_configured openEnv
  obtain ⟨each,temp⟩ := broadcast_reaches openEnv _ configured newLoop ⟨configured,rfl,rfl⟩
  have gates : fivePlayers.map serverId = [1,2,1,2,1] := by decide
  have opens : ∀ session ∈ fivePlayers, Open openEnv fivePlayers ping (serverId session) := by
    intro session listed
    have gate : serverId session ∈ fivePlayers.map serverId := List.mem_map_of_mem listed
    rw [gates] at gate
    have either : serverId session = 1 ∨ serverId session = 2 := by
      simpa [or_comm,or_left_comm] using gate
    rcases either with first | second
    · rw [first]
      exact ⟨by decide,rfl,rfl,rfl,by decide,by decide⟩
    · rw [second]
      exact ⟨by decide,rfl,rfl,rfl,by decide,by decide⟩
  exact ⟨(each fivePlayers ping).mpr opens,(temp [0,1,2,3,4]).mpr ⟨by decide,opens⟩⟩

def crowd : List UInt32 := (List.range 129).map fun i => UInt32.ofNat (2^24 + 2^8 * i)

theorem crowd_unreached :
    ¬ Reaches openEnv crowd ping
      (broadcastData openEnv crowd ping (BroadcastHelper.new openEnv.getPeerServer)).1
      (broadcastData openEnv crowd ping (BroadcastHelper.new openEnv.getPeerServer)).2.undefined := by
  rw [broadcast_iff openEnv crowd ping _ (new_configured openEnv)]
  intro free
  have few := (free (2^24) (by decide +kernel)).few
  have many : (onGate (serverId (2^24)) crowd).length = 129 := by decide +kernel
  rw [many] at few
  exact absurd few (by decide)

end Fantuan.Broadcasts

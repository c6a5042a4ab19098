import Fantuan.Gen.Sending
import Fantuan.GateServer.GateSessionRecv
import Fantuan.Lib.Run
import Fantuan.MasterServer.Commands

/-! The delay buffers of the servers. A length copied into one is written on the wire by the gate
(a forwarded packet), by a Send stub, or by the client (a packet of a session).
-/
namespace Fantuan.DelayBuffers
open Lib.Run Lib.Table StarNet.Packet StarNet.RecvLoop Gen.Declaration Gen.Emitted Gen.Call
open ServerBase.SessionRecv GateServer.GateSessionRecv
open MasterServer.Context MasterServer.Commands

inductive Incoming where
  -- PacketForward of the gate, as the master loop in this state takes it; m_iLen is a uint16
  | forwarded (s : Loop) (sessionId : UInt32) (typeId : UInt16) (data : Chunk)
  -- Sender::SendPacket of master, cache and region, from the stub of a function
  | answered (types : Types) (filter : Filter) (index : Fin filter.node.length)
    (arguments : Arguments types .ft (filter.node.get index))
  -- what a session of the gate receives
  | cut (login : Login) (session : Session) (loggedIn : LoggedIn session)
    (held : session.recvBuf.length ≤ maxInputBuffer) (chunks : List Chunk)

/-- The lengths that a message makes a server copy into its delay buffer. -/
inductive Copies : Incoming → Nat → Prop where
  | forwarded (s : Loop) (sessionId : UInt32) (typeId : UInt16) (data : Chunk) (player : Tool.ObjectPool.Object)
    (running : s.shutdownStatus = .notShutdown)
    (found : find sessionId s.playerContextBySessionId = some player) :
    Copies (.forwarded s sessionId typeId data) data.val.length
  | answered (types : Types) (filter : Filter) (index : Fin filter.node.length)
    (arguments : Arguments types .ft (filter.node.get index)) (payload : List UInt8)
    (sent : send types .ft filter index arguments = some payload) :
    Copies (.answered types filter index arguments) payload.length
  | handled (login : Login) (session : Session) (loggedIn : LoggedIn session)
    (held : session.recvBuf.length ≤ maxInputBuffer) (chunks : List Chunk) (fuel : Nat)
    (packet : ServerPacket) (payload buffered : Nat) (accepted : Bool)
    (member : .handle packet payload buffered accepted ∈ (onDatas login fuel session chunks).actions) :
    Copies (.cut login session loggedIn held chunks) packet.len.toNat
  -- a copy that left m_RecvBuf: the packets that follow may have any length
  | torn (login : Login) (session : Session) (loggedIn : LoggedIn session)
    (held : session.recvBuf.length ≤ maxInputBuffer) (chunks : List Chunk) (fuel : Nat)
    (undefined : (onDatas login fuel session chunks).exit = .undefined) (length : Nat) :
    Copies (.cut login session loggedIn held chunks) length

def Bounded (message : Incoming) : Prop := ∀ length, Copies message length → length ≤ maxInputBuffer

/-- A stub's packet always fits. A forwarded one is copied unchecked if its session is known, a
client's is as long as its head says. -/
def Fits : Incoming → Prop
  | .forwarded s sessionId _ data => s.shutdownStatus = .notShutdown →
    (find sessionId s.playerContextBySessionId).isSome → data.val.length ≤ maxInputBuffer
  | .answered _ _ _ _ => True
  | .cut _ session _ _ chunks => CutsFit session.recvBuf chunks ∧ HeadsShort session.recvBuf chunks

private theorem forwarded_bounded (s : Loop) (sessionId : UInt32) (typeId : UInt16) (data : Chunk) :
    Bounded (.forwarded s sessionId typeId data) ↔ Fits (.forwarded s sessionId typeId data) := by
  constructor
  · intro bounded running known
    obtain ⟨player,found⟩ := Option.isSome_iff_exists.mp known
    exact bounded _ (.forwarded s sessionId typeId data player running found)
  · intro fits length copied
    cases copied with
    | forwarded _ _ _ _ player running found => exact fits running (by rw [found]; rfl)

private theorem answered_bounded (types : Types) (filter : Filter) (index : Fin filter.node.length)
    (arguments : Arguments types .ft (filter.node.get index)) :
    Bounded (.answered types filter index arguments) := by
  intro length copied
  cases copied with
  | answered _ _ _ _ payload sent =>
    obtain ⟨-,-,-,short⟩ := Gen.Sending.send_encodes types .ft filter index arguments payload sent
    exact short

private theorem cut_bounded (login : Login) (session : Session) (loggedIn : LoggedIn session)
    (held : session.recvBuf.length ≤ maxInputBuffer) (chunks : List Chunk) :
    Bounded (.cut login session loggedIn held chunks) ↔
      ∀ fuel, Delays (onDatas login fuel session chunks) := by
  constructor
  · refine fun bounded fuel => ⟨fun undefined => ?_,fun packet payload buffered accepted member => ?_⟩
    · have far := bounded _ (.torn login session loggedIn held chunks fuel undefined (maxInputBuffer + 1))
      omega
    · exact bounded _ (.handled login session loggedIn held chunks fuel packet payload buffered accepted member)
  · intro delays length copied
    cases copied with
    | handled _ _ _ _ _ fuel packet payload buffered accepted member =>
      exact (delays fuel).2 packet payload buffered accepted member
    | torn _ _ _ _ _ fuel undefined => exact absurd undefined (delays fuel).1

/-- Every length copied for a message is at most the size of the delay buffer if and only if the
message fits. -/
theorem delays_bounded_iff (message : Incoming) : Bounded message ↔ Fits message := by
  cases message with
  | forwarded s sessionId typeId data => exact forwarded_bounded s sessionId typeId data
  | answered types filter index arguments =>
    exact iff_of_true (answered_bounded types filter index arguments) trivial
  | cut login session loggedIn held chunks =>
    exact (cut_bounded login session loggedIn held chunks).trans
      (onDatas_delays login session loggedIn held chunks)

private def sample : Env := sampleEnv fun _ => true

private def entered : Loop := run (step sample) (.init sample.config) enterGate

private theorem entered_known : entered.shutdownStatus = .notShutdown ∧
    (find gateSession entered.playerContextBySessionId).isSome = true := by
  decide

private def oversized : Chunk := ⟨List.replicate 1025 0,by rw [List.length_replicate]; decide⟩

/-- A player is at the gate, which forwards 1025 bytes for it. -/
theorem delays_bounded_oversized : ¬ Bounded (.forwarded entered gateSession 1 oversized) := by
  intro bounded
  obtain ⟨running,known⟩ := entered_known
  obtain ⟨player,found⟩ := Option.isSome_iff_exists.mp known
  have copied := bounded _ (.forwarded entered gateSession 1 oversized player running found)
  rw [oversized,List.length_replicate] at copied
  exact absurd copied (by decide)

end Fantuan.DelayBuffers

import Fantuan.StarNet.ServerStreams

/-! EasyBaseSession and the packets it cuts out of the received bytes. An EasyPacket has the layout of
a ServerPacket, and OnData is the loop of the other sessions with a buffer of MAX_BUFFER bytes.
-/
namespace Fantuan.EasyNet.BaseSession
open Lib.Frames StarNet.Packet StarNet.RecvLoop StarNet.RecvStream StarNet.RecvChunks StarNet.ServerStreams

def maxBuffer : Nat := 1024

abbrev EasyPacket := ServerPacket

def packetHead : Nat := serverPacketHead

structure EasyBaseSession where
  sessionId : UInt32
  connection : Option Nat
  recvBuf : List UInt8
  deriving DecidableEq

def EasyBaseSession.new : EasyBaseSession := ⟨0,none,[]⟩

-- the result of PacketHandler::OnPacketReceived is dropped
def handlePacket (_ : EasyPacket) : Int := 0

theorem uint16_bits : 16 ≤ 32 := by decide

def packetLoop : Loop EasyPacket where
  format := serverFormat
  bufSize := maxBuffer
  lenBits := 16
  read := readServerPacket
  handle := fun packet => handlePacket packet == 0
  readFrame := readServerPacket_append
  bufBound := by decide
  lenBound := uint16_bits

def onData (fuel : Nat) (session : EasyBaseSession) (chunk : List UInt8) : Run EasyPacket :=
  receive packetLoop fuel session.recvBuf chunk

/-- iLen is a uint16. -/
abbrev Chunk := {bytes : List UInt8 // bytes.length < 2^16}

def onDatas (fuel : Nat) : EasyBaseSession → List Chunk → Run EasyPacket
  | session, [] => ⟨[],.returned session.recvBuf⟩
  | session, chunk :: chunks =>
    let first := onData fuel session chunk.val
    match first.exit with
    | .returned left => (onDatas fuel {session with recvBuf := left} chunks).after first.actions
    | _ => first

/-- What SendData writes for a payload that the receiver's buffer can hold with its head. -/
structure SentPacket where
  typeId : UInt16
  payload : List UInt8
  fits : packetHead + payload.length ≤ maxBuffer

def SentPacket.packet (packet : SentPacket) : EasyPacket :=
  ⟨packet.typeId,UInt16.ofNat packet.payload.length,packet.payload⟩

def stream (packets : List SentPacket) : List UInt8 :=
  (packets.map fun packet => packet.packet.bytes).flatten

/-- All calls return, _HandlePacket got these packets in this order, and the buffer is empty. -/
def HandsOver (session : EasyBaseSession) (chunks : List Chunk) (packets : List SentPacket) : Prop :=
  ∃ fuel, (onDatas fuel session chunks).exit = .returned [] ∧
    calls (onDatas fuel session chunks).actions = packets.map fun packet => (packet.packet,true)

/-- Copies stay inside chunk and buffer, no payload is longer than what is buffered, and what is
left fits the buffer. -/
def Contained (run : Run EasyPacket) : Prop :=
  (∀ action ∈ run.actions, action.Good packetLoop) ∧
    ∀ rest, run.exit = .returned rest → rest.length ≤ maxBuffer

/-- What a session should do with the chunks: packets are handed over from an empty buffer, and any
bytes are taken safely to the end. -/
structure Receives (session : EasyBaseSession) (chunks : List Chunk) : Prop where
  handsOver : session.recvBuf = [] → ∀ packets, received chunks = stream packets →
    HandsOver session chunks packets
  contained : ∀ fuel, Contained (onDatas fuel session chunks)
  returns : ∃ fuel rest, (onDatas fuel session chunks).exit = .returned rest

/-- Every copy fits: with p bytes of an unfinished packet pending and n bytes of the chunk left, p + n
is within the buffer or overruns it by no more than what is free. -/
def CutsFit (buf : List UInt8) (chunks : List Chunk) : Prop :=
  FitsAll serverFormat maxBuffer buf (chunks.map Subtype.val)

def HeadsShort (buf : List UInt8) (chunks : List Chunk) : Prop :=
  ShortHeads buf (chunks.map Subtype.val)

theorem packetLoop_serves : Serves packetLoop := ⟨rfl,rfl,fun _ => rfl,by decide⟩

theorem onDatas_feed (fuel : Nat) (session : EasyBaseSession) (chunks : List Chunk) :
    onDatas fuel session chunks = feed packetLoop fuel session.recvBuf (chunks.map Subtype.val) := by
  induction chunks generalizing session with
  | nil => rfl
  | cons chunk chunks ih =>
    rw [onDatas,onData,List.map_cons,feed]
    cases exit : (receive packetLoop fuel session.recvBuf chunk.val).exit with
    | returned left => simp only [ih {session with recvBuf := left}]
    | undefined => rfl
    | running => rfl

theorem sentPacket_held (packet : SentPacket) : Held maxBuffer packet.packet := by
  have fits := packet.fits
  constructor
  · simp only [packetHead,serverPacketHead,maxBuffer] at fits
    simp only [ServerPacket.Whole,SentPacket.packet,UInt16.toNat_ofNat']
    omega
  · rw [serverPacket_length]
    exact fits

/-- A session hands over what was sent, safely whatever arrives, if and only if every copy of the cuts
fits and no head met is so long that its full length does not fit sixteen bits. -/
theorem onDatas_receives_iff (session : EasyBaseSession) (held : session.recvBuf.length ≤ maxBuffer)
    (chunks : List Chunk) :
    Receives session chunks ↔ CutsFit session.recvBuf chunks ∧ HeadsShort session.recvBuf chunks := by
  have wide := chunks_wide packetLoop chunks fun _ short => short
  have good := good_iff packetLoop packetLoop_serves session.recvBuf held _ wide
  constructor
  · intro receives
    refine good.mp fun fuel => ?_
    have contained := (receives.contained fuel).1
    rwa [onDatas_feed] at contained
  · intro fine
    have goods := good.mpr fine
    refine ⟨?_,fun fuel => ?_,?_⟩
    · intro empty packets cut
      have heldAll : ∀ packet ∈ packets.map SentPacket.packet, Held maxBuffer packet := by
        intro packet member
        obtain ⟨sent,-,rfl⟩ := List.mem_map.mp member
        exact sentPacket_held sent
      have whole : (chunks.map Subtype.val).flatten = streamOf (packets.map SentPacket.packet) := by
        rw [streamOf,List.map_map]
        exact cut
      rw [empty] at fine
      obtain ⟨fuel,returned,handedOver⟩ :=
        (hands_iff packetLoop packetLoop_serves _ heldAll _ wide whole).mpr fine.1
      refine ⟨fuel,?_,?_⟩
      · rw [onDatas_feed,empty]
        exact returned
      · rw [onDatas_feed,empty,handedOver,List.map_map]
        rfl
    · rw [Contained,onDatas_feed]
      exact ⟨goods fuel,fun rest returned => returned_held packetLoop packetLoop_serves _ held _ wide fuel
        rest returned (goods fuel)⟩
    · obtain ⟨fuel,rest,returned⟩ := good_returns packetLoop packetLoop_serves _ held _ wide goods
      exact ⟨fuel,rest,by rw [onDatas_feed]; exact returned⟩

theorem onDatas_receives_short :
    Receives .new [⟨[2,1,2,0,5,6],by decide⟩] ↔
      CutsFit [] [⟨[2,1,2,0,5,6],by decide⟩] ∧ HeadsShort [] [⟨[2,1,2,0,5,6],by decide⟩] :=
  onDatas_receives_iff .new (by decide) _

/-- A bare head with m_iLen 65535: the full length reads as 3, and the handler gets a payload of which
nothing is buffered. -/
theorem onDatas_receives_long : ¬ Receives .new [⟨[0,0,255,255],by decide⟩] := by
  intro receives
  have handled : Action.handle ⟨0,65535,[]⟩ 65535 4 true ∈
      (onDatas 3 .new [⟨[0,0,255,255],by decide⟩]).actions := by decide
  have inside := (receives.contained 3).1 _ handled
  exact absurd inside.1 (by decide)

end Fantuan.EasyNet.BaseSession

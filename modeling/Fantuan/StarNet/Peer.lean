import Fantuan.StarNet.Packet
import Fantuan.StarNet.RecvChunks

/-! Peers: the servers' connections to each other. PeerClient and PeerServer take their
packets out of the received bytes in the same way, with a 32-bit length in the head and
a full length kept in sixteen bits.
-/
namespace Fantuan.StarNet.Peer
open Lib.Frames Packet RecvLoop RecvStream RecvChunks

/-- What a PeerOutputStream can hold: Serialize stops at MAX_PEER_BUFFER bytes. -/
structure PeerMessage where
  filterId : UInt16
  funcId : UInt16
  payload : List UInt8
  fits : payload.length ≤ maxPeerBuffer

def PeerMessage.packet (message : PeerMessage) : PeerPacket :=
  ⟨message.filterId,message.funcId,UInt32.ofNat message.payload.length,message.payload⟩

def stream (messages : List PeerMessage) : List UInt8 :=
  (messages.map fun message => message.packet.bytes).flatten

/-- iLen is a uint32. -/
abbrev PeerChunk := {bytes : List UInt8 // bytes.length < 2^32}

section
variable (dispatch : PeerPacket → Bool)

def peerLoop : Loop PeerPacket where
  format := peerFormat
  bufSize := maxPeerBuffer
  lenBits := 32
  read := readPeerPacket
  handle := dispatch
  readFrame := readPeerPacket_append
  bufBound := by decide
  lenBound := uint32_bits

structure PeerClient where
  connected : Bool
  recvBuf : List UInt8

def PeerClient.onPeerData (fuel : Nat) (client : PeerClient) (chunk : List UInt8) : Run PeerPacket :=
  if !client.connected then ⟨[],.returned client.recvBuf⟩
  else receive (peerLoop dispatch) fuel client.recvBuf chunk

structure PeerServer where
  connected : Bool
  recvBuf : List UInt8

def PeerServer.onPeerData (fuel : Nat) (server : PeerServer) (chunk : List UInt8) : Run PeerPacket :=
  if !server.connected then ⟨[],.returned server.recvBuf⟩
  else receive (peerLoop dispatch) fuel server.recvBuf chunk

/-- The state after OnConnection: connected, nothing received. -/
def PeerClient.onConnection : PeerClient := ⟨true,[]⟩

def PeerServer.onConnection : PeerServer := ⟨true,[]⟩

def PeerClient.onPeerDatas (fuel : Nat) : PeerClient → List PeerChunk → Run PeerPacket
  | client, [] => ⟨[],.returned client.recvBuf⟩
  | client, chunk :: chunks =>
    let first := client.onPeerData dispatch fuel chunk.val
    match first.exit with
    | .returned left => (onPeerDatas fuel {client with recvBuf := left} chunks).after first.actions
    | _ => first

def PeerServer.onPeerDatas (fuel : Nat) : PeerServer → List PeerChunk → Run PeerPacket
  | server, [] => ⟨[],.returned server.recvBuf⟩
  | server, chunk :: chunks =>
    let first := server.onPeerData dispatch fuel chunk.val
    match first.exit with
    | .returned left => (onPeerDatas fuel {server with recvBuf := left} chunks).after first.actions
    | _ => first

end

/-- All calls return, no copy leaves m_RecvBuf or the chunk, and Dispatch got exactly
these messages in order and took each. -/
def Dispatches (run : Nat → Run PeerPacket) (messages : List PeerMessage) : Prop :=
  ∃ fuel rest, (run fuel).exit = .returned rest ∧
    (∀ offset length available, Action.copy offset length available ∈ (run fuel).actions →
      offset + length ≤ maxPeerBuffer ∧ length ≤ available) ∧
    calls (run fuel).actions = messages.map fun message => (message.packet,true)

/-- Every copy fits, the full length of every message fits sixteen bits, and Dispatch
accepts every message. -/
def Sound (dispatch : PeerPacket → Bool) (messages : List PeerMessage) (chunks : List PeerChunk) :
    Prop :=
  FitsAll peerFormat maxPeerBuffer [] (chunks.map Subtype.val) ∧
    (∀ message ∈ messages, peerPacketHead + message.payload.length < 2^16) ∧
    ∀ message ∈ messages, dispatch message.packet = true

variable (dispatch : PeerPacket → Bool)

theorem peerClient_feed (fuel : Nat) (client : PeerClient) (connected : client.connected = true)
    (chunks : List PeerChunk) :
    client.onPeerDatas dispatch fuel chunks =
      feed (peerLoop dispatch) fuel client.recvBuf (chunks.map Subtype.val) := by
  induction chunks generalizing client with
  | nil => rfl
  | cons chunk chunks ih =>
    have one : client.onPeerData dispatch fuel chunk.val =
        receive (peerLoop dispatch) fuel client.recvBuf chunk.val := by
      simp [PeerClient.onPeerData,connected]
    rw [PeerClient.onPeerDatas,one,List.map_cons,feed]
    cases exit : (receive (peerLoop dispatch) fuel client.recvBuf chunk.val).exit with
    | returned left => simp only [ih {client with recvBuf := left} connected]
    | undefined => rfl
    | running => rfl

theorem peerServer_feed (fuel : Nat) (server : PeerServer) (connected : server.connected = true)
    (chunks : List PeerChunk) :
    server.onPeerDatas dispatch fuel chunks =
      feed (peerLoop dispatch) fuel server.recvBuf (chunks.map Subtype.val) := by
  induction chunks generalizing server with
  | nil => rfl
  | cons chunk chunks ih =>
    have one : server.onPeerData dispatch fuel chunk.val =
        receive (peerLoop dispatch) fuel server.recvBuf chunk.val := by
      simp [PeerServer.onPeerData,connected]
    rw [PeerServer.onPeerDatas,one,List.map_cons,feed]
    cases exit : (receive (peerLoop dispatch) fuel server.recvBuf chunk.val).exit with
    | returned left => simp only [ih {server with recvBuf := left} connected]
    | undefined => rfl
    | running => rfl

theorem peerMessage_whole (message : PeerMessage) : message.packet.Whole := by
  have fits := message.fits
  simp only [maxPeerBuffer] at fits
  simp only [PeerPacket.Whole,PeerMessage.packet,UInt32.toNat_ofNat']
  omega

private theorem buffered_message (buf : List UInt8) (enough : peerPacketHead ≤ buf.length)
    (whole : (readPeerPacket buf).Whole) :
    peerPacketHead + Lib.Bytes.field 4 4 buf ≤ buf.length := by
  have bound := Lib.Bytes.field_lt 4 4 buf
  simp only [PeerPacket.Whole,readPeerPacket,List.length_take,List.length_drop,
    UInt32.toNat_ofNat'] at whole
  omega

private theorem message_parts (messages : List PeerMessage) :
    ∀ part ∈ messages.map fun message => message.packet.bytes,
      IsFrame peerFormat part ∧ (readPeerPacket part).Whole ∧ Near (peerLoop dispatch) part.length := by
  intro part member
  obtain ⟨message,-,rfl⟩ := List.mem_map.mp member
  have whole := peerMessage_whole message
  refine ⟨peerPacket_isFrame _ whole,by rwa [readPeerPacket_bytes _ whole],?_⟩
  have fits : message.packet.buf.length ≤ 65536 := message.fits
  rw [peerPacket_length]
  change 8 + message.packet.buf.length ≤ 2^16 + 8
  omega

private theorem message_read (messages : List PeerMessage) :
    (messages.map fun message => message.packet.bytes).map (fun part => (readPeerPacket part,true)) =
      messages.map fun message => (message.packet,true) := by
  rw [List.map_map]
  apply List.map_congr_left
  intro message member
  simp [readPeerPacket_bytes _ (peerMessage_whole message)]

private theorem message_forall (messages : List PeerMessage) (property : List UInt8 → Prop) :
    (∀ part ∈ messages.map fun message => message.packet.bytes, property part) ↔
      ∀ message ∈ messages, property message.packet.bytes := by
  simp

theorem dispatches_sound (run : Nat → Run PeerPacket) (messages : List PeerMessage)
    (chunks : List PeerChunk) (cut : received chunks = stream messages)
    (runs : ∀ fuel, run fuel = feed (peerLoop dispatch) fuel [] (chunks.map Subtype.val))
    (dispatches : Dispatches run messages) : Sound dispatch messages chunks := by
  obtain ⟨fuel,rest,returned,-,handedOver⟩ := dispatches
  rw [runs] at returned handedOver
  rw [← message_read messages] at handedOver
  have parts := message_parts dispatch messages
  have wide := chunks_wide (peerLoop dispatch) chunks fun _ short => short
  obtain ⟨fits,short,accepted⟩ := feed_frames_short (peerLoop dispatch) PeerPacket.Whole
    buffered_message _ (fun part member => (parts part member).1)
    (fun part member => (parts part member).2.1) (fun part member => (parts part member).2.2)
    (chunks.map Subtype.val) wide cut fuel rest returned handedOver
  rw [message_forall] at short accepted
  refine ⟨fits,fun message member => ?_,fun message member => ?_⟩
  · have length := short message member
    rw [peerPacket_length] at length
    exact length
  · have taken : dispatch (readPeerPacket message.packet.bytes) = true := accepted message member
    rwa [readPeerPacket_bytes _ (peerMessage_whole message)] at taken

theorem sound_dispatches (run : Nat → Run PeerPacket) (messages : List PeerMessage)
    (chunks : List PeerChunk) (cut : received chunks = stream messages)
    (runs : ∀ fuel, run fuel = feed (peerLoop dispatch) fuel [] (chunks.map Subtype.val))
    (sound : Sound dispatch messages chunks) : Dispatches run messages := by
  obtain ⟨fits,short,accepted⟩ := sound
  have parts := message_parts dispatch messages
  have wide := chunks_wide (peerLoop dispatch) chunks fun _ short => short
  obtain ⟨fuel,returned,handedOver⟩ := feed_frames_delivers (peerLoop dispatch) _
    (fun part member => (parts part member).1) (chunks.map Subtype.val) wide cut fits
    ((message_forall messages _).mpr fun message member => by
      rw [peerPacket_length]
      exact short message member)
    ((message_forall messages _).mpr fun message member => by
      change dispatch (readPeerPacket message.packet.bytes) = true
      rw [readPeerPacket_bytes _ (peerMessage_whole message)]
      exact accepted message member)
  refine ⟨fuel,[],by rw [runs]; exact returned,?_,?_⟩
  · intro offset length available member
    rw [runs] at member
    exact feed_logged (peerLoop dispatch) fuel [] _ _ member (by rw [returned]; decide)
  · rw [runs,handedOver]
    exact message_read messages

/-- Both ends dispatch exactly the messages sent, whatever the cuts, if and only if every
copy fits, every message is at most 65527 bytes long and Dispatch accepts it. -/
theorem onPeerDatas_dispatches_iff (messages : List PeerMessage) (chunks : List PeerChunk)
    (cut : received chunks = stream messages) :
    (Dispatches (fun fuel => PeerClient.onConnection.onPeerDatas dispatch fuel chunks) messages ↔
      Sound dispatch messages chunks) ∧
    (Dispatches (fun fuel => PeerServer.onConnection.onPeerDatas dispatch fuel chunks) messages ↔
      Sound dispatch messages chunks) := by
  have client (fuel : Nat) := peerClient_feed dispatch fuel PeerClient.onConnection rfl chunks
  have server (fuel : Nat) := peerServer_feed dispatch fuel PeerServer.onConnection rfl chunks
  refine ⟨⟨?_,?_⟩,?_,?_⟩
  · exact dispatches_sound dispatch _ messages chunks cut client
  · exact sound_dispatches dispatch _ messages chunks cut client
  · exact dispatches_sound dispatch _ messages chunks cut server
  · exact sound_dispatches dispatch _ messages chunks cut server

private def anyPacket : PeerPacket → Bool := fun _ => true

private def smallMessage : PeerMessage := ⟨1,2,[7],by decide⟩

theorem onPeerDatas_dispatches_small :
    (Dispatches (fun fuel => PeerClient.onConnection.onPeerDatas anyPacket fuel
        [⟨[1,0,2,0,1],by decide⟩,⟨[0,0,0,7],by decide⟩]) [smallMessage] ↔
      Sound anyPacket [smallMessage] [⟨[1,0,2,0,1],by decide⟩,⟨[0,0,0,7],by decide⟩]) ∧
    (Dispatches (fun fuel => PeerServer.onConnection.onPeerDatas anyPacket fuel
        [⟨[1,0,2,0,1],by decide⟩,⟨[0,0,0,7],by decide⟩]) [smallMessage] ↔
      Sound anyPacket [smallMessage] [⟨[1,0,2,0,1],by decide⟩,⟨[0,0,0,7],by decide⟩]) :=
  onPeerDatas_dispatches_iff anyPacket [smallMessage] _ (by decide)

private def largeMessage : PeerMessage :=
  ⟨1,2,List.replicate 65528 0,by rw [List.length_replicate]; decide⟩

private theorem largeMessage_length : largeMessage.payload.length = 65528 := List.length_replicate

private def largeChunk : PeerChunk :=
  ⟨largeMessage.packet.bytes,by
    rw [peerPacket_length]
    have length : largeMessage.packet.buf.length = 65528 := largeMessage_length
    omega⟩

/-- A message of 65528 bytes received in one chunk: its full length reads as zero, and the
loop dispatches it over and over. -/
theorem onPeerDatas_dispatches_large :
    received [largeChunk] = stream [largeMessage] ∧
      ¬ Dispatches (fun fuel => PeerClient.onConnection.onPeerDatas anyPacket fuel [largeChunk])
        [largeMessage] ∧
      ¬ Dispatches (fun fuel => PeerServer.onConnection.onPeerDatas anyPacket fuel [largeChunk])
        [largeMessage] := by
  have cut : received [largeChunk] = stream [largeMessage] := rfl
  have unsound : ¬ Sound anyPacket [largeMessage] [largeChunk] := by
    rintro ⟨-,short,-⟩
    have length := short largeMessage (by simp)
    rw [largeMessage_length] at length
    exact absurd length (by decide)
  refine ⟨cut,fun dispatches => unsound ?_,fun dispatches => unsound ?_⟩
  · exact dispatches_sound anyPacket _ _ _ cut
      (fun fuel => peerClient_feed anyPacket fuel PeerClient.onConnection rfl _) dispatches
  · exact dispatches_sound anyPacket _ _ _ cut
      (fun fuel => peerServer_feed anyPacket fuel PeerServer.onConnection rfl _) dispatches

end Fantuan.StarNet.Peer

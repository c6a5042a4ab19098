import Fantuan.StarNet.ServerStreams

/-! Client sessions and the packets they cut out of the received bytes.
Derived sessions differ in their state machine, of which OnData only asks which state
SESSION_EVENT_ONDATA leads to. The branch for a session that has just connected is the
login exchange; it is left open here.
-/
namespace Fantuan.ServerBase.SessionRecv
open Lib.Frames StarNet.Packet StarNet.RecvLoop StarNet.RecvStream StarNet.RecvChunks
open StarNet.ServerStreams (buffered_whole)

def sessionStateOnConnection : Int := 1

structure Session where
  currState : Int
  onDataState : Int → Int
  recvBuf : List UInt8

def LoggedIn (session : Session) : Prop :=
  session.onDataState session.currState = session.currState ∧
    session.currState ≠ sessionStateOnConnection

-- the result of Receiver::OnPacketReceived is dropped
def handlePacket (_ : ServerPacket) : Int := 0

def packetLoop : Loop ServerPacket where
  format := serverFormat
  bufSize := maxInputBuffer
  lenBits := 16
  read := readServerPacket
  handle := fun packet => handlePacket packet == 0
  readFrame := readServerPacket_append
  bufBound := by decide
  lenBound := by decide

abbrev Login := Session → List UInt8 → Session × Run ServerPacket

def onData (login : Login) (fuel : Nat) (session : Session) (chunk : List UInt8) :
    Session × Run ServerPacket :=
  if session.onDataState session.currState ≠ session.currState then
    (session,⟨[],.returned session.recvBuf⟩)
  else if session.currState = sessionStateOnConnection then login session chunk
  else (session,receive packetLoop fuel session.recvBuf chunk)

/-- iLen is a uint16. -/
abbrev Chunk := {bytes : List UInt8 // bytes.length < 2^16}

def onDatas (login : Login) (fuel : Nat) : Session → List Chunk → Run ServerPacket
  | session, [] => ⟨[],.returned session.recvBuf⟩
  | session, chunk :: chunks =>
    let (session,first) := onData login fuel session chunk.val
    match first.exit with
    | .returned left => (onDatas login fuel {session with recvBuf := left} chunks).after first.actions
    | _ => first

/-- A packet a client may send: head and payload fit the input buffer. -/
structure ClientPacket where
  typeId : UInt16
  payload : List UInt8
  fits : serverPacketHead + payload.length ≤ maxInputBuffer

def ClientPacket.packet (packet : ClientPacket) : ServerPacket :=
  ⟨packet.typeId,UInt16.ofNat packet.payload.length,packet.payload⟩

def stream (packets : List ClientPacket) : List UInt8 :=
  (packets.map fun packet => packet.packet.bytes).flatten

/-- All calls return, HandlePacket got these packets in this order, and the buffer is empty. -/
def HandsOver (login : Login) (session : Session) (chunks : List Chunk)
    (packets : List ClientPacket) : Prop :=
  ∃ fuel, (onDatas login fuel session chunks).exit = .returned [] ∧
    calls (onDatas login fuel session chunks).actions =
      packets.map fun packet => (packet.packet,true)

/-- Every copy of these chunks fits: with p bytes of an unfinished packet pending and n bytes
of the chunk left, p + n is within the buffer or overruns it by no more than what is free. -/
def CutsFit (buf : List UInt8) (chunks : List Chunk) : Prop :=
  FitsAll serverFormat maxInputBuffer buf (chunks.map Subtype.val)

theorem onDatas_loggedIn (login : Login) (fuel : Nat) (session : Session) (loggedIn : LoggedIn session)
    (chunks : List Chunk) :
    onDatas login fuel session chunks =
      feed packetLoop fuel session.recvBuf (chunks.map Subtype.val) := by
  induction chunks generalizing session with
  | nil => rfl
  | cons chunk chunks ih =>
    have one : onData login fuel session chunk.val =
        (session,receive packetLoop fuel session.recvBuf chunk.val) := by
      rw [onData,if_neg (not_not_intro loggedIn.1),if_neg loggedIn.2]
    rw [onDatas,one,List.map_cons,feed]
    dsimp only
    cases exit : (receive packetLoop fuel session.recvBuf chunk.val).exit with
    | returned left => simp only [ih {session with recvBuf := left} loggedIn]
    | undefined => rfl
    | running => rfl

theorem size_near (bytes : List UInt8) : Near packetLoop (size serverFormat bytes) := by
  have bound := Lib.Bytes.field_lt 2 2 bytes
  change 4 + Lib.Bytes.field 2 2 bytes ≤ 2^16 + 4
  omega

theorem clientPacket_whole (packet : ClientPacket) : packet.packet.Whole := by
  have fits := packet.fits
  simp only [serverPacketHead,maxInputBuffer] at fits
  simp only [ServerPacket.Whole,ClientPacket.packet,UInt16.toNat_ofNat']
  omega

theorem clientPacket_length (packet : ClientPacket) :
    packet.packet.bytes.length ≤ maxInputBuffer := by
  rw [serverPacket_length]
  exact packet.fits

private theorem stream_parts (packets : List ClientPacket) :
    ∀ part ∈ packets.map fun packet => packet.packet.bytes,
      IsFrame serverFormat part ∧ (readServerPacket part).Whole ∧ part.length ≤ maxInputBuffer := by
  intro part member
  obtain ⟨packet,-,rfl⟩ := List.mem_map.mp member
  have whole := clientPacket_whole packet
  refine ⟨serverPacket_isFrame _ whole,?_,clientPacket_length packet⟩
  rwa [readServerPacket_bytes _ whole]

private theorem stream_read (packets : List ClientPacket) :
    (packets.map fun packet => packet.packet.bytes).map (fun part => (readServerPacket part,true)) =
      packets.map fun packet => (packet.packet,true) := by
  rw [List.map_map]
  apply List.map_congr_left
  intro packet member
  simp [readServerPacket_bytes _ (clientPacket_whole packet)]

private theorem handsOver_fits (login : Login) (session : Session) (loggedIn : LoggedIn session)
    (empty : session.recvBuf = []) (packets : List ClientPacket) (chunks : List Chunk)
    (cut : received chunks = stream packets) (handsOver : HandsOver login session chunks packets) :
    CutsFit [] chunks := by
  have parts := stream_parts packets
  have near : ∀ part ∈ packets.map fun packet => packet.packet.bytes, Near packetLoop part.length := by
    intro part member
    have length := (parts part member).2.2
    simp only [Near,maxInputBuffer] at *
    omega
  obtain ⟨fuel,returned,handedOver⟩ := handsOver
  rw [onDatas_loggedIn login fuel session loggedIn chunks,empty] at returned handedOver
  rw [← stream_read packets] at handedOver
  exact (feed_frames_short packetLoop ServerPacket.Whole buffered_whole _
    (fun part member => (parts part member).1) (fun part member => (parts part member).2.1) near
    (chunks.map Subtype.val) (chunks_wide packetLoop chunks fun _ short => short) cut fuel [] returned handedOver).1

private theorem fits_handsOver (login : Login) (session : Session) (loggedIn : LoggedIn session)
    (empty : session.recvBuf = []) (packets : List ClientPacket) (chunks : List Chunk)
    (cut : received chunks = stream packets) (fits : CutsFit [] chunks) :
    HandsOver login session chunks packets := by
  have parts := stream_parts packets
  have short : ∀ part ∈ packets.map (fun packet => packet.packet.bytes), part.length < 2^16 := by
    intro part member
    have length := (parts part member).2.2
    simp only [maxInputBuffer] at length
    omega
  obtain ⟨fuel,returned,handedOver⟩ := feed_frames_delivers packetLoop _
    (fun part member => (parts part member).1) (chunks.map Subtype.val)
    (chunks_wide packetLoop chunks fun _ bound => bound) cut fits short (fun _ _ => rfl)
  refine ⟨fuel,?_,?_⟩
  · rw [onDatas_loggedIn login fuel session loggedIn chunks,empty]
    exact returned
  · rw [onDatas_loggedIn login fuel session loggedIn chunks,empty,handedOver]
    exact stream_read packets

/-- A logged-in session hands over exactly the packets a client sent, however the stream
is cut, if and only if every copy of the cut fits the input buffer. -/
theorem onDatas_handsOver_iff (login : Login) (session : Session) (loggedIn : LoggedIn session)
    (empty : session.recvBuf = []) (packets : List ClientPacket) (chunks : List Chunk)
    (cut : received chunks = stream packets) :
    HandsOver login session chunks packets ↔ CutsFit [] chunks := by
  constructor
  · exact handsOver_fits login session loggedIn empty packets chunks cut
  · exact fits_handsOver login session loggedIn empty packets chunks cut

private def idle : Session := ⟨4,id,[]⟩

private def closed : Login := fun session _ => (session,⟨[],.running⟩)

private def shortPacket : ClientPacket := ⟨0x0102,[5,6],by decide⟩

theorem onDatas_handsOver_short :
    HandsOver closed idle [⟨[2,1,2],by decide⟩,⟨[0,5,6],by decide⟩] [shortPacket] ↔
      CutsFit [] [⟨[2,1,2],by decide⟩,⟨[0,5,6],by decide⟩] :=
  onDatas_handsOver_iff closed idle ⟨rfl,by decide⟩ rfl [shortPacket] _ (by decide)

private def fullPacket : ClientPacket :=
  ⟨0,List.replicate 1020 0,by rw [List.length_replicate]; decide⟩

private theorem fullPacket_length : fullPacket.packet.bytes.length = 1024 := by
  rw [serverPacket_length,fullPacket,ClientPacket.packet]
  simp only [List.length_replicate]

private def firstCut : Chunk :=
  ⟨fullPacket.packet.bytes.take 1000,by rw [List.length_take,fullPacket_length]; omega⟩

private def secondCut : Chunk :=
  ⟨fullPacket.packet.bytes.drop 1000 ++ fullPacket.packet.bytes,by
    rw [List.length_append,List.length_drop,fullPacket_length]; omega⟩

private theorem cuts_overrun : ¬ CutsFit [] [firstCut,secondCut] := by
  have frame := serverPacket_isFrame _ (clientPacket_whole fullPacket)
  have length := fullPacket_length
  have missing : ¬ Complete serverFormat firstCut.val :=
    take_not_complete serverFormat _ frame 1000 (by omega)
  have pending : firstCut.val.length = 1000 := by
    simp only [firstCut,List.length_take]
    omega
  have more : secondCut.val.length = 1048 := by
    simp only [secondCut,List.length_append,List.length_drop]
    omega
  rintro ⟨-,fits,-⟩
  rw [List.nil_append,tail_unfinished serverFormat _ missing,
    fits_over _ _ _ _ (by rw [pending,more]; decide),pending,more] at fits
  exact absurd fits.1 (by decide)

/-- Two full packets received as 1000 and 1048 bytes: the second copy overruns the buffer. -/
theorem onDatas_handsOver_overrun :
    received [firstCut,secondCut] = stream [fullPacket,fullPacket] ∧
      ¬ HandsOver closed idle [firstCut,secondCut] [fullPacket,fullPacket] := by
  have cut : received [firstCut,secondCut] = stream [fullPacket,fullPacket] := by
    change (_ ++ (_ ++ []) : List UInt8) = _ ++ (_ ++ [])
    simp only [firstCut,secondCut,List.append_nil,← List.append_assoc,List.take_append_drop]
  refine ⟨cut,fun handsOver => ?_⟩
  exact cuts_overrun (handsOver_fits closed idle ⟨rfl,by decide⟩ rfl _ _ cut handsOver)

end Fantuan.ServerBase.SessionRecv

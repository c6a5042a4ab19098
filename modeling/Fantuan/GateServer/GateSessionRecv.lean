import Fantuan.ServerBase.SessionRecv

/-! The gate keeps a copy of the packet it is handling, so the payload length that
OnData hands over is also a memcpy length of GateSession. Whether all of these copies stay
inside their buffers depends on the cuts and on the lengths written in the heads.
-/
namespace Fantuan.GateServer.GateSessionRecv
open Lib.Frames StarNet.Packet StarNet.RecvLoop StarNet.RecvStream StarNet.RecvChunks
open ServerBase.SessionRecv

structure DelayData where
  delayTypeId : UInt16
  delayLen : UInt16
  delayBuf : List UInt8
  deriving DecidableEq

/-- memcpy(m_DelayBuf, pBuf, iLen): undefined when iLen is more than what is buffered of the
payload or more than the size of m_DelayBuf. -/
def delaySendData (packet : ServerPacket) : Option DelayData :=
  if packet.len.toNat ≤ packet.buf.length ∧ packet.len.toNat ≤ maxInputBuffer then
    some ⟨packet.typeId,packet.len,packet.buf.take packet.len.toNat⟩
  else none

def ContainedAction : Action ServerPacket → Prop
  | .copy offset length available => offset + length ≤ maxInputBuffer ∧ length ≤ available
  | .handle packet payload buffered _ => buffered ≤ maxInputBuffer ∧
      serverPacketHead + payload ≤ buffered ∧ (delaySendData packet).isSome = true

def Contained (run : Run ServerPacket) : Prop :=
  (∀ action ∈ run.actions, ContainedAction action) ∧
    ∀ rest, run.exit = .returned rest → rest.length ≤ maxInputBuffer

/-- No head met in these chunks announces a payload of more than 65531 bytes. -/
def HeadsShort (buf : List UInt8) (chunks : List Chunk) : Prop :=
  chunks ≠ [] → Heads serverFormat (fun size => size < 2^16) (buf ++ received chunks)

private theorem contained_good (run : Run ServerPacket) (contained : Contained run)
    (logged : ∀ action ∈ run.actions, Logged packetLoop run.exit action) :
    AllGood packetLoop run.actions := by
  intro action member
  have inside := contained.1 action member
  cases action with
  | copy offset length available => exact inside
  | handle packet payload buffered accepted =>
    obtain ⟨buf,-,-,-,-,-,rfl⟩ := logged _ member
    exact ⟨inside.2.1,rfl⟩

private theorem delaySendData_isSome (buf : List UInt8) (held : buf.length ≤ maxInputBuffer)
    (inside : serverPacketHead + serverFormat.payload buf ≤ buf.length) :
    (delaySendData (readServerPacket buf)).isSome = true := by
  have bound := Lib.Bytes.field_lt 2 2 buf
  have payload : (readServerPacket buf).len.toNat = Lib.Bytes.field 2 2 buf := by
    simp only [readServerPacket,UInt16.toNat_ofNat']
    omega
  have inside : serverPacketHead + Lib.Bytes.field 2 2 buf ≤ buf.length := inside
  rw [delaySendData,if_pos]
  · rfl
  · rw [payload]
    simp only [readServerPacket,List.length_take,List.length_drop]
    omega

private theorem good_contained (actions : List (Action ServerPacket)) (exit : Exit)
    (good : AllGood packetLoop actions) (logged : ∀ action ∈ actions, Logged packetLoop exit action) :
    ∀ action ∈ actions, ContainedAction action := by
  intro action member
  have inside := good action member
  cases action with
  | copy offset length available => exact inside
  | handle packet payload buffered accepted =>
    obtain ⟨buf,-,held,rfl,rfl,rfl,-⟩ := logged _ member
    exact ⟨held,inside.1,delaySendData_isSome buf held inside.1⟩

private theorem stream_near (bytes : List UInt8) : Heads serverFormat (Near packetLoop) bytes :=
  ⟨fun frame _ => size_near frame,fun _ => size_near _⟩

private theorem good_short (session : Session) (held : session.recvBuf.length ≤ maxInputBuffer)
    (chunks : List Chunk) (good : AllGood packetLoop
      (feed packetLoop (maxInputBuffer + 2 * (received chunks).length + 2) session.recvBuf
        (chunks.map Subtype.val)).actions) :
    CutsFit session.recvBuf chunks ∧ HeadsShort session.recvBuf chunks := by
  have wide := chunks_wide packetLoop chunks fun _ short => short
  have near := stream_near (session.recvBuf ++ received chunks)
  obtain ⟨rest,returned⟩ := feed_ends packetLoop _ session.recvBuf _ held wide (by decide) near
    (Nat.lt_succ_self _) good
  obtain ⟨fits,-,short⟩ := feed_short packetLoop _ session.recvBuf rest _ held wide near returned good
  exact ⟨fits,fun some => (short fun none => some (List.map_eq_nil_iff.mp none)).1⟩

private theorem short_good (session : Session) (held : session.recvBuf.length ≤ maxInputBuffer)
    (chunks : List Chunk) (fits : CutsFit session.recvBuf chunks)
    (short : HeadsShort session.recvBuf chunks) (fuel : Nat) :
    AllGood packetLoop (feed packetLoop fuel session.recvBuf (chunks.map Subtype.val)).actions := by
  by_cases none : chunks = []
  · simp [none,feed,AllGood]
  · have wide := chunks_wide packetLoop chunks fun _ short => short
    exact feed_good packetLoop fuel _ _ held wide fits (short none) (fun _ _ => rfl)

private theorem contained_short (login : Login) (session : Session) (loggedIn : LoggedIn session)
    (held : session.recvBuf.length ≤ maxInputBuffer) (chunks : List Chunk)
    (contained : ∀ fuel, Contained (onDatas login fuel session chunks)) :
    CutsFit session.recvBuf chunks ∧ HeadsShort session.recvBuf chunks := by
  have whole := contained (maxInputBuffer + 2 * (received chunks).length + 2)
  rw [onDatas_loggedIn login _ session loggedIn chunks] at whole
  exact good_short session held chunks (contained_good _ whole (feed_logged packetLoop _ _ _))

private theorem short_contained (login : Login) (session : Session) (loggedIn : LoggedIn session)
    (held : session.recvBuf.length ≤ maxInputBuffer) (chunks : List Chunk)
    (fits : CutsFit session.recvBuf chunks) (short : HeadsShort session.recvBuf chunks) (fuel : Nat) :
    Contained (onDatas login fuel session chunks) := by
  rw [onDatas_loggedIn login fuel session loggedIn chunks]
  have wide := chunks_wide packetLoop chunks fun _ short => short
  have near := stream_near (session.recvBuf ++ received chunks)
  have good := short_good session held chunks fits short fuel
  refine ⟨good_contained _ _ good (feed_logged packetLoop fuel _ _),fun rest returned => ?_⟩
  exact (feed_short packetLoop fuel _ rest _ held wide near returned good).2.1

/-- Whatever bytes arrive, the buffers are respected if and only if every copy of the cuts
fits and no head met is so long that its full length does not fit sixteen bits. -/
theorem onDatas_contained_iff (login : Login) (session : Session) (loggedIn : LoggedIn session)
    (held : session.recvBuf.length ≤ maxInputBuffer) (chunks : List Chunk) :
    (∀ fuel, Contained (onDatas login fuel session chunks)) ↔
      CutsFit session.recvBuf chunks ∧ HeadsShort session.recvBuf chunks := by
  constructor
  · exact contained_short login session loggedIn held chunks
  · rintro ⟨fits,short⟩ fuel
    exact short_contained login session loggedIn held chunks fits short fuel

private def ready : Session := ⟨6,id,[]⟩

private def unused : Login := fun session _ => (session,⟨[],.running⟩)

theorem onDatas_contained_short :
    (∀ fuel, Contained (onDatas unused fuel ready [⟨[2,1,1,0,7],by decide⟩])) ↔
      CutsFit [] [⟨[2,1,1,0,7],by decide⟩] ∧ HeadsShort [] [⟨[2,1,1,0,7],by decide⟩] :=
  onDatas_contained_iff unused ready ⟨rfl,by decide⟩ (by decide) _

/-- A bare head with m_iLen 65535: the full length reads as 3, and the handler is called with
a payload of which nothing is buffered. -/
theorem onDatas_contained_long :
    ¬ ∀ fuel, Contained (onDatas unused fuel ready [⟨[0,0,255,255],by decide⟩]) := by
  intro contained
  have handled : Action.handle ⟨0,65535,[]⟩ 65535 4 true ∈
      (onDatas unused 3 ready [⟨[0,0,255,255],by decide⟩]).actions := by decide
  have inside := (contained 3).1 _ handled
  exact absurd inside.2.1 (by decide)

/-- No copy leaves m_RecvBuf, and each packet that is handled is short enough for m_DelayBuf. -/
def Delays (run : Run ServerPacket) : Prop :=
  run.exit ≠ .undefined ∧ ∀ packet payload buffered accepted,
    .handle packet payload buffered accepted ∈ run.actions → packet.len.toNat ≤ maxInputBuffer

private theorem read_len (buf : List UInt8) : (readServerPacket buf).len.toNat = serverFormat.payload buf := by
  have bound := Lib.Bytes.field_lt 2 2 buf
  change (UInt16.ofNat (Lib.Bytes.field 2 2 buf)).toNat = Lib.Bytes.field 2 2 buf
  rw [UInt16.toNat_ofNat']
  exact Nat.mod_eq_of_lt bound

private theorem delays_good (run : Run ServerPacket) (delays : Delays run)
    (logged : ∀ action ∈ run.actions, Logged packetLoop run.exit action)
    (covered : ∀ action ∈ run.actions, Covered packetLoop action) : AllGood packetLoop run.actions := by
  intro action member
  cases action with
  | copy offset length available => exact logged _ member delays.1
  | handle packet payload buffered accepted =>
    have small := delays.2 packet payload buffered accepted member
    have inside := covered _ member
    obtain ⟨buf,-,-,rfl,rfl,rfl,rfl⟩ := logged _ member
    change (readServerPacket buf).len.toNat ≤ maxInputBuffer at small
    rw [read_len] at small
    refine ⟨?_,rfl⟩
    change (serverPacketHead + serverFormat.payload buf) % 2^16 ≤ buf.length at inside
    rw [Nat.mod_eq_of_lt (by rw [serverPacketHead,maxInputBuffer] at *; omega)] at inside
    exact inside

private theorem good_delays (session : Session) (held : session.recvBuf.length ≤ maxInputBuffer)
    (chunks : List Chunk) (fuel : Nat) (good : ∀ fuel, AllGood packetLoop
      (feed packetLoop fuel session.recvBuf (chunks.map Subtype.val)).actions) :
    Delays (feed packetLoop fuel session.recvBuf (chunks.map Subtype.val)) := by
  refine ⟨fun undefined => ?_,fun packet payload buffered accepted member => ?_⟩
  · have near := stream_near (session.recvBuf ++ received chunks)
    -- with more fuel the run would return
    have wide := chunks_wide packetLoop chunks fun _ short => short
    obtain ⟨rest,returned⟩ := feed_ends packetLoop _ session.recvBuf _ held wide
      (by decide) near (Nat.lt_of_lt_of_le (Nat.lt_succ_self _) (Nat.le_add_left _ fuel)) (good _)
    rw [feed_mono packetLoop fuel _ session.recvBuf _ (by rw [undefined]; simp),undefined] at returned
    cases returned
  · have inside := good fuel _ member
    obtain ⟨buf,-,bound,rfl,rfl,rfl,rfl⟩ := feed_logged packetLoop fuel _ _ _ member
    have fits := Nat.le_trans inside.1 bound
    change (readServerPacket buf).len.toNat ≤ maxInputBuffer
    rw [read_len]
    exact Nat.le_trans (Nat.le_add_left _ _) fits

theorem onDatas_delays (login : Login) (session : Session) (loggedIn : LoggedIn session)
    (held : session.recvBuf.length ≤ maxInputBuffer) (chunks : List Chunk) :
    (∀ fuel, Delays (onDatas login fuel session chunks)) ↔
      CutsFit session.recvBuf chunks ∧ HeadsShort session.recvBuf chunks := by
  constructor
  · intro delays
    have whole := delays (maxInputBuffer + 2 * (received chunks).length + 2)
    rw [onDatas_loggedIn login _ session loggedIn chunks] at whole
    exact good_short session held chunks
      (delays_good _ whole (feed_logged packetLoop _ _ _) (feed_covered packetLoop _ _ _))
  · rintro ⟨fits,short⟩ fuel
    rw [onDatas_loggedIn login fuel session loggedIn chunks]
    exact good_delays session held chunks fuel (short_good session held chunks fits short)

end Fantuan.GateServer.GateSessionRecv

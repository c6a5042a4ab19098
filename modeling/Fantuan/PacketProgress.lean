import Fantuan.ChatServer.Sessions

/-! The progress of the packet loops of Session and ChatSession. Each handled packet takes its head's
bytes off the buffer unless the full length wraps round sixteen bits.
-/
namespace Fantuan.PacketProgress
open Lib.Frames StarNet.Packet StarNet.RecvLoop StarNet.RecvStream StarNet.RecvChunks StarNet.ServerStreams
open ServerBase

/-- What iFullLength takes off the buffer for each handled packet. -/
def Takes : Action ServerPacket → Prop
  | .copy _ _ _ => True
  | .handle _ payload _ _ => serverPacketHead ≤ (serverPacketHead + payload) % 2^16

structure Progresses (actions : Nat → List (Action ServerPacket)) (returned : Nat → Prop) : Prop where
  takes : ∀ fuel, ∀ action ∈ actions fuel, Takes action
  ends : ∃ fuel, returned fuel

/-- Every copy of the chunk fits, and no head met announces a payload of more than 65531 bytes. -/
def ChunkFits (buf chunk : List UInt8) : Prop :=
  Fits serverFormat maxInputBuffer buf chunk ∧ Heads serverFormat Short (buf ++ chunk)

theorem packetLoop_serves : Serves SessionRecv.packetLoop := ⟨rfl,rfl,fun _ => rfl,by decide⟩

section
variable (buf chunk : List UInt8) (held : buf.length ≤ maxInputBuffer) (wide : chunk.length < 2^16)

theorem taking_good (fuel : Nat) (rest : List UInt8)
    (returned : (receive SessionRecv.packetLoop fuel buf chunk).exit = .returned rest)
    (takes : ∀ action ∈ (receive SessionRecv.packetLoop fuel buf chunk).actions, Takes action) :
    AllGood SessionRecv.packetLoop (receive SessionRecv.packetLoop fuel buf chunk).actions := by
  have logged := receive_logged SessionRecv.packetLoop fuel buf chunk
  have covered := receive_covered SessionRecv.packetLoop fuel buf chunk
  intro action member
  cases action with
  | copy offset length available => exact logged _ member (by simp [returned])
  | handle packet payload buffered accepted =>
    obtain ⟨front,-,-,-,found,-,-⟩ := logged _ member
    have inside : (4 + payload) % 2^16 ≤ buffered := covered _ member
    have taken : 4 ≤ (4 + payload) % 2^16 := takes _ member
    have bound : payload < 2^16 := found ▸ Lib.Bytes.field_lt 2 2 front
    refine ⟨?_,?_⟩
    · change 4 + payload ≤ buffered
      omega
    · obtain ⟨_,-,-,-,-,-,accepts⟩ := logged _ member
      exact accepts

theorem good_taking (fuel : Nat)
    (good : AllGood SessionRecv.packetLoop (receive SessionRecv.packetLoop fuel buf chunk).actions) :
    ∀ action ∈ (receive SessionRecv.packetLoop fuel buf chunk).actions, Takes action := by
  intro action member
  cases action with
  | copy offset length available => trivial
  | handle packet payload buffered accepted =>
    obtain ⟨front,-,room,-,-,rfl,-⟩ := receive_logged SessionRecv.packetLoop fuel buf chunk _ member
    have inside : 4 + payload ≤ front.length := (good _ member).1
    have room : front.length ≤ 1024 := room
    change 4 ≤ (4 + payload) % 2^16
    omega

include held wide

theorem receive_progresses_iff :
    Progresses (fun fuel => (receive SessionRecv.packetLoop fuel buf chunk).actions)
        (fun fuel => ∃ rest, (receive SessionRecv.packetLoop fuel buf chunk).exit = .returned rest) ↔
      ChunkFits buf chunk := by
  have near := serves_near SessionRecv.packetLoop packetLoop_serves (buf ++ chunk)
  have accepts := serves_accepted SessionRecv.packetLoop packetLoop_serves (buf ++ chunk)
  constructor
  · rintro ⟨takes,fuel,rest,returned⟩
    have good := taking_good buf chunk fuel rest returned (takes fuel)
    obtain ⟨fits,short,-⟩ :=
      receive_short SessionRecv.packetLoop fuel buf chunk rest held wide near returned good
    exact ⟨fits,short⟩
  · rintro ⟨fits,short⟩
    refine ⟨fun fuel => good_taking buf chunk fuel ?_,buf.length + 2 * chunk.length + 2,
      tail serverFormat (buf ++ chunk),?_⟩
    · exact receive_good SessionRecv.packetLoop fuel buf chunk held wide fits short accepts
    · exact (receive_delivers SessionRecv.packetLoop _ buf chunk held wide fits short accepts
        (Nat.lt_succ_self _)).1

end

def ChatLoggedIn (session : ChatServer.Sessions.ChatSession) : Prop :=
  ChatServer.Sessions.transition session.currState .onData = some session.currState ∧
    session.currState ≠ .onConnection

def SessionProgresses (login : SessionRecv.Login) (session : SessionRecv.Session) (chunk : List UInt8) : Prop :=
  Progresses (fun fuel => (SessionRecv.onData login fuel session chunk).2.actions)
    (fun fuel => ∃ rest, (SessionRecv.onData login fuel session chunk).2.exit = .returned rest)

def ChatProgresses (utf8 : List UInt8 → ServerCommon.WString) (session : ChatServer.Sessions.ChatSession)
    (chunk : List UInt8) : Prop :=
  Progresses (fun fuel => (ChatServer.Sessions.onData utf8 fuel session chunk).actions)
    (fun fuel => (ChatServer.Sessions.onData utf8 fuel session chunk).exit = .returned)

/-- Both loops take at least a head off the buffer for each packet and come to an end exactly when the
copies of the chunk fit and the heads met are short. -/
theorem onData_progresses_iff (login : SessionRecv.Login) (session : SessionRecv.Session)
    (loggedIn : SessionRecv.LoggedIn session) (held : session.recvBuf.length ≤ maxInputBuffer)
    (utf8 : List UInt8 → ServerCommon.WString) (chat : ChatServer.Sessions.ChatSession)
    (chatLoggedIn : ChatLoggedIn chat) (chatHeld : chat.recvBuf.length ≤ maxInputBuffer)
    (chunk : SessionRecv.Chunk) :
    (SessionProgresses login session chunk.val ↔ ChunkFits session.recvBuf chunk.val) ∧
      (ChatProgresses utf8 chat chunk.val ↔ ChunkFits chat.recvBuf chunk.val) := by
  constructor
  · rw [← receive_progresses_iff session.recvBuf chunk.val held chunk.property,SessionProgresses]
    have one (fuel : Nat) : SessionRecv.onData login fuel session chunk.val =
        (session,receive SessionRecv.packetLoop fuel session.recvBuf chunk.val) := by
      rw [SessionRecv.onData,if_neg (not_not_intro loggedIn.1),if_neg loggedIn.2]
    simp only [one]
  · rw [← receive_progresses_iff chat.recvBuf chunk.val chatHeld chunk.property,ChatProgresses]
    have one (fuel : Nat) : ChatServer.Sessions.onData utf8 fuel chat chunk.val =
        ChatServer.Sessions.packetData fuel chat chunk.val := by
      rw [ChatServer.Sessions.onData,if_neg (not_not_intro chatLoggedIn.1),if_neg chatLoggedIn.2]
    have actions (fuel : Nat) : (ChatServer.Sessions.packetData fuel chat chunk.val).actions =
        (receive SessionRecv.packetLoop fuel chat.recvBuf chunk.val).actions := by
      rw [ChatServer.Sessions.packetData]
      split <;> rfl
    have ended (fuel : Nat) : (ChatServer.Sessions.packetData fuel chat chunk.val).exit = .returned ↔
        ∃ rest, (receive SessionRecv.packetLoop fuel chat.recvBuf chunk.val).exit = .returned rest := by
      rw [ChatServer.Sessions.packetData]
      cases (receive SessionRecv.packetLoop fuel chat.recvBuf chunk.val).exit <;> simp
    simp only [one,actions,ended]

private def idle : SessionRecv.Session := ⟨4,id,[]⟩

private def closed : SessionRecv.Login := fun session _ => (session,⟨[],.running⟩)

private def chatting : ChatServer.Sessions.ChatSession := ⟨.loggedIn,[],[97]⟩

private def plain : List UInt8 → ServerCommon.WString := fun text => text.map UInt8.toUInt16

theorem onData_progresses_short :
    let chunk : SessionRecv.Chunk := ⟨[2,1,1,0,7],by decide⟩
    (SessionProgresses closed idle chunk.val ↔ ChunkFits [] chunk.val) ∧
      (ChatProgresses plain chatting chunk.val ↔ ChunkFits [] chunk.val) :=
  onData_progresses_iff closed idle ⟨rfl,by decide⟩ (by decide) plain chatting ⟨rfl,by decide⟩ (by decide) _

/-- With m_iLen 65532 the full length reads as 0, and the inner loop goes on with the same bytes. -/
theorem drain_stuck (fuel : Nat) :
    (drain SessionRecv.packetLoop fuel [0,0,252,255]).outcome = .running := by
  induction fuel with
  | zero => rfl
  | succ fuel ih =>
    have again : (drain SessionRecv.packetLoop (fuel + 1) [0,0,252,255]).outcome =
        (drain SessionRecv.packetLoop fuel [0,0,252,255]).outcome := rfl
    rw [again,ih]

theorem onData_progresses_stuck :
    let chunk : List UInt8 := [0,0,252,255]
    (∀ fuel, (SessionRecv.onData closed fuel idle chunk).2.exit = .running) ∧
      ¬ SessionProgresses closed idle chunk ∧ ¬ ChatProgresses plain chatting chunk := by
  have taken : Action.handle ⟨0,65532,[]⟩ 65532 4 true ∈
      (ChatServer.Sessions.onData plain 3 chatting [0,0,252,255]).actions := by decide
  have wraps : ¬ Takes (.handle ⟨0,65532,[]⟩ 65532 4 true) := by
    intro takes
    have taken : 4 ≤ (4 + 65532) % 2^16 := takes
    exact absurd taken (by decide)
  refine ⟨fun fuel => ?_,fun progresses => ?_,fun progresses => ?_⟩
  · cases fuel with
    | zero => rfl
    | succ fuel =>
      have stuck := drain_stuck fuel
      have filled : [] ++ List.take (copyLength SessionRecv.packetLoop [] [0,0,252,255]) [0,0,252,255] =
          ([0,0,252,255] : List UInt8) := by decide
      change (receive SessionRecv.packetLoop (fuel + 1) [] [0,0,252,255]).exit = .running
      rw [receive]
      dsimp only
      rw [if_pos (by decide),filled,stuck]
  · exact wraps (progresses.takes 3 _ taken)
  · exact wraps (progresses.takes 3 _ taken)

end Fantuan.PacketProgress

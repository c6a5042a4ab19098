import Fantuan.ClientBase.ClientConnection

/-! The stream of a server: a login reply of eight bytes and packets behind it. The phase is tested once
for each copy, so a cut that joins the reply with a packet leaves the packet to the next copy.
-/
namespace Fantuan.ClientBase.ClientRecv
open Lib.Bytes Lib.Frames StarNet.Packet StarNet.RecvLoop StarNet.RecvStream StarNet.RecvChunks
  ClientConnection

/-- iLen is the uint16 of the command. -/
abbrev Chunk := {bytes : List UInt8 // bytes.length < 2^16}

/-- A packet a server may send: head and payload fit the received buffer. -/
structure SentPacket where
  typeId : UInt16
  payload : List UInt8
  fits : serverPacketHead + payload.length ≤ maxOutputBuffer

def SentPacket.packet (packet : SentPacket) : ServerPacket :=
  ⟨packet.typeId,UInt16.ofNat packet.payload.length,packet.payload⟩

def stream (packets : List SentPacket) : List UInt8 :=
  (packets.map fun packet => packet.packet.bytes).flatten

def packetsOf (packets : List SentPacket) : List Consumed := packets.map fun packet => .packet packet.packet

/-- The schedule after a block that is taken for a reply. -/
def acceptedKey {Schedule : Type} (crypto : Des Schedule) (schedule : Schedule) (block : List UInt8) :
    Option Schedule :=
  if field 0 4 (crypto.decrypt schedule block) = 0 then none
  else crypto.setKeyChecked (crypto.decrypt schedule block)

def later (rest : List UInt8) (chunks : List (List UInt8)) : List (List UInt8) :=
  if rest = [] then chunks else rest :: chunks

/-- The cuts that do no harm: when the reply is complete, what was copied behind it is not taken for
another reply, another copy follows, and every copy fits. -/
inductive ReplyFits (refused : List UInt8 → Bool) : List UInt8 → List (List UInt8) → Prop
  | waits (buf chunk : List UInt8) (chunks : List (List UInt8))
      (unfinished : (copied packetLoop buf chunk).length < desBlock)
      (next : ReplyFits refused (copied packetLoop buf chunk) (later (remaining packetLoop buf chunk) chunks)) :
      ReplyFits refused buf (chunk :: chunks)
  | completes (buf chunk behind : List UInt8) (chunks : List (List UInt8))
      (finished : desBlock ≤ (copied packetLoop buf chunk).length)
      (left : behind = (copied packetLoop buf chunk).drop desBlock)
      (follows : behind = [] ∨ later (remaining packetLoop buf chunk) chunks ≠ [])
      (fits : FitsAll serverFormat maxOutputBuffer behind (later (remaining packetLoop buf chunk) chunks))
      (again : desBlock ≤ behind.length →
        refused (behind.take desBlock) = true ∧ remaining packetLoop buf chunk = []) :
      ReplyFits refused buf (chunk :: chunks)

theorem sentPacket_whole (packet : SentPacket) : packet.packet.Whole := by
  have fits := packet.fits
  simp only [serverPacketHead,maxOutputBuffer] at fits
  simp only [ServerPacket.Whole,SentPacket.packet,UInt16.toNat_ofNat']
  omega

theorem wide_chunks (chunks : List (List UInt8)) (short : ∀ chunk ∈ chunks, chunk.length < 2^16) :
    Wide packetLoop chunks := by
  intro chunk member
  have bound := short chunk member
  change chunk.length < 2^32
  omega

theorem stream_near (bytes : List UInt8) : Heads serverFormat (Near packetLoop) bytes := by
  have near (bytes : List UInt8) : Near packetLoop (size serverFormat bytes) := by
    have bound := field_lt 2 2 bytes
    change 4 + field 2 2 bytes ≤ 2^16 + 4
    omega
  exact ⟨fun frame _ => near frame,fun _ => near _⟩

theorem packet_buffered (buf : List UInt8) (enough : serverPacketHead ≤ buf.length)
    (whole : (readServerPacket buf).Whole) : serverPacketHead + field 2 2 buf ≤ buf.length := by
  have bound := field_lt 2 2 buf
  simp only [ServerPacket.Whole,readServerPacket,List.length_take,List.length_drop,
    UInt16.toNat_ofNat'] at whole
  omega

theorem stream_framed (packets : List SentPacket) :
    ∀ part ∈ packets.map fun packet => packet.packet.bytes, IsFrame serverFormat part := by
  intro part member
  obtain ⟨packet,-,rfl⟩ := List.mem_map.mp member
  exact serverPacket_isFrame _ (sentPacket_whole packet)

theorem delivered_stream (packets : List SentPacket) :
    tail serverFormat (stream packets) = [] ∧
      delivered packetLoop (stream packets) = (packets.map SentPacket.packet).map fun packet => (packet,true) := by
  refine ⟨tail_flatten serverFormat _ (stream_framed packets),?_⟩
  change (frames serverFormat (stream packets)).map (fun frame => (readServerPacket frame,true)) = _
  rw [stream,frames_flatten serverFormat _ (stream_framed packets),List.map_map,List.map_map]
  apply List.map_congr_left
  intro packet member
  simp [readServerPacket_bytes _ (sentPacket_whole packet)]

theorem frame_length (frame : List UInt8) (framed : IsFrame serverFormat frame) :
    frame.length = serverPacketHead + (readServerPacket frame).buf.length := by
  have length : 4 + field 2 2 frame = frame.length := framed.2
  simp only [readServerPacket,serverPacketHead,List.length_take,List.length_drop]
  omega

theorem delivered_length (bytes : List UInt8) (packets : List SentPacket)
    (none : tail serverFormat bytes = [])
    (handed : delivered packetLoop bytes = (packets.map SentPacket.packet).map fun packet => (packet,true)) :
    bytes.length = (stream packets).length := by
  have read : (frames serverFormat bytes).map readServerPacket = packets.map SentPacket.packet := by
    have firsts := congrArg (List.map Prod.fst) handed
    rw [delivered,List.map_map,List.map_map] at firsts
    exact firsts.trans (List.map_id _)
  have sizes (frame : List UInt8) (member : frame ∈ frames serverFormat bytes) :
      frame.length = serverPacketHead + (readServerPacket frame).buf.length :=
    frame_length frame (frames_isFrame serverFormat bytes frame member)
  have whole := flatten_frames serverFormat bytes
  rw [none,List.append_nil] at whole
  calc bytes.length
      = ((frames serverFormat bytes).map List.length).sum := by rw [← List.length_flatten,whole]
    _ = (((frames serverFormat bytes).map readServerPacket).map
          fun packet => serverPacketHead + packet.buf.length).sum := by
        rw [List.map_map]
        exact congrArg List.sum (List.map_congr_left sizes)
    _ = (stream packets).length := by
        rw [read,stream,List.length_flatten,List.map_map,List.map_map]
        apply congrArg List.sum
        apply List.map_congr_left
        intro packet member
        simp [serverPacketHead]

theorem feed_packets (fuel : Nat) (buf : List UInt8) (chunks : List (List UInt8)) (packets : List SentPacket)
    (held : buf.length ≤ maxOutputBuffer) (short : ∀ chunk ∈ chunks, chunk.length < 2^16)
    (returned : (feed packetLoop fuel buf chunks).exit = .returned [])
    (handed : calls (feed packetLoop fuel buf chunks).actions =
      (packets.map SentPacket.packet).map fun packet => (packet,true)) :
    (buf = [] ∨ chunks ≠ []) ∧ FitsAll serverFormat maxOutputBuffer buf chunks ∧
      (buf ++ chunks.flatten).length = (stream packets).length := by
  cases chunks with
  | nil =>
    obtain rfl : buf = [] := Exit.returned.inj returned
    have empty : packets = [] := List.map_eq_nil_iff.mp (List.map_eq_nil_iff.mp handed.symm)
    rw [empty]
    exact ⟨.inl rfl,trivial,rfl⟩
  | cons chunk chunks =>
    have wide := wide_chunks _ short
    have good := called_good packetLoop ServerPacket.Whole packet_buffered (packets.map SentPacket.packet) (by
      intro packet member
      obtain ⟨sent,-,rfl⟩ := List.mem_map.mp member
      exact sentPacket_whole sent) fuel buf (chunk :: chunks) [] returned handed
    obtain ⟨fits,none,same⟩ := feed_called packetLoop fuel buf chunk [] chunks held wide (stream_near _)
      returned good
    refine ⟨.inr (by simp),fits,delivered_length _ packets none.symm ?_⟩
    rw [← same,handed]

/-- The packets are handed over exactly when the bytes that are already buffered are followed by a copy
and every copy fits. -/
theorem feed_packets_iff (buf : List UInt8) (chunks : List (List UInt8)) (packets : List SentPacket)
    (held : buf.length ≤ maxOutputBuffer) (short : ∀ chunk ∈ chunks, chunk.length < 2^16)
    (whole : buf ++ chunks.flatten = stream packets) :
    (∃ fuel, (feed packetLoop fuel buf chunks).exit = .returned [] ∧
      calls (feed packetLoop fuel buf chunks).actions =
        (packets.map SentPacket.packet).map fun packet => (packet,true)) ↔
      (buf = [] ∨ chunks ≠ []) ∧ FitsAll serverFormat maxOutputBuffer buf chunks := by
  constructor
  · rintro ⟨fuel,returned,handed⟩
    obtain ⟨follows,fits,-⟩ := feed_packets fuel buf chunks packets held short returned handed
    exact ⟨follows,fits⟩
  · rintro ⟨follows,fits⟩
    obtain ⟨none,delivers⟩ := delivered_stream packets
    cases chunks with
    | nil =>
      obtain rfl : buf = [] := follows.resolve_right (by simp)
      refine ⟨0,rfl,?_⟩
      rw [← delivers,← whole]
      have missing : ¬ Complete serverFormat ([] : List UInt8) := by decide
      simp [feed,calls,delivered,packetLoop,frames_unfinished _ _ missing]
    | cons chunk chunks =>
      have framed := stream_framed packets
      have small : Heads serverFormat Short (buf ++ (chunk :: chunks).flatten) := by
        rw [whole]
        refine (heads_flatten serverFormat Short _ framed).mpr fun part member => ?_
        obtain ⟨packet,-,rfl⟩ := List.mem_map.mp member
        have fits := packet.fits
        rw [serverPacket_length,Short]
        simp only [serverPacketHead,maxOutputBuffer] at fits
        change 4 + packet.payload.length < 2^16
        omega
      obtain ⟨returned,handed⟩ := feed_delivers packetLoop _ buf (chunk :: chunks) held (by simp)
        (wide_chunks _ short) fits small (fun _ _ => rfl) (Nat.lt_succ_self _)
      refine ⟨_,returned.trans ?_,handed.trans ?_⟩
      · exact congrArg _ ((congrArg _ whole).trans none)
      · rw [whole]
        exact delivers

section
variable {Schedule : Type} (crypto : Des Schedule) (isLoginFailedAck : ServerPacket → Bool)

/-- All calls return, the buffer is empty, and this has been taken out of it. -/
def Takes (client : Client Schedule) (chunks : List (List UInt8)) (expected : List Consumed) : Prop :=
  ∃ fuel, (onClientDatas crypto isLoginFailedAck fuel client chunks).exit = .returned ∧
    (onClientDatas crypto isLoginFailedAck fuel client chunks).client.recvBuf = [] ∧
    (onClientDatas crypto isLoginFailedAck fuel client chunks).consumed = expected

/-- A connection starts with an empty buffer, and the reply and the packets are consumed once each. -/
def TakesIn (client : Client Schedule) (reply : List UInt8) (packets : List SentPacket)
    (chunks : List Chunk) : Prop :=
  client.recvBuf = [] ∧
    Takes crypto isLoginFailedAck client (chunks.map Subtype.val) (.reply reply :: packetsOf packets)

theorem handleLoginPacket_refused (block : List UInt8) (client : Client Schedule)
    (none : acceptedKey crypto client.desSchedule block = none) :
    handleLoginPacket crypto block client =
      (false,{client with des := crypto.decrypt client.desSchedule block}) := by
  rw [acceptedKey] at none
  rw [handleLoginPacket]
  dsimp only
  split
  · rfl
  next word =>
    rw [if_neg word] at none
    rw [none]

def loggedIn (client : Client Schedule) (block : List UInt8) (schedule : Schedule) : Client Schedule :=
  {client with
    des := crypto.decrypt client.desSchedule block
    state := .loggedIn
    desSchedule := schedule
    requests := client.requests ++ [if client.inLogin then .versionReq else .avatarListReq]}

theorem handleLoginPacket_accepted (block : List UInt8) (client : Client Schedule) (schedule : Schedule)
    (some : acceptedKey crypto client.desSchedule block = some schedule) :
    handleLoginPacket crypto block client = (true,loggedIn crypto client block schedule) := by
  rw [acceptedKey] at some
  rw [handleLoginPacket]
  dsimp only
  split
  next word =>
    rw [if_pos word] at some
    cases some
  next word =>
    rw [if_neg word] at some
    rw [some]
    rfl

theorem loginLoop_left (fuel : Nat) (client : Client Schedule) (few : client.recvBuf.length < desBlock) :
    loginLoop crypto (fuel + 1) client = ⟨[],.left,client⟩ := by
  rw [loginLoop,if_neg (Nat.not_le.mpr few)]

theorem loginLoop_refused (fuel : Nat) (client : Client Schedule)
    (enough : desBlock ≤ client.recvBuf.length)
    (none : acceptedKey crypto client.desSchedule (client.recvBuf.take desBlock) = none) :
    loginLoop crypto (fuel + 1) client = ⟨[],.refused,
      {client with des := crypto.decrypt client.desSchedule (client.recvBuf.take desBlock)}⟩ := by
  rw [loginLoop,if_pos enough]
  dsimp only
  rw [handleLoginPacket_refused crypto _ client none]

theorem loginLoop_accepted (fuel : Nat) (client : Client Schedule) (schedule : Schedule)
    (enough : desBlock ≤ client.recvBuf.length)
    (some : acceptedKey crypto client.desSchedule (client.recvBuf.take desBlock) = some schedule) :
    loginLoop crypto (fuel + 1) client =
      let next := loginLoop crypto fuel {loggedIn crypto client (client.recvBuf.take desBlock) schedule with
        recvBuf := client.recvBuf.drop desBlock}
      {next with consumed := .reply (client.recvBuf.take desBlock) :: next.consumed} := by
  rw [loginLoop,if_pos enough]
  dsimp only
  rw [handleLoginPacket_accepted crypto _ client schedule some]

theorem loginLoop_mono (fuel more : Nat) (client : Client Schedule)
    (ended : (loginLoop crypto fuel client).outcome ≠ .running) :
    loginLoop crypto (fuel + more) client = loginLoop crypto fuel client := by
  induction fuel generalizing client with
  | zero => exact absurd rfl ended
  | succ fuel ih =>
    rw [Nat.add_right_comm]
    by_cases enough : desBlock ≤ client.recvBuf.length
    · cases key : acceptedKey crypto client.desSchedule (client.recvBuf.take desBlock) with
      | none => rw [loginLoop_refused crypto _ client enough key,loginLoop_refused crypto _ client enough key]
      | some schedule =>
        rw [loginLoop_accepted crypto _ client schedule enough key] at ended
        rw [loginLoop_accepted crypto _ client schedule enough key,
          loginLoop_accepted crypto _ client schedule enough key]
        dsimp only at ended ⊢
        rw [ih _ ended]
    · have few := Nat.lt_of_not_le enough
      rw [loginLoop_left crypto _ client few,loginLoop_left crypto _ client few]

theorem onClientData_login (fuel : Nat) (client : Client Schedule) (chunk : List UInt8)
    (waiting : client.state = .connected) (inside : Inside packetLoop client.recvBuf chunk) :
    onClientData crypto isLoginFailedAck (fuel + 1) client chunk =
      let login := loginLoop crypto fuel {client with recvBuf := copied packetLoop client.recvBuf chunk}
      match login.outcome with
      | .running => ⟨login.consumed,.running,login.client⟩
      | .refused => ⟨login.consumed,.returned,login.client⟩
      | .left =>
        if (remaining packetLoop client.recvBuf chunk).isEmpty then ⟨login.consumed,.returned,login.client⟩
        else (onClientData crypto isLoginFailedAck fuel login.client
          (remaining packetLoop client.recvBuf chunk)).after login.consumed := by
  rw [onClientData]
  dsimp only
  refine (if_pos inside).trans ?_
  rw [if_pos waiting]
  rfl

theorem onClientData_outside (fuel : Nat) (client : Client Schedule) (chunk : List UInt8)
    (outside : ¬ Inside packetLoop client.recvBuf chunk) :
    onClientData crypto isLoginFailedAck (fuel + 1) client chunk = ⟨[],.undefined,client⟩ := by
  rw [onClientData]
  dsimp only
  exact if_neg outside

theorem onClientData_logged (fuel : Nat) (client : Client Schedule) (chunk : List UInt8)
    (logged : client.state ≠ .connected) (inside : Inside packetLoop client.recvBuf chunk) :
    onClientData crypto isLoginFailedAck (fuel + 1) client chunk =
      let inner := drain packetLoop fuel (copied packetLoop client.recvBuf chunk)
      let packets := dispatched inner.actions
      let handled := handlePackets isLoginFailedAck packets client
      match inner.outcome with
      | .running => ⟨packets.map .packet,.running,handled⟩
      | .refused left => ⟨packets.map .packet,.returned,{handled with recvBuf := left}⟩
      | .left left =>
        if (remaining packetLoop client.recvBuf chunk).isEmpty then
          ⟨packets.map .packet,.returned,{handled with recvBuf := left}⟩
        else (onClientData crypto isLoginFailedAck fuel {handled with recvBuf := left}
          (remaining packetLoop client.recvBuf chunk)).after (packets.map .packet) := by
  rw [onClientData]
  dsimp only
  refine (if_pos inside).trans ?_
  rw [if_neg logged]
  rfl

theorem onClientData_mono (fuel more : Nat) (client : Client Schedule) (chunk : List UInt8)
    (ended : (onClientData crypto isLoginFailedAck fuel client chunk).exit ≠ .running) :
    onClientData crypto isLoginFailedAck (fuel + more) client chunk =
      onClientData crypto isLoginFailedAck fuel client chunk := by
  induction fuel generalizing client chunk with
  | zero => exact absurd rfl ended
  | succ fuel ih =>
    rw [Nat.add_right_comm]
    by_cases inside : Inside packetLoop client.recvBuf chunk
    · by_cases waiting : client.state = .connected
      · rw [onClientData_login crypto isLoginFailedAck _ client chunk waiting inside] at ended
        rw [onClientData_login crypto isLoginFailedAck _ client chunk waiting inside,
          onClientData_login crypto isLoginFailedAck _ client chunk waiting inside]
        dsimp only at ended ⊢
        have same := loginLoop_mono crypto fuel more
          {client with recvBuf := copied packetLoop client.recvBuf chunk} (by
            intro going
            rw [going] at ended
            exact ended rfl)
        rw [same]
        split
        · rfl
        · rfl
        next left =>
          rw [left] at ended
          dsimp only at ended
          split
          · rfl
          next going =>
            rw [if_neg going] at ended
            rw [ih _ _ ended]
      · rw [onClientData_logged crypto isLoginFailedAck _ client chunk waiting inside] at ended
        rw [onClientData_logged crypto isLoginFailedAck _ client chunk waiting inside,
          onClientData_logged crypto isLoginFailedAck _ client chunk waiting inside]
        dsimp only at ended ⊢
        have same := drain_mono packetLoop fuel more (copied packetLoop client.recvBuf chunk) (by
          intro going
          rw [going] at ended
          exact ended rfl)
        rw [same]
        split
        · rfl
        · rfl
        next left outcome =>
          rw [outcome] at ended
          dsimp only at ended
          split
          · rfl
          next going =>
            rw [if_neg going] at ended
            rw [ih _ _ ended]
    · rw [onClientData_outside crypto isLoginFailedAck _ client chunk inside,
        onClientData_outside crypto isLoginFailedAck _ client chunk inside]

theorem onClientDatas_mono (fuel more : Nat) (client : Client Schedule) (chunks : List (List UInt8))
    (ended : (onClientDatas crypto isLoginFailedAck fuel client chunks).exit = .returned) :
    onClientDatas crypto isLoginFailedAck (fuel + more) client chunks =
      onClientDatas crypto isLoginFailedAck fuel client chunks := by
  induction chunks generalizing client with
  | nil => rfl
  | cons chunk chunks ih =>
    rw [onClientDatas] at ended
    rw [onClientDatas,onClientDatas]
    have same := onClientData_mono crypto isLoginFailedAck fuel more client chunk (by
      intro going
      rw [going] at ended
      exact absurd (going.symm.trans ended) (by decide))
    rw [same]
    split
    next returned =>
      rw [returned] at ended
      rw [ih _ ended]
    · rfl

omit crypto isLoginFailedAck in
theorem receive_copied (fuel : Nat) (buf chunk : List UInt8) (inside : Inside packetLoop buf chunk) :
    receive packetLoop (fuel + 1) buf chunk =
      let copying := .copy buf.length (copyLength packetLoop buf chunk) chunk.length
      let inner := drain packetLoop fuel (copied packetLoop buf chunk)
      match inner.outcome with
      | .running => ⟨copying :: inner.actions,.running⟩
      | .refused left => ⟨copying :: inner.actions,.returned left⟩
      | .left left =>
        if (remaining packetLoop buf chunk).isEmpty then ⟨copying :: inner.actions,.returned left⟩
        else (receive packetLoop fuel left (remaining packetLoop buf chunk)).after
          (copying :: inner.actions) := by
  rw [receive]
  exact if_pos inside

/-- After the login a call is one of the receive loop. -/
structure Receives (run : DataRun Schedule) (call : Run ServerPacket) : Prop where
  consumed : run.consumed = (dispatched call.actions).map .packet
  logged : run.client.state ≠ .connected
  returned : ∀ left, call.exit = .returned left → run.exit = .returned ∧ run.client.recvBuf = left
  stopped : (∀ left, call.exit ≠ .returned left) → run.exit ≠ .returned

omit crypto isLoginFailedAck in
theorem receives_after (run : DataRun Schedule) (call : Run ServerPacket)
    (first : List (Action ServerPacket)) (receives : Receives run call) :
    Receives (run.after ((dispatched first).map .packet)) (call.after first) where
  consumed := by
    rw [DataRun.after,receives.consumed,Run.after,dispatched,dispatched,dispatched,calls_append]
    simp only [List.map_append]
  logged := receives.logged
  returned := receives.returned
  stopped := receives.stopped

theorem onClientData_receives (fuel : Nat) (client : Client Schedule) (chunk : List UInt8)
    (logged : client.state ≠ .connected) :
    Receives (onClientData crypto isLoginFailedAck fuel client chunk)
      (receive packetLoop fuel client.recvBuf chunk) := by
  induction fuel generalizing client chunk with
  | zero => exact ⟨rfl,logged,fun left returned => (by cases returned),fun _ => by rintro ⟨⟩⟩
  | succ fuel ih =>
    by_cases inside : Inside packetLoop client.recvBuf chunk
    · rw [onClientData_logged crypto isLoginFailedAck fuel client chunk logged inside,
        receive_copied fuel client.recvBuf chunk inside]
      dsimp only
      cases drained : (drain packetLoop fuel (copied packetLoop client.recvBuf chunk)).outcome with
      | running => exact ⟨rfl,logged,fun left returned => (by cases returned),fun _ => by rintro ⟨⟩⟩
      | refused left =>
        exact ⟨rfl,logged,fun other returned => ⟨rfl,Exit.returned.inj returned⟩,
          fun never => absurd rfl (never left)⟩
      | left left =>
        dsimp only
        split
        · exact ⟨rfl,logged,fun other returned => ⟨rfl,Exit.returned.inj returned⟩,
            fun never => absurd rfl (never left)⟩
        · exact receives_after _ _
            (.copy client.recvBuf.length (copyLength packetLoop client.recvBuf chunk) chunk.length ::
              (drain packetLoop fuel (copied packetLoop client.recvBuf chunk)).actions)
            (ih {handlePackets isLoginFailedAck (dispatched
              (drain packetLoop fuel (copied packetLoop client.recvBuf chunk)).actions) client with
                recvBuf := left} _ logged)
    · rw [onClientData_outside crypto isLoginFailedAck fuel client chunk inside]
      have outside : receive packetLoop (fuel + 1) client.recvBuf chunk =
          ⟨[.copy client.recvBuf.length (copyLength packetLoop client.recvBuf chunk) chunk.length],
            .undefined⟩ := by
        rw [receive]
        exact if_neg inside
      rw [outside]
      exact ⟨rfl,logged,fun left returned => (by cases returned),fun _ => by rintro ⟨⟩⟩

theorem onClientDatas_receives (fuel : Nat) (client : Client Schedule) (chunks : List (List UInt8))
    (logged : client.state ≠ .connected) :
    Receives (onClientDatas crypto isLoginFailedAck fuel client chunks)
      (feed packetLoop fuel client.recvBuf chunks) := by
  induction chunks generalizing client with
  | nil =>
    exact ⟨rfl,logged,fun left returned => ⟨rfl,Exit.returned.inj returned⟩,fun never => absurd rfl (never _)⟩
  | cons chunk chunks ih =>
    have first := onClientData_receives crypto isLoginFailedAck fuel client chunk logged
    rw [onClientDatas,feed]
    cases exit : (receive packetLoop fuel client.recvBuf chunk).exit with
    | returned left =>
      obtain ⟨returned,rest⟩ := first.returned left exit
      rw [returned,first.consumed]
      dsimp only
      rw [← rest]
      exact receives_after _ _ _ (ih _ first.logged)
    | undefined =>
      have stopped := first.stopped (by simp [exit])
      split
      next returned => exact absurd returned stopped
      · exact first
    | running =>
      have stopped := first.stopped (by simp [exit])
      split
      next returned => exact absurd returned stopped
      · exact first

omit crypto isLoginFailedAck in
theorem calls_dispatched (fuel : Nat) (buf : List UInt8) (chunks : List (List UInt8)) :
    calls (feed packetLoop fuel buf chunks).actions =
      (dispatched (feed packetLoop fuel buf chunks).actions).map fun packet => (packet,true) := by
  have logged := feed_logged packetLoop fuel buf chunks
  revert logged
  generalize (feed packetLoop fuel buf chunks).actions = actions
  generalize (feed packetLoop fuel buf chunks).exit = exit
  intro logged
  induction actions with
  | nil => rfl
  | cons action actions ih =>
    have rest := ih fun other member => logged other (List.mem_cons_of_mem action member)
    cases action with
    | copy => exact rest
    | handle packet payload buffered accepted =>
      obtain ⟨-,-,-,-,-,-,same⟩ := logged _ (List.mem_cons_self ..)
      obtain rfl : accepted = true := same
      rw [calls,rest]
      rfl

theorem takes_logged (client : Client Schedule) (logged : client.state ≠ .connected)
    (chunks : List (List UInt8)) (packets : List SentPacket) :
    Takes crypto isLoginFailedAck client chunks (packetsOf packets) ↔
      ∃ fuel, (feed packetLoop fuel client.recvBuf chunks).exit = .returned [] ∧
        calls (feed packetLoop fuel client.recvBuf chunks).actions =
          (packets.map SentPacket.packet).map fun packet => (packet,true) := by
  have injective : Function.Injective (fun packet => Consumed.packet packet) := fun _ _ => Consumed.packet.inj
  have same : packetsOf packets = (packets.map SentPacket.packet).map .packet := by
    rw [packetsOf,List.map_map]
    rfl
  apply exists_congr
  intro fuel
  have receives := onClientDatas_receives crypto isLoginFailedAck fuel client chunks logged
  rw [receives.consumed,same,calls_dispatched]
  constructor
  · rintro ⟨returned,empty,handed⟩
    cases exit : (feed packetLoop fuel client.recvBuf chunks).exit with
    | returned left =>
      obtain ⟨-,rest⟩ := receives.returned left exit
      rw [← rest,empty]
      exact ⟨rfl,congrArg _ (List.map_injective_iff.mpr injective handed)⟩
    | undefined => exact absurd returned (receives.stopped (by simp [exit]))
    | running => exact absurd returned (receives.stopped (by simp [exit]))
  · rintro ⟨exit,handed⟩
    obtain ⟨returned,rest⟩ := receives.returned [] exit
    have pairs : Function.Injective fun packet : ServerPacket => (packet,true) := fun _ _ same =>
      (Prod.mk.inj same).1
    exact ⟨returned,rest,congrArg _ (List.map_injective_iff.mpr pairs handed)⟩

theorem onClientDatas_first (fuel : Nat) (client : Client Schedule) (chunk : List UInt8)
    (chunks : List (List UInt8))
    (returned : (onClientDatas crypto isLoginFailedAck fuel client (chunk :: chunks)).exit = .returned) :
    (onClientData crypto isLoginFailedAck fuel client chunk).exit = .returned := by
  rw [onClientDatas] at returned
  cases exit : (onClientData crypto isLoginFailedAck fuel client chunk).exit with
  | returned => rfl
  | undefined =>
    rw [exit] at returned
    exact absurd (exit.symm.trans returned) (by decide)
  | running =>
    rw [exit] at returned
    exact absurd (exit.symm.trans returned) (by decide)

theorem onClientDatas_cons (fuel : Nat) (client : Client Schedule) (chunk : List UInt8)
    (chunks : List (List UInt8))
    (first : (onClientData crypto isLoginFailedAck fuel client chunk).exit = .returned) :
    onClientDatas crypto isLoginFailedAck fuel client (chunk :: chunks) =
      (onClientDatas crypto isLoginFailedAck fuel
        (onClientData crypto isLoginFailedAck fuel client chunk).client chunks).after
        (onClientData crypto isLoginFailedAck fuel client chunk).consumed := by
  rw [onClientDatas,first]

theorem takes_round (client next : Client Schedule) (chunk rest : List UInt8) (chunks : List (List UInt8))
    (consumed expected : List Consumed) (base : Nat)
    (round : ∀ fuel, onClientData crypto isLoginFailedAck (fuel + base + 1) client chunk =
      if rest = [] then ⟨consumed,.returned,next⟩
      else (onClientData crypto isLoginFailedAck (fuel + base) next rest).after consumed) :
    Takes crypto isLoginFailedAck client (chunk :: chunks) (consumed ++ expected) ↔
      Takes crypto isLoginFailedAck next (later rest chunks) expected := by
  have joined (fuel : Nat)
      (ended : (onClientDatas crypto isLoginFailedAck fuel next (later rest chunks)).exit = .returned) :
      onClientDatas crypto isLoginFailedAck (fuel + base + 1) client (chunk :: chunks) =
        (onClientDatas crypto isLoginFailedAck fuel next (later rest chunks)).after consumed := by
    have same := round fuel
    by_cases none : rest = []
    · rw [if_pos none] at same
      rw [later,if_pos none] at ended ⊢
      rw [onClientDatas_cons crypto isLoginFailedAck _ client chunk chunks (by rw [same]),same]
      dsimp only
      rw [Nat.add_assoc,onClientDatas_mono crypto isLoginFailedAck fuel _ next chunks ended]
    · rw [if_neg none] at same
      rw [later,if_neg none] at ended ⊢
      have first := onClientDatas_first crypto isLoginFailedAck fuel next rest chunks ended
      rw [onClientData_mono crypto isLoginFailedAck fuel base next rest (by simp [first])] at same
      rw [onClientDatas_cons crypto isLoginFailedAck fuel next rest chunks first] at ended ⊢
      rw [onClientDatas_cons crypto isLoginFailedAck _ client chunk chunks (by rw [same]; exact first),same]
      have others := onClientDatas_mono crypto isLoginFailedAck fuel (base + 1)
        (onClientData crypto isLoginFailedAck fuel next rest).client chunks ended
      rw [← Nat.add_assoc] at others
      simp only [DataRun.after,others,List.append_assoc]
  constructor
  · rintro ⟨fuel,returned,empty,handed⟩
    have raised := onClientDatas_mono crypto isLoginFailedAck fuel (base + 1) client (chunk :: chunks) returned
    rw [← Nat.add_assoc] at raised
    have ends : (onClientDatas crypto isLoginFailedAck (fuel + base + 1) next (later rest chunks)).exit =
        .returned := by
      rw [← raised] at returned
      have first := onClientDatas_first crypto isLoginFailedAck _ client chunk chunks returned
      rw [onClientDatas_cons crypto isLoginFailedAck _ client chunk chunks first] at returned
      rw [round] at first returned
      by_cases none : rest = []
      · rw [if_pos none] at returned
        rw [later,if_pos none]
        exact returned
      · rw [if_neg none] at first returned
        have same := onClientData_mono crypto isLoginFailedAck (fuel + base) 1 next rest (by
          intro going
          exact absurd (going.symm.trans first) (by decide))
        rw [later,if_neg none,onClientDatas_cons crypto isLoginFailedAck _ next rest chunks (by
          rw [same]
          exact first),same]
        exact returned
    have whole := joined _ ends
    have again := onClientDatas_mono crypto isLoginFailedAck fuel (base + 1 + (base + 1)) client
      (chunk :: chunks) returned
    have count : fuel + (base + 1 + (base + 1)) = fuel + base + 1 + base + 1 := by omega
    rw [count,whole] at again
    rw [← again] at empty handed
    exact ⟨_,ends,empty,List.append_cancel_left handed⟩
  · rintro ⟨fuel,returned,empty,handed⟩
    refine ⟨fuel + base + 1,?_⟩
    rw [joined fuel returned]
    exact ⟨returned,empty,congrArg _ handed⟩

omit crypto isLoginFailedAck in
theorem waiting_inside (buf chunk : List UInt8) (few : buf.length < desBlock) (short : chunk.length < 2^16) :
    Inside packetLoop buf chunk := by
  have eight : desBlock = 8 := rfl
  have size : packetLoop.bufSize = 65500 := rfl
  have bits : packetLoop.lenBits = 32 := rfl
  rw [Inside,copyLength,size,bits]
  split <;> omega

theorem takes_waits (client : Client Schedule) (chunk : List UInt8) (chunks : List (List UInt8))
    (expected : List Consumed) (waiting : client.state = .connected)
    (inside : Inside packetLoop client.recvBuf chunk)
    (unfinished : (copied packetLoop client.recvBuf chunk).length < desBlock) :
    Takes crypto isLoginFailedAck client (chunk :: chunks) expected ↔
      Takes crypto isLoginFailedAck {client with recvBuf := copied packetLoop client.recvBuf chunk}
        (later (remaining packetLoop client.recvBuf chunk) chunks) expected := by
  have round := takes_round crypto isLoginFailedAck client
    {client with recvBuf := copied packetLoop client.recvBuf chunk} chunk
    (remaining packetLoop client.recvBuf chunk) chunks [] expected 1 (by
      intro fuel
      rw [onClientData_login crypto isLoginFailedAck _ client chunk waiting inside,
        loginLoop_left crypto fuel _ unfinished]
      simp only [List.isEmpty_iff])
  exact round

section
variable (client : Client Schedule) (chunk : List UInt8) (chunks : List (List UInt8)) (schedule : Schedule)
  (waiting : client.state = .connected) (inside : Inside packetLoop client.recvBuf chunk)
  (finished : desBlock ≤ (copied packetLoop client.recvBuf chunk).length)
  (valid : acceptedKey crypto client.desSchedule ((copied packetLoop client.recvBuf chunk).take desBlock) =
    some schedule)
include waiting inside finished valid

theorem takes_reply (expected : List Consumed)
    (few : ((copied packetLoop client.recvBuf chunk).drop desBlock).length < desBlock) :
    Takes crypto isLoginFailedAck client (chunk :: chunks)
        (.reply ((copied packetLoop client.recvBuf chunk).take desBlock) :: expected) ↔
      Takes crypto isLoginFailedAck
        {loggedIn crypto client ((copied packetLoop client.recvBuf chunk).take desBlock) schedule with
          recvBuf := (copied packetLoop client.recvBuf chunk).drop desBlock}
        (later (remaining packetLoop client.recvBuf chunk) chunks) expected := by
  have round := takes_round crypto isLoginFailedAck client
    {loggedIn crypto client ((copied packetLoop client.recvBuf chunk).take desBlock) schedule with
      recvBuf := (copied packetLoop client.recvBuf chunk).drop desBlock} chunk
    (remaining packetLoop client.recvBuf chunk) chunks
    [.reply ((copied packetLoop client.recvBuf chunk).take desBlock)] expected 2 (by
      intro fuel
      rw [onClientData_login crypto isLoginFailedAck _ client chunk waiting inside,
        loginLoop_accepted crypto (fuel + 1) _ schedule finished valid]
      dsimp only
      rw [loginLoop_left crypto fuel _ few]
      simp only [List.isEmpty_iff]
      rfl)
  exact round

/-- What is behind the reply is refused as another one: the rest of the chunk is dropped. -/
theorem takes_refused (expected : List Consumed)
    (enough : desBlock ≤ ((copied packetLoop client.recvBuf chunk).drop desBlock).length)
    (refused : acceptedKey crypto schedule
      (((copied packetLoop client.recvBuf chunk).drop desBlock).take desBlock) = none) :
    ∃ next : Client Schedule, next.state ≠ .connected ∧
      next.recvBuf = (copied packetLoop client.recvBuf chunk).drop desBlock ∧
      (Takes crypto isLoginFailedAck client (chunk :: chunks)
          (.reply ((copied packetLoop client.recvBuf chunk).take desBlock) :: expected) ↔
        Takes crypto isLoginFailedAck next chunks expected) := by
  let accepted : Client Schedule :=
    {loggedIn crypto client ((copied packetLoop client.recvBuf chunk).take desBlock) schedule with
      recvBuf := (copied packetLoop client.recvBuf chunk).drop desBlock}
  let next : Client Schedule := {accepted with
    des := crypto.decrypt schedule (((copied packetLoop client.recvBuf chunk).drop desBlock).take desBlock)}
  refine ⟨next,by simp [next,accepted,loggedIn],rfl,?_⟩
  have round := takes_round crypto isLoginFailedAck client next chunk [] chunks
    [.reply ((copied packetLoop client.recvBuf chunk).take desBlock)] expected 2 (by
      intro fuel
      rw [onClientData_login crypto isLoginFailedAck _ client chunk waiting inside,
        loginLoop_accepted crypto (fuel + 1) _ schedule finished valid]
      dsimp only
      rw [loginLoop_refused crypto fuel _ enough refused]
      rfl)
  exact round

/-- What is behind the reply is taken for another one. -/
theorem takes_twice (packets : List SentPacket) (again : Schedule)
    (enough : desBlock ≤ ((copied packetLoop client.recvBuf chunk).drop desBlock).length)
    (accepted : acceptedKey crypto schedule
      (((copied packetLoop client.recvBuf chunk).drop desBlock).take desBlock) = some again) (reply : List UInt8) :
    ¬ Takes crypto isLoginFailedAck client (chunk :: chunks) (.reply reply :: packetsOf packets) := by
  rintro ⟨fuel,returned,-,handed⟩
  have raised := onClientDatas_mono crypto isLoginFailedAck fuel 3 client (chunk :: chunks) returned
  rw [← raised] at returned handed
  have first := onClientDatas_first crypto isLoginFailedAck _ client chunk chunks returned
  rw [onClientDatas_cons crypto isLoginFailedAck _ client chunk chunks first] at handed
  have twice : ∃ first second more, (onClientData crypto isLoginFailedAck (fuel + 3) client chunk).consumed =
      .reply first :: .reply second :: more := by
    rw [onClientData_login crypto isLoginFailedAck _ client chunk waiting inside,
      loginLoop_accepted crypto (fuel + 1) _ schedule finished valid]
    dsimp only
    rw [loginLoop_accepted crypto fuel _ again enough accepted]
    dsimp only
    split
    · exact ⟨_,_,_,rfl⟩
    · exact ⟨_,_,_,rfl⟩
    · split
      · exact ⟨_,_,_,rfl⟩
      · exact ⟨_,_,_,rfl⟩
  obtain ⟨one,two,more,consumed⟩ := twice
  rw [consumed] at handed
  have rest := (List.cons.inj handed).2
  cases packets with
  | nil => cases rest
  | cons packet packets => cases rest

end

omit crypto isLoginFailedAck in
theorem later_flatten (rest : List UInt8) (chunks : List (List UInt8)) :
    (later rest chunks).flatten = rest ++ chunks.flatten := by
  rw [later]
  split
  next none => simp [none]
  · rfl

omit crypto isLoginFailedAck in
theorem later_short (rest : List UInt8) (chunks : List (List UInt8)) (bounded : rest.length < 2^16)
    (short : ∀ chunk ∈ chunks, chunk.length < 2^16) : ∀ chunk ∈ later rest chunks, chunk.length < 2^16 := by
  rw [later]
  split
  · exact short
  · exact List.forall_mem_cons.mpr ⟨bounded,short⟩

omit crypto isLoginFailedAck in
theorem remaining_bounded (buf chunk : List UInt8) (short : chunk.length < 2^16) :
    (remaining packetLoop buf chunk).length < 2^16 := by
  rw [remaining_length]
  omega

def pending (chunks : List (List UInt8)) : Nat := (chunks.map fun chunk => chunk.length + 1).sum

omit crypto isLoginFailedAck in
theorem later_pending (buf chunk : List UInt8) (chunks : List (List UInt8)) (held : buf.length ≤ maxOutputBuffer)
    (short : chunk.length < 2^16) :
    pending (later (remaining packetLoop buf chunk) chunks) < pending (chunk :: chunks) := by
  rw [later]
  split
  · simp [pending]
  next more =>
    have progress := copyLength_progress packetLoop buf chunk held (by
      change chunk.length < 2^32
      omega) more
    have length := remaining_length packetLoop buf chunk
    simp only [pending,List.map_cons,List.sum_cons]
    have nonempty : 0 < (remaining packetLoop buf chunk).length := List.length_pos_iff.mpr more
    omega

omit crypto isLoginFailedAck in
theorem replyFits_waits (refused : List UInt8 → Bool) (buf chunk : List UInt8) (chunks : List (List UInt8))
    (unfinished : (copied packetLoop buf chunk).length < desBlock) :
    ReplyFits refused buf (chunk :: chunks) ↔
      ReplyFits refused (copied packetLoop buf chunk) (later (remaining packetLoop buf chunk) chunks) := by
  constructor
  · intro fits
    cases fits with
    | waits _ _ _ _ next => exact next
    | completes _ _ _ _ finished => exact absurd unfinished (Nat.not_lt.mpr finished)
  · exact ReplyFits.waits buf chunk chunks unfinished

omit crypto isLoginFailedAck in
theorem replyFits_completes (refused : List UInt8 → Bool) (buf chunk : List UInt8) (chunks : List (List UInt8))
    (finished : desBlock ≤ (copied packetLoop buf chunk).length) :
    ReplyFits refused buf (chunk :: chunks) ↔
      (((copied packetLoop buf chunk).drop desBlock = [] ∨
          later (remaining packetLoop buf chunk) chunks ≠ []) ∧
        FitsAll serverFormat maxOutputBuffer ((copied packetLoop buf chunk).drop desBlock)
          (later (remaining packetLoop buf chunk) chunks)) ∧
      (desBlock ≤ ((copied packetLoop buf chunk).drop desBlock).length →
        refused (((copied packetLoop buf chunk).drop desBlock).take desBlock) = true ∧
          remaining packetLoop buf chunk = []) := by
  constructor
  · intro fits
    cases fits with
    | waits _ _ _ unfinished => exact absurd unfinished (Nat.not_lt.mpr finished)
    | completes _ _ _ _ _ left follows fits again =>
      rw [left] at follows fits again
      exact ⟨⟨follows,fits⟩,again⟩
  · rintro ⟨⟨follows,fits⟩,again⟩
    exact ReplyFits.completes buf chunk _ chunks finished rfl follows fits again

theorem takes_behind (next : Client Schedule) (logged : next.state ≠ .connected) (chunks : List (List UInt8))
    (packets : List SentPacket) (held : next.recvBuf.length ≤ maxOutputBuffer)
    (short : ∀ chunk ∈ chunks, chunk.length < 2^16)
    (whole : next.recvBuf ++ chunks.flatten = stream packets) :
    Takes crypto isLoginFailedAck next chunks (packetsOf packets) ↔
      (next.recvBuf = [] ∨ chunks ≠ []) ∧ FitsAll serverFormat maxOutputBuffer next.recvBuf chunks :=
  (takes_logged crypto isLoginFailedAck next logged chunks packets).trans
    (feed_packets_iff next.recvBuf chunks packets held short whole)

theorem takes_completes (client : Client Schedule) (chunk : List UInt8) (chunks : List (List UInt8))
    (reply : List UInt8) (packets : List SentPacket) (schedule : Schedule) (waiting : client.state = .connected)
    (few : client.recvBuf.length < desBlock) (short : ∀ other ∈ chunk :: chunks, other.length < 2^16)
    (eight : reply.length = desBlock)
    (valid : acceptedKey crypto client.desSchedule reply = some schedule)
    (whole : client.recvBuf ++ (chunk :: chunks).flatten = reply ++ stream packets)
    (finished : desBlock ≤ (copied packetLoop client.recvBuf chunk).length) :
    Takes crypto isLoginFailedAck client (chunk :: chunks) (.reply reply :: packetsOf packets) ↔
      ReplyFits (fun block => (acceptedKey crypto schedule block).isNone) client.recvBuf (chunk :: chunks) := by
  obtain ⟨bounded,others⟩ := List.forall_mem_cons.mp short
  have inside := waiting_inside client.recvBuf chunk few bounded
  have length := copied_length packetLoop client.recvBuf chunk inside
  have room : (copied packetLoop client.recvBuf chunk).length ≤ maxOutputBuffer := by
    rw [length]
    exact inside.1
  rw [List.flatten_cons,← List.append_assoc,← copied_remaining packetLoop client.recvBuf chunk,
    List.append_assoc,← later_flatten] at whole
  have first : (copied packetLoop client.recvBuf chunk).take desBlock = reply := by
    have taken := congrArg (List.take desBlock) whole
    rwa [List.take_append_of_le_length finished,← eight,List.take_left,eight] at taken
  have behind : (copied packetLoop client.recvBuf chunk).drop desBlock ++
      (later (remaining packetLoop client.recvBuf chunk) chunks).flatten = stream packets := by
    have dropped := congrArg (List.drop desBlock) whole
    rwa [List.drop_append_of_le_length finished,← eight,List.drop_left,eight] at dropped
  have held : ((copied packetLoop client.recvBuf chunk).drop desBlock).length ≤ maxOutputBuffer := by
    rw [List.length_drop]
    omega
  have laterShort := later_short _ chunks (remaining_bounded client.recvBuf chunk bounded) others
  rw [replyFits_completes _ client.recvBuf chunk chunks finished]
  rw [← first] at valid ⊢
  by_cases enough : desBlock ≤ ((copied packetLoop client.recvBuf chunk).drop desBlock).length
  · cases key : acceptedKey crypto schedule (((copied packetLoop client.recvBuf chunk).drop desBlock).take desBlock) with
    | some again =>
      refine iff_of_false (takes_twice crypto isLoginFailedAck client chunk chunks schedule waiting inside
        finished valid packets again enough key _) ?_
      rintro ⟨-,refused⟩
      exact absurd (refused enough).1 (by simp)
    | none =>
      obtain ⟨next,logged,buffered,same⟩ := takes_refused crypto isLoginFailedAck client chunk chunks
        schedule waiting inside finished valid (packetsOf packets) enough key
      rw [same]
      by_cases ended : remaining packetLoop client.recvBuf chunk = []
      · rw [later,if_pos ended] at behind ⊢
        rw [takes_behind crypto isLoginFailedAck next logged chunks packets (by rw [buffered]; exact held) others
          (by rw [buffered]; exact behind),buffered]
        exact (and_iff_left fun _ => ⟨rfl,ended⟩).symm
      · refine iff_of_false ?_ fun fits => ended (fits.2 enough).2
        rw [takes_logged crypto isLoginFailedAck next logged chunks packets,buffered]
        rintro ⟨fuel,returned,handed⟩
        obtain ⟨-,-,taken⟩ := feed_packets fuel _ chunks packets held others returned handed
        have lost : 0 < (remaining packetLoop client.recvBuf chunk).length := List.length_pos_iff.mpr ended
        rw [← behind,later_flatten,List.length_append,List.length_append,List.length_append] at taken
        omega
  · have fewer := Nat.lt_of_not_le enough
    rw [takes_reply crypto isLoginFailedAck client chunk chunks schedule waiting inside finished valid _ fewer]
    refine (takes_behind crypto isLoginFailedAck _ (by simp [loggedIn]) _ packets held laterShort behind).trans ?_
    exact (and_iff_left fun more => absurd more enough).symm

/-- From a connection with less than a block in its buffer, by induction on what is still to come. -/
theorem takes_iff (client : Client Schedule) (chunks : List (List UInt8)) (reply : List UInt8)
    (packets : List SentPacket) (schedule : Schedule) (waiting : client.state = .connected)
    (few : client.recvBuf.length < desBlock) (short : ∀ chunk ∈ chunks, chunk.length < 2^16)
    (eight : reply.length = desBlock)
    (valid : acceptedKey crypto client.desSchedule reply = some schedule)
    (whole : client.recvBuf ++ chunks.flatten = reply ++ stream packets) :
    Takes crypto isLoginFailedAck client chunks (.reply reply :: packetsOf packets) ↔
      ReplyFits (fun block => (acceptedKey crypto schedule block).isNone) client.recvBuf chunks := by
  induction amount : pending chunks using Nat.strong_induction_on generalizing client chunks with
  | _ amount ih =>
    cases chunks with
    | nil =>
      have lengths := congrArg List.length whole
      simp only [List.flatten_nil,List.append_nil,List.length_append] at lengths
      omega
    | cons chunk chunks =>
      by_cases finished : desBlock ≤ (copied packetLoop client.recvBuf chunk).length
      · exact takes_completes crypto isLoginFailedAck client chunk chunks reply packets schedule waiting few short
          eight valid whole finished
      · have unfinished := Nat.lt_of_not_le finished
        obtain ⟨bounded,others⟩ := List.forall_mem_cons.mp short
        have inside := waiting_inside client.recvBuf chunk few bounded
        rw [takes_waits crypto isLoginFailedAck client chunk chunks _ waiting inside unfinished,
          replyFits_waits _ client.recvBuf chunk chunks unfinished]
        have less := later_pending client.recvBuf chunk chunks (by
          have eight : desBlock = 8 := rfl
          have size : maxOutputBuffer = 65500 := rfl
          omega) bounded
        rw [amount] at less
        refine ih _ less {client with recvBuf := copied packetLoop client.recvBuf chunk} _ waiting unfinished
          (later_short _ chunks (remaining_bounded client.recvBuf chunk bounded) others) valid ?_ rfl
        rw [later_flatten,← List.append_assoc,copied_remaining,List.append_assoc]
        exact whole

theorem onClientDisconnect_empty (client : Client Schedule) :
    (onClientDisconnect crypto client).recvBuf = [] ↔
      client.loginFailed = true ∨ client.inLogin = false ∨ client.recvBuf = [] := by
  rw [onClientDisconnect]
  cases failed : client.loginFailed with
  | true => simp [clear]
  | false =>
    cases first : client.inLogin with
    | true => simp
    | false => simp [clear]

/-- A new connection keeps the buffer of the client that makes it. -/
theorem takesIn_iff (key : PublicKey) (desKey : List UInt8) (client : Client Schedule) (reply : List UInt8)
    (packets : List SentPacket) (chunks : List Chunk) (schedule : Schedule)
    (eight : reply.length = desBlock) (valid : acceptedKey crypto (crypto.setKey desKey) reply = some schedule)
    (whole : received chunks = reply ++ stream packets) :
    TakesIn crypto isLoginFailedAck (onClientConnection crypto key desKey client).1 reply packets chunks ↔
      client.recvBuf = [] ∧
        ReplyFits (fun block => (acceptedKey crypto schedule block).isNone) [] (chunks.map Subtype.val) := by
  refine and_congr_right fun empty => ?_
  have buffered : (onClientConnection crypto key desKey client).1.recvBuf = [] := empty
  have short : ∀ chunk ∈ chunks.map Subtype.val, chunk.length < 2^16 := by
    intro chunk member
    obtain ⟨bounded,-,rfl⟩ := List.mem_map.mp member
    exact bounded.2
  rw [takes_iff crypto isLoginFailedAck _ _ reply packets schedule rfl (by rw [buffered]; decide) short eight valid
    (by rw [buffered]; exact whole),buffered]

end

def plainDes : Des (List UInt8) where
  blank := []
  setKey := id
  setKeyChecked := some
  decrypt := fun _ block => block

def plainKey : PublicKey where
  size := 128
  encrypt := fun _ block => some (block ++ List.replicate (128 - block.length) 0)

def plainReply : List UInt8 := List.replicate desBlock 1

def emptyPacket : SentPacket := ⟨7,[],by decide⟩

def twoPackets : List SentPacket := [emptyPacket,⟨8,[97,98],by decide⟩]

/-- The reply and the first packet each in two pieces, and both heads cut. -/
def fourCuts : List Chunk :=
  [⟨[1,1,1],by decide⟩,⟨[1,1,1,1,1],by decide⟩,⟨[7,0],by decide⟩,⟨[0,0,8],by decide⟩,⟨[0,2,0,97,98],by decide⟩]

/-- A client that has been on a login server and on a gate, and lost the gate within a packet. -/
def usedClient : Client (List UInt8) :=
  let hear := fun chunks client => (onClientDatas plainDes (fun _ => false) 9
    (onClientConnection plainDes plainKey plainReply client).1 chunks).client
  hear [plainReply,[7,0,3,0,1]] (onClientDisconnect plainDes (hear [plainReply] (login [97] (clear plainDes))))

private theorem fourCuts_fit (refused : List UInt8 → Bool) :
    ReplyFits refused [] (fourCuts.map Subtype.val) := by
  refine (replyFits_waits refused _ _ _ (by decide)).mpr ((replyFits_completes refused _ _ _ (by decide)).mpr ?_)
  exact ⟨⟨.inl rfl,fitsAll_whole serverFormat maxOutputBuffer _ _ (by decide)⟩,fun long => absurd long (by decide)⟩

end Fantuan.ClientBase.ClientRecv

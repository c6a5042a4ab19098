import Fantuan.ClientBase.ClientConnection
import Fantuan.ServerBase.SessionLogin

/-! The token packet of a client, sent in blocks of the key, and the session that collects it. Whatever
the cuts of the sent bytes are, the session decrypts the blocks one after the other.
-/
namespace Fantuan.LoginBlocks
open Lib.Bytes StarNet.Packet StarNet.RecvLoop StarNet.RecvChunks
open ServerBase.SessionRecv (packetLoop sessionStateOnConnection)
open ClientBase.ClientConnection (PublicKey TokenPacket Des Client onClientConnection login encryptBlocks)
open ServerBase ServerBase.SessionLogin

section
variable {Derived Schedule : Type} (virtuals : Virtuals Derived) (ciphers : Ciphers Schedule)

structure Sealed (block piece : List UInt8) : Prop where
  length : block.length = ciphers.privateKeyLen
  decrypts : ciphers.privateDecrypt block = some piece
  nonempty : piece ≠ []

/-- The bytes of a token packet: the length in it is the length behind it. -/
structure Token (bytes : List UInt8) : Prop where
  whole : bytes.length = tokenHead + tokenLen bytes
  short : tokenLen bytes ≤ maxTokenLen

/-- The blocks that are still to be decrypted, in the buffer or to come. -/
structure Awaits (bytes : List UInt8) (session : Session Derived Schedule) (blocks pieces : List (List UInt8))
    (future : List UInt8) : Prop where
  connected : virtuals.currState session.derived = sessionStateOnConnection
  takesData : virtuals.onDataState session.derived = sessionStateOnConnection
  parts : List.Forall₂ (Sealed ciphers) blocks pieces
  more : blocks ≠ []
  buffered : session.recvBuf ++ future = blocks.flatten
  collected : session.tokenPacket ++ pieces.flatten = bytes

/-- The last block is the one that is checked. -/
structure Checks (bytes : List UInt8) (handled : Handled) (session : Session Derived Schedule) : Prop where
  checked : handled.checked = some (check bytes)
  collected : session.tokenPacket = bytes

omit virtuals ciphers in
theorem tokenLen_append (bytes more : List UInt8) (enough : tokenHead ≤ bytes.length) :
    tokenLen (bytes ++ more) = tokenLen bytes := by
  exact field_append 8 2 bytes more enough

theorem handleLoginPacket_early (bytes block piece more : List UInt8) (session : Session Derived Schedule)
    (token : Token bytes) (opened : Sealed ciphers block piece) (missing : more ≠ [])
    (collected : session.tokenPacket ++ (piece ++ more) = bytes) :
    handleLoginPacket virtuals ciphers block session =
      some (early,{session with tokenPacket := session.tokenPacket ++ piece}) := by
  have short := token.short
  have whole := token.whole
  have lengths := congrArg List.length collected
  have behind : 0 < more.length := List.length_pos_iff.mpr missing
  simp only [List.length_append] at lengths
  have head : tokenHead = 10 := rfl
  have most : maxTokenLen = 512 := rfl
  have size : sizeofTokenPacket = 522 := rfl
  rw [handleLoginPacket,opened.decrypts]
  dsimp only
  rw [if_neg (by
    rw [List.length_append]
    omega)]
  by_cases few : (session.tokenPacket ++ piece).length < tokenHead
  · rw [if_pos few]
  · have same : tokenLen (session.tokenPacket ++ piece) = tokenLen bytes := by
      rw [← collected,← List.append_assoc]
      exact (tokenLen_append _ more (Nat.not_lt.mp few)).symm
    rw [if_neg few,same,Nat.mod_eq_of_lt (by omega),List.length_append,
      if_neg (by omega),if_neg (by omega)]

theorem checkToken_checks (bytes : List UInt8) (session : Session Derived Schedule)
    (accepted : ∃ schedule, ciphers.setKeyChecked (bytes.take desBlock) = some schedule)
    (collected : session.tokenPacket = bytes) :
    Checks bytes (checkToken virtuals ciphers session).1 (checkToken virtuals ciphers session).2 ∧
      (checkToken virtuals ciphers session).2.recvBuf = session.recvBuf := by
  obtain ⟨schedule,accepted⟩ := accepted
  subst collected
  rw [checkToken]
  dsimp only [check] at accepted ⊢
  rw [accepted]
  dsimp only
  split
  · exact ⟨⟨rfl,rfl⟩,rfl⟩
  · rw [acceptToken]
    dsimp only
    split
    · exact ⟨⟨rfl,rfl⟩,rfl⟩
    · split
      · exact ⟨⟨rfl,rfl⟩,rfl⟩
      · exact ⟨⟨rfl,rfl⟩,rfl⟩

theorem handleLoginPacket_last (bytes block piece : List UInt8) (session : Session Derived Schedule)
    (token : Token bytes) (opened : Sealed ciphers block piece)
    (accepted : ∃ schedule, ciphers.setKeyChecked (bytes.take desBlock) = some schedule)
    (collected : session.tokenPacket ++ piece = bytes) :
    ∃ handled next, handleLoginPacket virtuals ciphers block session = some (handled,next) ∧
      Checks bytes handled next ∧ next.recvBuf = session.recvBuf := by
  have short := token.short
  have whole := token.whole
  have head : tokenHead = 10 := rfl
  have most : maxTokenLen = 512 := rfl
  have size : sizeofTokenPacket = 522 := rfl
  have checks := checkToken_checks virtuals ciphers bytes {session with tokenPacket := session.tokenPacket ++ piece}
    accepted collected
  refine ⟨_,_,?_,checks⟩
  rw [handleLoginPacket,opened.decrypts]
  dsimp only
  rw [collected,Nat.mod_eq_of_lt (by omega),if_neg (by omega),if_neg (by omega),if_neg (by omega),
    if_pos whole.symm]

/-- After some of the blocks the session waits for the others. -/
def Waits (bytes : List UInt8) (run : LoginRun Derived Schedule) (blocks : List (List UInt8))
    (future : List UInt8) : Prop :=
  ∃ (count : Nat) (others rest : List (List UInt8)), blocks.length = count + others.length ∧
    run.handled = List.replicate count early ∧ run.outcome = .left ∧
    run.session.recvBuf.length < ciphers.privateKeyLen ∧
    Awaits virtuals ciphers bytes run.session others rest future

/-- All blocks have been decrypted, and the last one has been checked. -/
def Ends (bytes : List UInt8) (run : LoginRun Derived Schedule) (blocks : List (List UInt8)) : Prop :=
  ∃ (count : Nat) (last : Handled), blocks.length = count + 1 ∧
    run.handled = List.replicate count early ++ [last] ∧
    (run.outcome = .left ∨ run.outcome = .refused) ∧ Checks bytes last run.session

/-- The blocks in the buffer, by induction on those that are still to be decrypted. -/
theorem loginLoop_blocks (bytes : List UInt8) (token : Token bytes)
    (accepted : ∃ schedule, ciphers.setKeyChecked (bytes.take desBlock) = some schedule)
    (blocks pieces : List (List UInt8)) (session : Session Derived Schedule) (future : List UInt8)
    (awaits : Awaits virtuals ciphers bytes session blocks pieces future) (positive : 0 < ciphers.privateKeyLen)
    (fuel : Nat) (enough : blocks.length < fuel) :
    Waits virtuals ciphers bytes (loginLoop virtuals ciphers fuel session) blocks future ∨
      (future = [] ∧ Ends bytes (loginLoop virtuals ciphers fuel session) blocks) := by
  induction blocks generalizing pieces session fuel with
  | nil => exact absurd rfl awaits.more
  | cons block blocks ih =>
    obtain ⟨connected,takesData,parts,-,buffered,collected⟩ := awaits
    cases parts with
    | @cons _ piece _ pieces opened parts =>
      cases fuel with
      | zero => exact absurd enough (by omega)
      | succ fuel =>
        rw [loginLoop]
        by_cases full : ciphers.privateKeyLen ≤ session.recvBuf.length
        · have first : session.recvBuf.take ciphers.privateKeyLen = block := by
            have taken := congrArg (List.take ciphers.privateKeyLen) buffered
            rwa [List.take_append_of_le_length full,List.flatten_cons,← opened.length,List.take_left,
              opened.length] at taken
          have behind : session.recvBuf.drop ciphers.privateKeyLen ++ future = blocks.flatten := by
            have dropped := congrArg (List.drop ciphers.privateKeyLen) buffered
            rwa [List.drop_append_of_le_length full,List.flatten_cons,← opened.length,List.drop_left,
              opened.length] at dropped
          rw [if_pos full,first]
          cases parts with
          | nil =>
            obtain ⟨emptied,none⟩ := List.append_eq_nil_iff.mp behind
            obtain ⟨handled,next,result,checks,same⟩ := handleLoginPacket_last virtuals ciphers bytes block piece
              session token opened accepted (by rw [← collected]; simp)
            rw [result]
            refine .inr ⟨none,0,handled,rfl,?_⟩
            dsimp only
            split
            · exact ⟨rfl,.inr rfl,checks⟩
            · cases fuel with
              | zero => exact absurd enough (by simp)
              | succ fuel =>
                rw [loginLoop,if_neg (by
                  rw [same,emptied]
                  exact Nat.not_le.mpr positive)]
                exact ⟨rfl,.inl rfl,checks.checked,checks.collected⟩
          | @cons other otherPiece others otherPieces otherOpened rest =>
            have missing : (otherPiece :: otherPieces).flatten ≠ [] := fun none =>
              otherOpened.nonempty (List.append_eq_nil_iff.mp none).1
            rw [handleLoginPacket_early virtuals ciphers bytes block piece (otherPiece :: otherPieces).flatten
              session token opened missing collected]
            dsimp only
            rw [if_neg (by decide)]
            have next := ih (otherPiece :: otherPieces)
              {session with
                tokenPacket := session.tokenPacket ++ piece
                recvBuf := session.recvBuf.drop ciphers.privateKeyLen}
              ⟨connected,takesData,.cons otherOpened rest,by simp,behind,
                (List.append_assoc ..).trans collected⟩
              fuel (by
                rw [List.length_cons] at enough
                omega)
            obtain ⟨count,rest,pieces,total,handled,outcome,few,waits⟩ |
              ⟨none,count,last,total,handled,outcome,checks⟩ := next
            · refine .inl ⟨count + 1,rest,pieces,?_,?_,outcome,few,waits⟩
              · rw [List.length_cons,total]
                omega
              · dsimp only
                rw [handled,List.replicate_succ]
            · refine .inr ⟨none,count + 1,last,?_,?_,outcome,checks⟩
              · rw [List.length_cons,total]
              · dsimp only
                rw [handled,List.replicate_succ,List.cons_append]
        · rw [if_neg full]
          exact .inl ⟨0,block :: blocks,piece :: pieces,(Nat.zero_add _).symm,rfl,rfl,Nat.not_le.mp full,
            ⟨connected,takesData,.cons opened parts,by simp,buffered,collected⟩⟩

theorem blocks_length (blocks pieces : List (List UInt8)) (parts : List.Forall₂ (Sealed ciphers) blocks pieces) :
    blocks.flatten.length = blocks.length * ciphers.privateKeyLen := by
  induction parts with
  | nil => simp
  | cons opened _ ih =>
    rw [List.flatten_cons,List.length_append,ih,opened.length,List.length_cons,Nat.succ_mul]
    omega

omit virtuals ciphers in
theorem received_empty (chunks : List Chunk) (none : received chunks = []) : chunks = [] := by
  cases chunks with
  | nil => rfl
  | cons chunk chunks => exact absurd (List.append_eq_nil_iff.mp none).1 chunk.property.1

omit virtuals in
theorem copyLength_all (blocks pieces : List (List UInt8)) (buf chunk more : List UInt8)
    (parts : List.Forall₂ (Sealed ciphers) blocks pieces)
    (bounded : blocks.length * ciphers.privateKeyLen ≤ maxInputBuffer)
    (buffered : buf ++ (chunk ++ more) = blocks.flatten) :
    copyLength packetLoop buf chunk = chunk.length ∧ buf.length + chunk.length ≤ maxInputBuffer := by
  have total := congrArg List.length buffered
  rw [blocks_length ciphers blocks pieces parts] at total
  simp only [List.length_append] at total
  have most : maxInputBuffer = 1024 := rfl
  have size : packetLoop.bufSize = 1024 := rfl
  refine ⟨?_,by omega⟩
  rw [copyLength,size,if_pos]
  rw [Nat.mod_eq_of_lt (by omega)]
  omega

theorem onData_connected (fuel : Nat) (session : Session Derived Schedule) (chunk : List UInt8)
    (connected : virtuals.currState session.derived = sessionStateOnConnection)
    (takesData : virtuals.onDataState session.derived = sessionStateOnConnection)
    (all : copyLength packetLoop session.recvBuf chunk = chunk.length)
    (room : session.recvBuf.length + chunk.length ≤ maxInputBuffer) :
    (loginLoop virtuals ciphers fuel {session with recvBuf := session.recvBuf ++ chunk}).outcome = .left ∨
      (loginLoop virtuals ciphers fuel {session with recvBuf := session.recvBuf ++ chunk}).outcome = .refused →
    onData virtuals ciphers (fuel + 1) session chunk =
      ⟨(loginLoop virtuals ciphers fuel {session with recvBuf := session.recvBuf ++ chunk}).handled.map .block,
        .returned,(loginLoop virtuals ciphers fuel {session with recvBuf := session.recvBuf ++ chunk}).session⟩ := by
  intro outcome
  rw [onData,if_neg (not_not_intro (takesData.trans connected.symm)),onDataCopies]
  dsimp only
  rw [all,if_pos ⟨room,Nat.le_refl _⟩,if_pos connected,List.take_length,List.drop_length]
  obtain left | refused := outcome
  · rw [left]
    rfl
  · rw [refused]

/-- The chunks, by induction on them: the blocks in the buffer are decrypted when they are complete. -/
theorem onDatas_blocks (bytes : List UInt8) (token : Token bytes)
    (accepted : ∃ schedule, ciphers.setKeyChecked (bytes.take desBlock) = some schedule)
    (positive : 0 < ciphers.privateKeyLen) (chunks : List Chunk) (blocks pieces : List (List UInt8))
    (session : Session Derived Schedule) (few : session.recvBuf.length < ciphers.privateKeyLen)
    (awaits : Awaits virtuals ciphers bytes session blocks pieces (received chunks))
    (bounded : blocks.length * ciphers.privateKeyLen ≤ maxInputBuffer)
    (fuel : Nat) (enough : blocks.length < fuel) :
    (onDatas virtuals ciphers (fuel + 1) session chunks).exit = .returned ∧
      ∃ (count : Nat) (last : Handled), blocks.length = count + 1 ∧
        (onDatas virtuals ciphers (fuel + 1) session chunks).consumed =
          List.replicate count (Consumed.block early) ++ [Consumed.block last] ∧
        Checks bytes last (onDatas virtuals ciphers (fuel + 1) session chunks).session := by
  induction chunks generalizing blocks pieces session with
  | nil =>
    have buffered := congrArg List.length awaits.buffered
    rw [blocks_length ciphers blocks pieces awaits.parts] at buffered
    have some : 0 < blocks.length := List.length_pos_iff.mpr awaits.more
    have least := Nat.le_mul_of_pos_left ciphers.privateKeyLen some
    simp only [received,List.map_nil,List.flatten_nil,List.append_nil] at buffered
    omega
  | cons chunk chunks ih =>
    obtain ⟨all,room⟩ := copyLength_all ciphers blocks pieces session.recvBuf chunk.val (received chunks)
      awaits.parts bounded awaits.buffered
    have copied : Awaits virtuals ciphers bytes {session with recvBuf := session.recvBuf ++ chunk.val} blocks pieces
        (received chunks) :=
      ⟨awaits.connected,awaits.takesData,awaits.parts,awaits.more,
        (List.append_assoc ..).trans awaits.buffered,awaits.collected⟩
    have data := onData_connected virtuals ciphers fuel session chunk.val awaits.connected awaits.takesData all room
    obtain ⟨count,others,rest,total,handled,outcome,fewer,waits⟩ |
      ⟨none,count,last,total,handled,outcome,checks⟩ :=
      loginLoop_blocks virtuals ciphers bytes token accepted blocks pieces _ _ copied positive fuel enough
    · have same := data (.inl outcome)
      have smaller : others.length * ciphers.privateKeyLen ≤ blocks.length * ciphers.privateKeyLen :=
        Nat.mul_le_mul_right _ (by omega)
      obtain ⟨returned,more,last,length,consumed,checks⟩ := ih others rest _ fewer waits
        (smaller.trans bounded) (by omega)
      rw [onDatas,same]
      refine ⟨returned,count + more,last,by omega,?_,checks⟩
      dsimp only [DataRun.after]
      rw [consumed,handled,List.map_replicate,← List.append_assoc,← List.replicate_add]
    · obtain rfl := received_empty chunks none
      rw [onDatas,data outcome]
      refine ⟨rfl,count,last,total,?_,checks⟩
      dsimp only [DataRun.after,onDatas]
      rw [handled,List.map_append,List.map_replicate,List.append_nil]
      rfl

omit virtuals in
/-- What the client sends, by induction on the loop: sealed pieces of the packet. -/
theorem encryptBlocks_parts (key : PublicKey) (large : 12 < key.size)
    (encrypts : ∀ left piece, piece.length ≤ key.size - 11 →
      ∃ block, key.encrypt left piece = some block ∧ block.length = key.size)
    (same : ciphers.privateKeyLen = key.size)
    (inverts : ∀ left piece block, key.encrypt left piece = some block →
      ciphers.privateDecrypt block = some piece)
    (fuel : Nat) (packet : List UInt8) (nonempty : packet ≠ []) (enough : packet.length ≤ fuel) :
    ∃ blocks pieces, encryptBlocks key fuel packet = some blocks.flatten ∧ blocks ≠ [] ∧
      List.Forall₂ (Sealed ciphers) blocks pieces ∧ pieces.flatten = packet := by
  induction fuel generalizing packet with
  | zero => exact absurd (List.length_eq_zero_iff.mp (Nat.le_zero.mp enough)) nonempty
  | succ fuel ih =>
    have some : 0 < packet.length := List.length_pos_iff.mpr nonempty
    obtain ⟨block,encrypted,length⟩ := encrypts packet.length (packet.take (key.size - 12)) (by
      rw [List.length_take]
      omega)
    have opened : Sealed ciphers block (packet.take (key.size - 12)) := by
      refine ⟨length.trans same.symm,inverts _ _ _ encrypted,List.ne_nil_of_length_pos ?_⟩
      rw [List.length_take]
      omega
    have split := List.take_append_drop (key.size - 12) packet
    simp only [encryptBlocks,encrypted,Option.bind_eq_bind,Option.bind_some,length,ne_eq,not_true_eq_false,
      if_false]
    by_cases last : packet.drop (key.size - 12) = []
    · rw [if_pos last]
      rw [last,List.append_nil] at split
      refine ⟨[block],[packet.take (key.size - 12)],by simp,by simp,.cons opened .nil,?_⟩
      rw [List.flatten_singleton,split]
    · rw [if_neg last]
      obtain ⟨blocks,pieces,sent,-,parts,whole⟩ := ih _ last (by
        rw [List.length_drop]
        omega)
      refine ⟨block :: blocks,_,?_,by simp,.cons opened parts,?_⟩
      · rw [sent]
        rfl
      · rw [List.flatten_cons,whole,split]

structure Connected (session : Session Derived Schedule) : Prop where
  connected : virtuals.currState session.derived = sessionStateOnConnection
  takesData : virtuals.onDataState session.derived = sessionStateOnConnection
  unread : session.recvBuf = []
  uncollected : session.tokenPacket = []

omit virtuals ciphers in
theorem tokenPacket_token (desKey token : List UInt8) (packet : TokenPacket) (eight : desKey.length = desBlock)
    (des : packet.des = desKey) (length : packet.tokenLen = UInt16.ofNat (token.length + 1))
    (buf : packet.tokenBuf = token ++ [0]) (fits : token.length + 1 ≤ maxTokenLen) :
    Token packet.bytes ∧ check packet.bytes =
      ⟨desKey,UInt16.ofNat (token.length + 1),token ++ List.replicate (maxTokenLen - token.length) 0⟩ := by
  have most : maxTokenLen = 512 := rfl
  have block : desBlock = 8 := rfl
  have count : (UInt16.ofNat (token.length + 1)).toNat = token.length + 1 := by
    rw [UInt16.toNat_ofNat',Nat.mod_eq_of_lt (by omega)]
  have written : packet.bytes = desKey ++ (le 2 (token.length + 1) ++ (token ++ [0])) := by
    rw [TokenPacket.bytes,des,length,buf,count]
  have declared : tokenLen packet.bytes = token.length + 1 := by
    have read := field_le desKey (token ++ [0]) 2 (token.length + 1) (by omega)
    rw [eight] at read
    rw [written]
    exact read
  have total : packet.bytes.length = tokenHead + (token.length + 1) := by
    rw [written]
    simp only [List.length_append,eight,length_le,List.length_singleton]
    rw [tokenHead,block]
    omega
  refine ⟨⟨total.trans (by rw [declared]),by omega⟩,?_⟩
  have first : packet.bytes.take desBlock = desKey := by
    rw [written,← eight,List.take_left]
  have behind : packet.bytes.drop tokenHead = token ++ [0] := by
    have ten : tokenHead = (desKey ++ le 2 (token.length + 1)).length := by
      rw [List.length_append,eight,length_le]
      rfl
    rw [written,← List.append_assoc,ten,List.drop_left]
  have rest : sizeofTokenPacket - packet.bytes.length = maxTokenLen - (token.length + 1) := by
    rw [total]
    rw [sizeofTokenPacket,tokenHead]
    omega
  rw [check,first,declared,List.drop_append_of_le_length (by omega),behind,rest]
  have zeros : maxTokenLen - token.length = maxTokenLen - (token.length + 1) + 1 := by omega
  rw [zeros,List.replicate_succ]
  simp

/-- The token packet goes from the client to the check of the session, in one piece and unchanged. -/
theorem tokenPacket_reassembled {ClientSchedule : Type} (des : Des ClientSchedule) (key : PublicKey)
    (desKey token : List UInt8) (client : Client ClientSchedule) (session : Session Derived Schedule)
    (large : 12 < key.size)
    (encrypts : ∀ left piece, piece.length ≤ key.size - 11 →
      ∃ block, key.encrypt left piece = some block ∧ block.length = key.size)
    (same : ciphers.privateKeyLen = key.size)
    (inverts : ∀ left piece block, key.encrypt left piece = some block →
      ciphers.privateDecrypt block = some piece)
    (eight : desKey.length = desBlock)
    (accepted : ∃ schedule, ciphers.setKeyChecked desKey = some schedule)
    (fits : token.length + 1 ≤ maxTokenLen) (connected : Connected virtuals session) :
    ∃ sent, (onClientConnection des key desKey (login token client)).2 = some sent ∧
      (sent.length ≤ maxInputBuffer → ∀ chunks, received chunks = sent → ∃ fuel count last,
        (onDatas virtuals ciphers fuel session chunks).exit = .returned ∧
        sent.length = (count + 1) * key.size ∧
        (onDatas virtuals ciphers fuel session chunks).consumed =
          List.replicate count (.block early) ++ [.block last] ∧
        last.checked = some ⟨desKey,UInt16.ofNat (token.length + 1),
          token ++ List.replicate (maxTokenLen - token.length) 0⟩ ∧
        (onDatas virtuals ciphers fuel session chunks).session.tokenPacket =
          desKey ++ (le 2 (token.length + 1) ++ (token ++ [0]))) := by
  have most : maxTokenLen = 512 := rfl
  let packet : TokenPacket := {(login token client).tokenPacket with des := desKey}
  obtain ⟨whole,checks⟩ := tokenPacket_token desKey token packet eight rfl rfl rfl fits
  have nonempty : packet.bytes ≠ [] := by
    apply List.ne_nil_of_length_pos
    rw [whole.whole,tokenHead]
    omega
  obtain ⟨blocks,pieces,sends,more,parts,split⟩ := encryptBlocks_parts ciphers key large encrypts same inverts
    packet.bytes.length packet.bytes nonempty (Nat.le_refl _)
  refine ⟨blocks.flatten,sends,fun bounded chunks cut => ?_⟩
  have total := blocks_length ciphers blocks pieces parts
  have keyed : ∃ schedule, ciphers.setKeyChecked (packet.bytes.take desBlock) = some schedule := by
    have first := congrArg Check.desBlock checks
    rw [check] at first
    dsimp only at first
    rw [first]
    exact accepted
  obtain ⟨returned,count,last,length,consumed,checked,collected⟩ := onDatas_blocks virtuals ciphers packet.bytes
    whole keyed (by omega) chunks blocks pieces session (by
      rw [connected.unread,List.length_nil]
      omega)
    ⟨connected.connected,connected.takesData,parts,more,by rw [connected.unread,cut,List.nil_append],
      by rw [connected.uncollected,split,List.nil_append]⟩
    (by rw [← total]; exact bounded) (blocks.length + 1) (Nat.lt_succ_self _)
  refine ⟨_,count,last,returned,?_,consumed,by rw [checked,checks],?_⟩
  · rw [total,length,same]
  · rw [collected]
    have length : (UInt16.ofNat (token.length + 1)).toNat = token.length + 1 := by
      rw [UInt16.toNat_ofNat',Nat.mod_eq_of_lt (by omega)]
    change desKey ++ (le 2 (UInt16.ofNat (token.length + 1)).toNat ++ (token ++ [0])) = _
    rw [length]

end

def plainKey : PublicKey where
  size := 128
  encrypt := fun left piece =>
    if piece.length ≤ 117 then
      some (UInt8.ofNat piece.length :: (piece ++ List.replicate (127 - piece.length) (UInt8.ofNat left)))
    else none

def plainCiphers : Ciphers Unit where
  privateKeyLen := 128
  privateDecrypt := fun block => block.head?.map fun length => block.tail.take length.toNat
  setKeyChecked := fun _ => some ()
  setKey := fun _ => ()
  encrypt := fun _ key => key

def plainDes : Des Unit where
  blank := ()
  setKey := fun _ => ()
  setKeyChecked := fun _ => some ()
  decrypt := fun _ block => block

/-- The derived part is the state; every check passes. -/
def plainSession : Virtuals Int where
  currState := id
  onDataState := id
  checkLoginToken := fun _ _ state => (0,state)
  popOutputBuffer := fun state => (true,state)
  randomKey := fun state => (List.replicate desBlock 1,state)
  loggedInNtf := fun _ => (0,4)
  disconnect := id
  onPacketReceived := fun _ state => state

theorem plainKey_encrypts (left : Nat) (piece : List UInt8) (short : piece.length ≤ plainKey.size - 11) :
    ∃ block, plainKey.encrypt left piece = some block ∧ block.length = plainKey.size := by
  have size : plainKey.size = 128 := rfl
  rw [size] at short ⊢
  refine ⟨_,if_pos (by omega),?_⟩
  simp only [List.length_cons,List.length_append,List.length_replicate]
  omega

theorem plainCiphers_inverts (left : Nat) (piece block : List UInt8)
    (encrypted : plainKey.encrypt left piece = some block) : plainCiphers.privateDecrypt block = some piece := by
  simp only [plainKey] at encrypted
  split at encrypted
  next short =>
    obtain rfl := Option.some.inj encrypted
    have length : (UInt8.ofNat piece.length).toNat = piece.length := by
      rw [UInt8.toNat_ofNat']
      omega
    simp [plainCiphers,length]
  · cases encrypted

def longToken : List UInt8 := [97,59] ++ List.replicate 300 98

/-- A token of three blocks, whatever the pieces are that it comes in. -/
theorem plainToken_reassembled :
    ∃ sent, (onClientConnection plainDes plainKey (List.replicate 8 1)
        (login longToken (ClientBase.ClientConnection.clear plainDes))).2 = some sent ∧ sent.length = 3 * 128 ∧
      ∀ chunks, received chunks = sent → ∃ fuel last,
        (onDatas plainSession plainCiphers fuel ⟨[],[],(),[],1⟩ chunks).exit = .returned ∧
        (onDatas plainSession plainCiphers fuel ⟨[],[],(),[],1⟩ chunks).consumed =
          [.block early,.block early,.block last] ∧
        last.checked = some ⟨List.replicate 8 1,303,longToken ++ List.replicate 210 0⟩ ∧
        (onDatas plainSession plainCiphers fuel ⟨[],[],(),[],1⟩ chunks).session.tokenPacket =
          List.replicate 8 1 ++ (le 2 303 ++ (longToken ++ [0])) := by
  have long : longToken.length = 302 := by
    rw [longToken,List.length_append,List.length_replicate]
    rfl
  obtain ⟨sent,sends,whole⟩ := tokenPacket_reassembled plainSession plainCiphers plainDes plainKey (List.replicate 8 1)
    longToken (ClientBase.ClientConnection.clear plainDes) ⟨[],[],(),[],1⟩ (by decide) plainKey_encrypts rfl
    plainCiphers_inverts (by decide) ⟨(),rfl⟩ (by rw [long]; decide) ⟨rfl,rfl,rfl,rfl⟩
  have length : (onClientConnection plainDes plainKey (List.replicate 8 1)
      (login longToken (ClientBase.ClientConnection.clear plainDes))).2.map List.length = some 384 := by decide +kernel
  rw [sends,Option.map_some,Option.some.injEq] at length
  refine ⟨sent,sends,length,?_⟩
  intro chunks cut
  obtain ⟨fuel,count,last,returned,blocks,consumed,checked,collected⟩ := whole (by rw [length]; decide) chunks cut
  rw [long] at checked collected
  change sent.length = (count + 1) * 128 at blocks
  have two : count = 2 := by omega
  rw [two] at consumed
  exact ⟨fuel,last,returned,consumed,checked,collected⟩

end Fantuan.LoginBlocks

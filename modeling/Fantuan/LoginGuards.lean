import Fantuan.LoginBlocks

/-! What keeps the login of a session inside m_TokenPacket. HandleLoginPacket tests the length of a piece
that it has already written, a refused block stays in m_RecvBuf for the next chunk, and after a success the
loop goes on with the blocks that are left.
-/
namespace Fantuan.LoginGuards
open StarNet.Packet StarNet.RecvLoop ServerBase ServerBase.SessionLogin
open ServerBase.SessionRecv (packetLoop sessionStateOnConnection)
open LoginBlocks (plainSession)

/-- The collected bytes are a token packet of a token that is not too long. -/
def Complete (collected : List UInt8) : Prop :=
  collected.length = tokenHead + tokenLen collected ∧ tokenLen collected ≤ maxTokenLen

def Accepted (consumed : List Consumed) : Prop := ∃ handled, .block handled ∈ consumed ∧ handled.result = 1

def isBlock : Consumed → Bool
  | .block _ => true
  | .packet _ => false

/-- No block follows one that has been accepted. -/
def Last (consumed : List Consumed) : Prop :=
  consumed.Pairwise fun earlier later => ∀ handled, earlier = .block handled → handled.result = 1 →
    isBlock later = false

section
variable {Derived Schedule : Type} (virtuals : Virtuals Derived) (ciphers : Ciphers Schedule)

/-- LoggedInNtf succeeds by leaving ONCONNECTION, and no packet leads back. -/
structure Advances : Prop where
  loggedIn : ∀ derived, (virtuals.loggedInNtf derived).1 = 0 →
    virtuals.currState (virtuals.loggedInNtf derived).2 ≠ sessionStateOnConnection
  packets : ∀ packet derived, virtuals.currState derived ≠ sessionStateOnConnection →
    virtuals.currState (virtuals.onPacketReceived packet derived) ≠ sessionStateOnConnection

/-- Nothing is written past a buffer, a login is accepted for a whole token packet only, and no received
byte is part of a block after it. -/
structure Guards (run : DataRun Derived Schedule) : Prop where
  safe : run.exit ≠ .undefined
  exact : Accepted run.consumed → Complete run.session.tokenPacket
  last : Last run.consumed

def front (session : Session Derived Schedule) : List UInt8 := session.recvBuf.take ciphers.privateKeyLen

/-- The piece in the block at the front of m_RecvBuf fits what is left of m_TokenPacket. -/
def PieceFits (session : Session Derived Schedule) : Prop :=
  ∀ piece, ciphers.privateDecrypt (front ciphers session) = some piece →
    session.tokenPacket.length + piece.length ≤ sizeofTokenPacket

/-- The key and the token in the collected bytes are accepted, and the session has been told. -/
def Passes (collected : List UInt8) (derived : Derived) : Prop :=
  (∃ schedule, ciphers.setKeyChecked (check collected).desBlock = some schedule) ∧
    let (valid,derived) := virtuals.checkLoginToken (check collected).tokenLen (check collected).tokenBuf derived
    valid = 0 ∧ (virtuals.popOutputBuffer derived).1 = true ∧
      (virtuals.loggedInNtf (virtuals.randomKey (virtuals.popOutputBuffer derived).2).2).1 = 0

/-- The block at the front completes a token that is accepted. -/
def Completes (session : Session Derived Schedule) : Prop :=
  ∃ piece, ciphers.privateDecrypt (front ciphers session) = some piece ∧
    Complete (session.tokenPacket ++ piece) ∧
    Passes virtuals ciphers (session.tokenPacket ++ piece) session.derived

/-- Of the blocks in the buffer each fits, and none is behind the last block of an accepted token. -/
def BlocksFit : Nat → Session Derived Schedule → Prop
  | 0, _ => True
  | fuel + 1, session =>
    ciphers.privateKeyLen ≤ session.recvBuf.length →
      PieceFits ciphers session ∧
      (Completes virtuals ciphers session → session.recvBuf.length < 2 * ciphers.privateKeyLen) ∧
      ∀ handled next, handleLoginPacket virtuals ciphers (front ciphers session) session = some (handled,next) →
        0 ≤ handled.result → BlocksFit fuel {next with recvBuf := next.recvBuf.drop ciphers.privateKeyLen}

/-- Every copy of the chunk fits m_RecvBuf, and so do the blocks that it completes. -/
def CopiesFit : Nat → Session Derived Schedule → List UInt8 → Prop
  | 0, _, _ => True
  | fuel + 1, session, chunk =>
    let count := copyLength packetLoop session.recvBuf chunk
    let filled := {session with recvBuf := session.recvBuf ++ chunk.take count}
    (session.recvBuf.length + count ≤ maxInputBuffer ∧ count ≤ chunk.length) ∧
      if virtuals.currState session.derived = sessionStateOnConnection then
        BlocksFit virtuals ciphers fuel filled ∧
          let login := loginLoop virtuals ciphers fuel filled
          (login.outcome = .left → chunk.drop count ≠ [] → CopiesFit fuel login.session (chunk.drop count))
      else
        let inner := drain packetLoop fuel filled.recvBuf
        let packets := (calls inner.actions).map fun call => call.1
        ∀ left, inner.outcome = .left left → chunk.drop count ≠ [] → CopiesFit fuel
          {filled with
            derived := packets.foldl (fun derived packet => virtuals.onPacketReceived packet derived)
              session.derived
            recvBuf := left} (chunk.drop count)

def DatasFit (fuel : Nat) : Session Derived Schedule → List Chunk → Prop
  | _, [] => True
  | session, chunk :: chunks =>
    (virtuals.onDataState session.derived = virtuals.currState session.derived →
      CopiesFit virtuals ciphers fuel session chunk.val) ∧
    let first := onData virtuals ciphers fuel session chunk.val
    (first.exit = .returned → DatasFit fuel first.session chunks)

/-- The login is over: no received byte is part of a block any more. -/
def Past (session : Session Derived Schedule) : Prop :=
  virtuals.currState session.derived ≠ sessionStateOnConnection

/-- What holds of a run is known behind it, too. -/
structure Sound (run : DataRun Derived Schedule) : Prop extends Guards run where
  past : Accepted run.consumed → Past virtuals run.session

structure Quiet (session : Session Derived Schedule) (run : DataRun Derived Schedule) : Prop where
  unblocked : ∀ consumed ∈ run.consumed, isBlock consumed = false
  kept : run.session.tokenPacket = session.tokenPacket
  past : Past virtuals run.session

omit virtuals ciphers in
theorem quiet_unaccepted (consumed : List Consumed) (unblocked : ∀ part ∈ consumed, isBlock part = false) :
    ¬ Accepted consumed ∧ Last consumed := by
  constructor
  · rintro ⟨handled,member,-⟩
    cases unblocked _ member
  · refine List.pairwise_of_forall_mem_list fun earlier before later _ handled same => ?_
    rw [same] at before
    cases unblocked _ before

omit virtuals ciphers in
theorem last_append (first rest : List Consumed) (before : Last first) (behind : Last rest)
    (apart : Accepted first → ∀ part ∈ rest, isBlock part = false) : Last (first ++ rest) := by
  refine List.pairwise_append.mpr ⟨before,behind,?_⟩
  rintro earlier member later found handled rfl accepted
  exact apart ⟨handled,member,accepted⟩ later found

theorem sound_after (session : Session Derived Schedule) (consumed : List Consumed)
    (run : DataRun Derived Schedule) (before : Last consumed)
    (ended : Accepted consumed → Complete session.tokenPacket ∧ Past virtuals session)
    (sound : Sound virtuals run) (quiet : Past virtuals session → Quiet virtuals session run) :
    Sound virtuals (run.after consumed) := by
  have either : Accepted (consumed ++ run.consumed) → Accepted consumed ∨ Accepted run.consumed := by
    rintro ⟨handled,member,accepted⟩
    rcases List.mem_append.mp member with first | later
    · exact .inl ⟨handled,first,accepted⟩
    · exact .inr ⟨handled,later,accepted⟩
  refine ⟨⟨sound.safe,?_,?_⟩,?_⟩
  · intro accepted
    rcases either accepted with first | later
    · obtain ⟨complete,past⟩ := ended first
      change Complete run.session.tokenPacket
      rw [(quiet past).kept]
      exact complete
    · exact sound.exact later
  · exact last_append _ _ before sound.last fun accepted => (quiet (ended accepted).2).unblocked
  · intro accepted
    rcases either accepted with first | later
    · exact (quiet (ended first).2).past
    · exact sound.past later

theorem quiet_after (session next : Session Derived Schedule) (consumed : List Consumed)
    (run : DataRun Derived Schedule) (unblocked : ∀ part ∈ consumed, isBlock part = false)
    (same : next.tokenPacket = session.tokenPacket) (quiet : Quiet virtuals next run) :
    Quiet virtuals session (run.after consumed) := by
  refine ⟨?_,quiet.kept.trans same,quiet.past⟩
  intro part member
  rcases List.mem_append.mp member with first | later
  · exact unblocked part first
  · exact quiet.unblocked part later

omit ciphers in
theorem unblocked_sound (run : DataRun Derived Schedule) (safe : run.exit ≠ .undefined)
    (unblocked : ∀ part ∈ run.consumed, isBlock part = false) : Sound virtuals run := by
  obtain ⟨unaccepted,last⟩ := quiet_unaccepted run.consumed unblocked
  exact ⟨⟨safe,fun accepted => absurd accepted unaccepted,last⟩,fun accepted => absurd accepted unaccepted⟩

omit virtuals ciphers in
theorem packets_unblocked (packets : List ServerPacket) :
    ∀ part ∈ packets.map Consumed.packet, isBlock part = false := by
  intro part member
  obtain ⟨packet,-,rfl⟩ := List.mem_map.mp member
  rfl

theorem packets_past (advances : Advances virtuals) (packets : List ServerPacket) (derived : Derived)
    (past : virtuals.currState derived ≠ sessionStateOnConnection) :
    virtuals.currState (packets.foldl (fun derived packet => virtuals.onPacketReceived packet derived) derived) ≠
      sessionStateOnConnection := by
  induction packets generalizing derived with
  | nil => exact past
  | cons packet packets ih => exact ih _ (advances.packets packet derived past)

theorem onDataCopies_quiet (advances : Advances virtuals) (fuel : Nat) (session : Session Derived Schedule)
    (chunk : List UInt8) (past : Past virtuals session) :
    Quiet virtuals session (onDataCopies virtuals ciphers fuel session chunk) := by
  induction fuel generalizing session chunk with
  | zero => exact ⟨by simp [onDataCopies],rfl,past⟩
  | succ fuel ih =>
    rw [onDataCopies]
    dsimp only
    split
    · rw [if_neg past]
      have later := packets_past virtuals advances
      have unblocked := packets_unblocked
      split
      · exact ⟨unblocked _,rfl,later _ _ past⟩
      · exact ⟨unblocked _,rfl,later _ _ past⟩
      · split
        · exact ⟨unblocked _,rfl,later _ _ past⟩
        · refine quiet_after virtuals session _ _ _ (unblocked _) ?_ (ih _ _ ?_)
          · rfl
          · exact later _ _ past
    · exact ⟨by simp,rfl,past⟩

theorem onData_quiet (advances : Advances virtuals) (fuel : Nat) (session : Session Derived Schedule)
    (chunk : List UInt8) (past : Past virtuals session) :
    Quiet virtuals session (onData virtuals ciphers fuel session chunk) := by
  rw [onData]
  split
  · exact ⟨by simp,rfl,past⟩
  · exact onDataCopies_quiet virtuals ciphers advances fuel session chunk past

theorem onDatas_quiet (advances : Advances virtuals) (fuel : Nat) (session : Session Derived Schedule)
    (chunks : List Chunk) (past : Past virtuals session) :
    Quiet virtuals session (onDatas virtuals ciphers fuel session chunks) := by
  induction chunks generalizing session with
  | nil => exact ⟨by simp [onDatas],rfl,past⟩
  | cons chunk chunks ih =>
    have first := onData_quiet virtuals ciphers advances fuel session chunk.val past
    rw [onDatas]
    split
    · exact quiet_after virtuals session _ _ _ first.unblocked first.kept (ih _ first.past)
    · exact first

theorem handleLoginPacket_fits (session : Session Derived Schedule) (fits : PieceFits ciphers session) :
    handleLoginPacket virtuals ciphers (front ciphers session) session ≠ none := by
  rw [handleLoginPacket]
  split
  · simp
  next piece decrypted =>
    have inside := fits piece decrypted
    dsimp only
    rw [if_neg (by rw [List.length_append]; omega)]
    split
    · simp
    · split
      · simp
      · split <;> simp

/-- A session with the same received bytes and the same collected ones. -/
def Keeps (s t : Session Derived Schedule) : Prop := t.recvBuf = s.recvBuf ∧ t.tokenPacket = s.tokenPacket

theorem acceptToken_keeps (session : Session Derived Schedule) :
    Keeps session (acceptToken virtuals ciphers session).2 := by
  rw [acceptToken]
  dsimp only
  split
  · exact ⟨rfl,rfl⟩
  · split
    · exact ⟨rfl,rfl⟩
    · exact ⟨rfl,rfl⟩

theorem checkToken_keeps (session : Session Derived Schedule) :
    Keeps session (checkToken virtuals ciphers session).2 := by
  rw [checkToken]
  dsimp only
  split
  · exact ⟨rfl,rfl⟩
  · split
    · exact ⟨rfl,rfl⟩
    · exact acceptToken_keeps virtuals ciphers _

theorem handleLoginPacket_recvBuf (session next : Session Derived Schedule) (block : List UInt8)
    (handled : Handled) (result : handleLoginPacket virtuals ciphers block session = some (handled,next)) :
    next.recvBuf = session.recvBuf := by
  rw [handleLoginPacket] at result
  split at result
  · cases result
    rfl
  next piece _ =>
    dsimp only at result
    split at result
    · cases result
    · split at result
      · cases result
        rfl
      · split at result
        · cases result
          rfl
        · split at result
          · have kept := checkToken_keeps virtuals ciphers {session with tokenPacket := session.tokenPacket ++ piece}
            rw [Option.some.inj result] at kept
            exact kept.1
          · cases result
            rfl

theorem acceptToken_accepted (advances : Advances virtuals) (session : Session Derived Schedule)
    (accepted : (acceptToken virtuals ciphers session).1.result = 1) :
    (virtuals.popOutputBuffer session.derived).1 = true ∧
      (virtuals.loggedInNtf (virtuals.randomKey (virtuals.popOutputBuffer session.derived).2).2).1 = 0 ∧
      Past virtuals (acceptToken virtuals ciphers session).2 := by
  rw [acceptToken] at accepted ⊢
  dsimp only at accepted ⊢
  split
  next popped => rw [popped] at accepted; cases accepted
  next derived popped =>
    rw [popped] at accepted
    rw [popped]
    by_cases told : (virtuals.loggedInNtf (virtuals.randomKey derived).2).1 = 0
    · rw [if_neg (not_not_intro told)]
      exact ⟨rfl,told,advances.loggedIn _ told⟩
    · dsimp only at accepted
      rw [if_pos told] at accepted
      cases accepted

theorem checkToken_accepted (advances : Advances virtuals) (session : Session Derived Schedule)
    (accepted : (checkToken virtuals ciphers session).1.result = 1) :
    Passes virtuals ciphers session.tokenPacket session.derived ∧
      Past virtuals (checkToken virtuals ciphers session).2 := by
  rw [checkToken] at accepted ⊢
  dsimp only at accepted ⊢
  split
  next refused => rw [refused] at accepted; cases accepted
  next schedule checked =>
    rw [checked] at accepted
    dsimp only at accepted
    by_cases valid : (virtuals.checkLoginToken (check session.tokenPacket).tokenLen
        (check session.tokenPacket).tokenBuf session.derived).1 = 0
    · rw [if_neg (not_not_intro valid)] at accepted ⊢
      obtain ⟨popped,told,past⟩ := acceptToken_accepted virtuals ciphers advances _ accepted
      exact ⟨⟨⟨schedule,checked⟩,valid,popped,told⟩,past⟩
    · rw [if_pos valid] at accepted
      cases accepted

theorem handleLoginPacket_accepted (advances : Advances virtuals) (session next : Session Derived Schedule)
    (handled : Handled)
    (result : handleLoginPacket virtuals ciphers (front ciphers session) session = some (handled,next))
    (accepted : handled.result = 1) :
    Completes virtuals ciphers session ∧ Complete next.tokenPacket ∧ Past virtuals next := by
  rw [handleLoginPacket] at result
  split at result
  · cases result
    cases accepted
  next piece decrypted =>
    dsimp only at result
    split at result
    · cases result
    · split at result
      · cases result
        cases accepted
      · split at result
        · cases result
          cases accepted
        next bounded =>
          obtain ⟨long,short⟩ := not_or.mp bounded
          split at result
          next whole =>
            let collected := {session with tokenPacket := session.tokenPacket ++ piece}
            have same : checkToken virtuals ciphers collected = (handled,next) := Option.some.inj result
            have checked := checkToken_accepted virtuals ciphers advances collected (by rw [same]; exact accepted)
            have kept := (checkToken_keeps virtuals ciphers collected).2
            rw [same] at checked kept
            obtain ⟨passes,past⟩ := checked
            have complete : Complete (session.tokenPacket ++ piece) := by
              have most : maxTokenLen = 512 := rfl
              have head : tokenHead = 10 := rfl
              rw [Nat.mod_eq_of_lt (by omega)] at whole
              exact ⟨whole.symm,Nat.not_lt.mp short⟩
            refine ⟨⟨piece,decrypted,complete,passes⟩,?_,past⟩
            change next.tokenPacket = session.tokenPacket ++ piece at kept
            rw [kept]
            exact complete
          · cases result
            cases accepted

theorem loginLoop_short (fuel : Nat) (session : Session Derived Schedule)
    (few : session.recvBuf.length < ciphers.privateKeyLen) :
    (loginLoop virtuals ciphers fuel session).handled = [] ∧
      (loginLoop virtuals ciphers fuel session).session = session := by
  cases fuel with
  | zero => exact ⟨rfl,rfl⟩
  | succ fuel =>
    rw [loginLoop,if_neg (Nat.not_le.mpr few)]
    exact ⟨rfl,rfl⟩

theorem loginLoop_sound (advances : Advances virtuals) (fuel : Nat) (session : Session Derived Schedule)
    (fit : BlocksFit virtuals ciphers fuel session) :
    let run := loginLoop virtuals ciphers fuel session
    let consumed := run.handled.map Consumed.block
    run.outcome ≠ .undefined ∧ Last consumed ∧
      (Accepted consumed → Complete run.session.tokenPacket ∧ Past virtuals run.session) := by
  dsimp only
  have none (session : Session Derived Schedule) : Accepted [] → Complete session.tokenPacket ∧
      Past virtuals session := by
    rintro ⟨handled,member,-⟩
    cases member
  induction fuel generalizing session with
  | zero => exact ⟨by simp [loginLoop],.nil,none session⟩
  | succ fuel ih =>
    rw [loginLoop]
    by_cases full : ciphers.privateKeyLen ≤ session.recvBuf.length
    · rw [if_pos full]
      obtain ⟨piece,alone,others⟩ := fit full
      cases result : handleLoginPacket virtuals ciphers (front ciphers session) session with
      | none => exact absurd result (handleLoginPacket_fits virtuals ciphers session piece)
      | some pair =>
        obtain ⟨handled,tried⟩ := pair
        change (handleLoginPacket virtuals ciphers (session.recvBuf.take ciphers.privateKeyLen) session = _) at result
        rw [result]
        dsimp only
        by_cases refused : handled.result < 0
        · rw [if_pos refused]
          have unaccepted : ¬ Accepted [Consumed.block handled] := by
            rintro ⟨other,member,accepted⟩
            obtain rfl := Consumed.block.inj (List.mem_singleton.mp member)
            omega
          exact ⟨by simp,List.pairwise_singleton ..,fun accepted => absurd accepted unaccepted⟩
        · rw [if_neg refused]
          have rest := ih _ (others handled tried result (Int.not_lt.mp refused))
          by_cases accepted : handled.result = 1
          · obtain ⟨completes,complete,past⟩ :=
              handleLoginPacket_accepted virtuals ciphers advances session tried handled result accepted
            have buffered := handleLoginPacket_recvBuf virtuals ciphers session tried _ handled result
            have few : (tried.recvBuf.drop ciphers.privateKeyLen).length < ciphers.privateKeyLen := by
              have bound := alone completes
              rw [buffered,List.length_drop]
              omega
            obtain ⟨empty,same⟩ := loginLoop_short virtuals ciphers fuel
              {tried with recvBuf := tried.recvBuf.drop ciphers.privateKeyLen} few
            refine ⟨rest.1,?_,fun _ => ?_⟩
            · rw [empty]
              exact List.pairwise_singleton ..
            · rw [same]
              exact ⟨complete,past⟩
          · obtain ⟨safe,last,ended⟩ := rest
            have unaccepted : ¬ Accepted [Consumed.block handled] := by
              rintro ⟨other,member,success⟩
              obtain rfl := Consumed.block.inj (List.mem_singleton.mp member)
              exact accepted success
            refine ⟨safe,?_,?_⟩
            · exact last_append [.block handled] _ (List.pairwise_singleton ..) last
                fun success => absurd success unaccepted
            · rintro ⟨other,member,success⟩
              rcases List.mem_cons.mp member with same | later
              · exact absurd ⟨other,List.mem_singleton.mpr same,success⟩ unaccepted
              · exact ended ⟨other,later,success⟩
    · rw [if_neg full]
      exact ⟨by simp,.nil,none session⟩

theorem onDataCopies_sound (advances : Advances virtuals) (fuel : Nat) (session : Session Derived Schedule)
    (chunk : List UInt8) (fit : CopiesFit virtuals ciphers fuel session chunk) :
    Sound virtuals (onDataCopies virtuals ciphers fuel session chunk) := by
  induction fuel generalizing session chunk with
  | zero =>
    exact unblocked_sound virtuals _ (by simp [onDataCopies]) (by simp [onDataCopies])
  | succ fuel ih =>
    obtain ⟨room,within⟩ := fit
    rw [onDataCopies]
    dsimp only
    rw [if_pos room]
    by_cases connecting : virtuals.currState session.derived = sessionStateOnConnection
    · rw [if_pos connecting] at within ⊢
      obtain ⟨blocks,others⟩ := within
      obtain ⟨safe,last,ended⟩ := loginLoop_sound virtuals ciphers advances fuel _ blocks
      dsimp only at others
      generalize loginLoop virtuals ciphers fuel _ = login at *
      have stops (exit : DataEnd) (fine : exit ≠ .undefined) :
          Sound virtuals ⟨login.handled.map .block,exit,login.session⟩ :=
        ⟨⟨fine,fun accepted => (ended accepted).1,last⟩,fun accepted => (ended accepted).2⟩
      cases outcome : login.outcome with
      | running => exact stops .running (by simp)
      | undefined => exact absurd outcome safe
      | refused => exact stops .returned (by simp)
      | left =>
        dsimp only
        split
        · exact stops .returned (by simp)
        next more =>
          have rest := ih _ _ (others outcome (by simpa using more))
          exact sound_after virtuals login.session _ _ last ended rest
            (onDataCopies_quiet virtuals ciphers advances fuel login.session _)
    · rw [if_neg connecting] at within ⊢
      dsimp only at within
      generalize drain packetLoop fuel _ = inner at *
      have unblocked := packets_unblocked ((calls inner.actions).map fun call => call.1)
      cases outcome : inner.outcome with
      | running => exact unblocked_sound virtuals _ (by simp) unblocked
      | refused left => exact unblocked_sound virtuals _ (by simp) unblocked
      | left left =>
        dsimp only
        split
        · exact unblocked_sound virtuals _ (by simp) unblocked
        next more =>
          have rest := ih _ _ (within left outcome (by simpa using more))
          obtain ⟨unaccepted,last⟩ := quiet_unaccepted _ unblocked
          exact sound_after virtuals _ _ _ last (fun accepted => absurd accepted unaccepted) rest
            (onDataCopies_quiet virtuals ciphers advances fuel _ _)

theorem onDatas_sound (advances : Advances virtuals) (fuel : Nat) (session : Session Derived Schedule)
    (chunks : List Chunk) (fit : DatasFit virtuals ciphers fuel session chunks) :
    Sound virtuals (onDatas virtuals ciphers fuel session chunks) := by
  induction chunks generalizing session with
  | nil => exact unblocked_sound virtuals _ (by simp [onDatas]) (by simp [onDatas])
  | cons chunk chunks ih =>
    obtain ⟨copies,others⟩ := fit
    have first : Sound virtuals (onData virtuals ciphers fuel session chunk.val) := by
      rw [onData]
      split
      · exact unblocked_sound virtuals _ (by simp) (by simp)
      next takes =>
        exact onDataCopies_sound virtuals ciphers advances fuel session chunk.val (copies (not_not.mp takes))
    rw [onDatas]
    dsimp only at others ⊢
    generalize onData virtuals ciphers fuel session chunk.val = run at *
    cases exit : run.exit with
    | returned =>
      exact sound_after virtuals run.session _ _ first.last (fun accepted => ⟨first.exact accepted,first.past accepted⟩)
        (ih _ (others exit)) (onDatas_quiet virtuals ciphers advances fuel run.session chunks)
    | undefined => exact first
    | running => exact first

end

/-- Received bytes whose copies and blocks all fit are taken as a login ought to be, at every stage of it. -/
theorem onDatas_guards {Derived Schedule : Type} (virtuals : Virtuals Derived) (ciphers : Ciphers Schedule)
    (advances : Advances virtuals) (fuel : Nat) (session : Session Derived Schedule) (chunks : List Chunk)
    (fit : DatasFit virtuals ciphers fuel session chunks) :
    Guards (onDatas virtuals ciphers fuel session chunks) :=
  (onDatas_sound virtuals ciphers advances fuel session chunks fit).toGuards

/-- A private key of 128 bytes, whose blocks begin with the length of their piece. -/
def cutCiphers : Ciphers Unit where
  privateKeyLen := 128
  privateDecrypt := fun block => block.head?.map fun length => block.tail.take (min length.toNat 117)
  setKeyChecked := fun _ => some ()
  setKey := fun _ => ()
  encrypt := fun _ key => key

theorem plainSession_advances : Advances plainSession where
  loggedIn := fun _ _ => by
    change (4 : Int) ≠ 1
    decide
  packets := fun _ _ past => past

theorem cutCiphers_short (block piece : List UInt8) (decrypted : cutCiphers.privateDecrypt block = some piece) :
    piece.length ≤ cutCiphers.privateKeyLen - 11 := by
  obtain ⟨length,-,rfl⟩ := Option.map_eq_some_iff.mp decrypted
  rw [List.length_take]
  change _ ≤ 117
  omega

def plainBlock : List UInt8 := 14 :: (List.replicate 8 1 ++ [4,0,97,59,98,0] ++ List.replicate 113 0)

theorem plainBlock_chunk : plainBlock ≠ [] ∧ plainBlock.length < 2^16 := by decide +kernel

theorem onDatas_guards_block :
    let run := onDatas plainSession cutCiphers 9 ⟨[],[],(),[],1⟩ [⟨plainBlock,plainBlock_chunk⟩]
    Accepted run.consumed ∧ Guards run := by
  refine ⟨⟨⟨1,some (check (plainBlock.tail.take 14)),some (List.replicate 8 1)⟩,by decide +kernel,rfl⟩,?_⟩
  refine onDatas_guards plainSession cutCiphers plainSession_advances 9 ⟨[],[],(),[],1⟩
    [⟨plainBlock,plainBlock_chunk⟩] ⟨fun _ => ⟨by decide +kernel,?_⟩,fun _ => trivial⟩
  have connecting : plainSession.currState 1 = sessionStateOnConnection := rfl
  refine (if_pos connecting).mpr ⟨fun _ => ⟨?_,fun _ => by decide +kernel,?_⟩,fun _ more => absurd ?_ more⟩
  · intro piece decrypted
    have short := cutCiphers_short _ piece decrypted
    change 0 + piece.length ≤ 522
    change piece.length ≤ 117 at short
    omega
  · intro handled next result _ full
    have kept := handleLoginPacket_recvBuf plainSession cutCiphers _ next _ handled result
    have length : next.recvBuf.length = 128 := by
      rw [kept]
      decide +kernel
    change 128 ≤ (next.recvBuf.drop 128).length at full
    rw [List.length_drop,length] at full
    omega
  · decide +kernel

/-- Five full blocks of a token packet whose token has 512 bytes. -/
def longBlocks : List UInt8 :=
  117 :: (List.replicate 8 1 ++ [0,2] ++ List.replicate 117 0) ++
    (List.replicate 4 (117 :: List.replicate 127 0)).flatten

theorem longBlocks_chunk : longBlocks ≠ [] ∧ longBlocks.length < 2^16 := by decide +kernel

/-- The last piece is written 63 bytes past m_TokenPacket before its length is tested. -/
theorem onDatas_guards_overrun :
    let run := onDatas plainSession cutCiphers 9 ⟨[],[],(),[],1⟩ [⟨longBlocks,longBlocks_chunk⟩]
    run.exit = .undefined ∧ ¬ Guards run := by
  intro run
  have left : run.exit = .undefined := by decide +kernel
  exact ⟨left,fun guards => guards.safe left⟩

end Fantuan.LoginGuards

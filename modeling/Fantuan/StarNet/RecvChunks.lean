import Fantuan.StarNet.RecvStream

/-! The outer receive loop over one chunk and over a sequence of chunks. Each round
either copies what is left of the chunk or the amount by which it overruns the
buffer, so a chunk is taken in whole exactly when `Fits` holds of it.
-/
namespace Fantuan.StarNet.RecvChunks
open Lib.Frames RecvLoop RecvStream

variable {Packet : Type} (loop : Loop Packet)

def Inside (buf chunk : List UInt8) : Prop :=
  buf.length + copyLength loop buf chunk ≤ loop.bufSize ∧ copyLength loop buf chunk ≤ chunk.length

def copied (buf chunk : List UInt8) : List UInt8 := buf ++ chunk.take (copyLength loop buf chunk)

def remaining (buf chunk : List UInt8) : List UInt8 := chunk.drop (copyLength loop buf chunk)

private def copyAction (buf chunk : List UInt8) : Action Packet :=
  .copy buf.length (copyLength loop buf chunk) chunk.length

theorem copied_remaining (buf chunk : List UInt8) :
    copied loop buf chunk ++ remaining loop buf chunk = buf ++ chunk := by
  simp [copied,remaining]

theorem copied_length (buf chunk : List UInt8) (inside : Inside loop buf chunk) :
    (copied loop buf chunk).length = buf.length + copyLength loop buf chunk := by
  have bound := inside.2
  simp only [copied,List.length_append,List.length_take]
  omega

theorem remaining_length (buf chunk : List UInt8) :
    (remaining loop buf chunk).length = chunk.length - copyLength loop buf chunk := by
  simp [remaining]

private theorem remaining_wide (buf chunk : List UInt8) (wide : chunk.length < 2^loop.lenBits) :
    (remaining loop buf chunk).length < 2^loop.lenBits := by
  rw [remaining_length]
  omega

theorem copyLength_progress (buf chunk : List UInt8) (held : buf.length ≤ loop.bufSize)
    (wide : chunk.length < 2^loop.lenBits) (more : remaining loop buf chunk ≠ []) :
    0 < copyLength loop buf chunk := by
  have nonempty : 0 < chunk.length := by
    by_contra zero
    apply more
    apply List.length_eq_zero_iff.mp
    rw [remaining_length]
    omega
  have modulo := Nat.mod_le (buf.length + chunk.length) (2^32)
  rw [copyLength]
  split
  · exact nonempty
  · rw [Nat.mod_eq_of_lt (by omega)]
    omega

theorem fits_round (buf chunk : List UInt8) (held : buf.length ≤ loop.bufSize)
    (wide : chunk.length < 2^loop.lenBits) :
    Fits loop.format loop.bufSize buf chunk ↔ Inside loop buf chunk ∧
      Fits loop.format loop.bufSize (tail loop.format (copied loop buf chunk))
        (remaining loop buf chunk) := by
  have bufBound := loop.bufBound
  have lenBound := Nat.pow_le_pow_right (by omega : 0 < 2) loop.lenBound
  by_cases room : buf.length + chunk.length ≤ loop.bufSize
  · have count := copyLength_whole loop buf chunk room
    have inside : Inside loop buf chunk := by
      simp only [Inside,count]
      omega
    have shorter := tail_length loop.format (copied loop buf chunk)
    have length := copied_length loop buf chunk inside
    have rest := remaining_length loop buf chunk
    refine iff_of_true (fits_whole _ _ _ _ room) ⟨inside,fits_whole _ _ _ _ ?_⟩
    omega
  · have overrun : loop.bufSize < buf.length + chunk.length := by omega
    rw [fits_over loop.format loop.bufSize buf chunk overrun]
    by_cases noWrap : buf.length + chunk.length < 2^32
    · have count := copyLength_over loop buf chunk held wide overrun noWrap
      simp only [Inside,copied,remaining,count]
      constructor
      · rintro ⟨room,rest⟩
        exact ⟨⟨room,by omega⟩,rest⟩
      · rintro ⟨⟨room,-⟩,rest⟩
        exact ⟨room,rest⟩
    · -- a sum that wraps round copies a whole chunk of nearly 2^32 bytes
      have outside : ¬ Inside loop buf chunk := by
        simp only [Inside,copyLength]
        split
        · omega
        · rw [Nat.mod_eq_of_lt (by omega)]
          omega
      constructor
      · rintro ⟨room,-⟩
        omega
      · rintro ⟨inside,-⟩
        exact absurd inside outside

private def innerActions (fuel : Nat) (buf chunk : List UInt8) : List (Action Packet) :=
  copyAction loop buf chunk :: (drain loop fuel (copied loop buf chunk)).actions

private theorem receive_inside (fuel : Nat) (buf chunk : List UInt8) (inside : Inside loop buf chunk) :
    receive loop (fuel + 1) buf chunk =
      match (drain loop fuel (copied loop buf chunk)).outcome with
      | .running => ⟨innerActions loop fuel buf chunk,.running⟩
      | .refused left => ⟨innerActions loop fuel buf chunk,.returned left⟩
      | .left left =>
        if (remaining loop buf chunk).isEmpty then ⟨innerActions loop fuel buf chunk,.returned left⟩
        else (receive loop fuel left (remaining loop buf chunk)).after
          (innerActions loop fuel buf chunk) := by
  rw [receive]
  exact if_pos inside

private theorem receive_left (fuel : Nat) (buf chunk rest : List UInt8) (inside : Inside loop buf chunk)
    (left : (drain loop fuel (copied loop buf chunk)).outcome = .left rest) :
    receive loop (fuel + 1) buf chunk =
      if remaining loop buf chunk = [] then ⟨innerActions loop fuel buf chunk,.returned rest⟩
      else (receive loop fuel rest (remaining loop buf chunk)).after
        (innerActions loop fuel buf chunk) := by
  rw [receive_inside loop fuel buf chunk inside,left]
  simp only [List.isEmpty_iff]

private theorem receive_running (fuel : Nat) (buf chunk : List UInt8) (inside : Inside loop buf chunk)
    (going : (drain loop fuel (copied loop buf chunk)).outcome = .running) :
    receive loop (fuel + 1) buf chunk = ⟨innerActions loop fuel buf chunk,.running⟩ := by
  rw [receive_inside loop fuel buf chunk inside,going]

theorem receive_good_round (fuel : Nat) (buf chunk : List UInt8)
    (good : AllGood loop (receive loop (fuel + 1) buf chunk).actions) :
    Inside loop buf chunk ∧ AllGood loop (drain loop fuel (copied loop buf chunk)).actions := by
  by_cases inside : Inside loop buf chunk
  · refine ⟨inside,?_⟩
    have start : AllGood loop (innerActions loop fuel buf chunk) := by
      rw [receive_inside loop fuel buf chunk inside] at good
      split at good
      · exact good
      · exact good
      · split at good
        · exact good
        · exact ((allGood_append loop _ _).mp good).1
    exact ((allGood_cons loop _ _).mp start).2
  · have only : receive loop (fuel + 1) buf chunk = ⟨[copyAction loop buf chunk],.undefined⟩ := by
      rw [receive]
      exact if_neg inside
    rw [only] at good
    exact absurd (good (copyAction loop buf chunk) (by simp)) inside

theorem receive_delivers (fuel : Nat) (buf chunk : List UInt8) (held : buf.length ≤ loop.bufSize)
    (wide : chunk.length < 2^loop.lenBits) (fits : Fits loop.format loop.bufSize buf chunk)
    (short : Heads loop.format Short (buf ++ chunk)) (accepted : Accepted loop (buf ++ chunk))
    (enough : buf.length + 2 * chunk.length + 1 < fuel) :
    (receive loop fuel buf chunk).exit = .returned (tail loop.format (buf ++ chunk)) ∧
      calls (receive loop fuel buf chunk).actions = delivered loop (buf ++ chunk) := by
  induction fuel generalizing buf chunk with
  | zero => omega
  | succ fuel ih =>
    obtain ⟨inside,others⟩ := (fits_round loop buf chunk held wide).mp fits
    have whole := copied_remaining loop buf chunk
    have length := copied_length loop buf chunk inside
    have rest := remaining_length loop buf chunk
    have bound := inside.2
    rw [← whole] at short accepted ⊢
    obtain ⟨shortNow,shortLater⟩ := (heads_append loop.format Short _ _).mp short
    obtain ⟨acceptedNow,acceptedLater⟩ := (accepted_append loop _ _).mp accepted
    obtain ⟨left,handedOver⟩ := drain_delivers loop _ shortNow acceptedNow fuel (by omega)
    rw [receive_left loop fuel buf chunk _ inside left]
    split
    next ended => simp [ended,calls,innerActions,copyAction,handedOver]
    next more =>
      have progress := copyLength_progress loop buf chunk held wide more
      have shorter := tail_length loop.format (copied loop buf chunk)
      have room := inside.1
      obtain ⟨returned,later⟩ := ih (tail loop.format (copied loop buf chunk))
        (remaining loop buf chunk) (by omega) (remaining_wide loop buf chunk wide) others shortLater
        acceptedLater (by omega)
      constructor
      · rw [tail_append]
        exact returned
      · rw [delivered_append,← handedOver,← later]
        simp [Run.after,calls,innerActions,copyAction,calls_append]

private theorem near_mono (bytes : List UInt8) (short : Heads loop.format Short bytes) :
    Heads loop.format (Near loop) bytes := by
  have wider (n : Nat) (small : Short n) : Near loop n := by
    simp only [Near,Short] at *
    omega
  exact ⟨fun frame member => wider _ (short.1 frame member),fun enough => wider _ (short.2 enough)⟩

private theorem copied_bound (buf chunk : List UInt8) (inside : Inside loop buf chunk) :
    (copied loop buf chunk).length ≤ loop.bufSize := by
  rw [copied_length loop buf chunk inside]
  exact inside.1

theorem receive_good (fuel : Nat) (buf chunk : List UInt8) (held : buf.length ≤ loop.bufSize)
    (wide : chunk.length < 2^loop.lenBits) (fits : Fits loop.format loop.bufSize buf chunk)
    (short : Heads loop.format Short (buf ++ chunk)) (accepted : Accepted loop (buf ++ chunk)) :
    AllGood loop (receive loop fuel buf chunk).actions := by
  induction fuel generalizing buf chunk with
  | zero => simp [receive,AllGood]
  | succ fuel ih =>
    obtain ⟨inside,others⟩ := (fits_round loop buf chunk held wide).mp fits
    have whole := copied_remaining loop buf chunk
    have length := copied_length loop buf chunk inside
    rw [← whole] at short accepted
    obtain ⟨shortNow,shortLater⟩ := (heads_append loop.format Short _ _).mp short
    obtain ⟨acceptedNow,acceptedLater⟩ := (accepted_append loop _ _).mp accepted
    have inner := drain_good loop _ shortNow acceptedNow fuel
    have first : AllGood loop (innerActions loop fuel buf chunk) :=
      (allGood_cons loop _ _).mpr ⟨inside,inner⟩
    cases outcome : (drain loop fuel (copied loop buf chunk)).outcome with
    | left rest =>
      have bound := copied_bound loop buf chunk inside
      obtain ⟨-,-,rfl⟩ := drain_short loop fuel _ rest (Nat.le_trans bound loop.bufBound)
        (near_mono loop _ shortNow) outcome inner
      rw [receive_left loop fuel buf chunk _ inside outcome]
      split
      · exact first
      · have shorter := tail_length loop.format (copied loop buf chunk)
        have room := inside.1
        exact (allGood_append loop _ _).mpr ⟨first,ih _ _ (by omega)
          (remaining_wide loop buf chunk wide) others shortLater acceptedLater⟩
    | refused rest => exact absurd outcome (drain_not_refused loop fuel _ rest inner)
    | running =>
      rw [receive_running loop fuel buf chunk inside outcome]
      exact first

theorem receive_short (fuel : Nat) (buf chunk rest : List UInt8) (held : buf.length ≤ loop.bufSize)
    (wide : chunk.length < 2^loop.lenBits) (near : Heads loop.format (Near loop) (buf ++ chunk))
    (returned : (receive loop fuel buf chunk).exit = .returned rest)
    (good : AllGood loop (receive loop fuel buf chunk).actions) :
    Fits loop.format loop.bufSize buf chunk ∧ Heads loop.format Short (buf ++ chunk) ∧
      Accepted loop (buf ++ chunk) ∧ rest = tail loop.format (buf ++ chunk) ∧
      rest.length ≤ loop.bufSize := by
  induction fuel generalizing buf chunk with
  | zero => simp [receive] at returned
  | succ fuel ih =>
    obtain ⟨inside,inner⟩ := receive_good_round loop fuel buf chunk good
    have whole := copied_remaining loop buf chunk
    have room := copied_bound loop buf chunk inside
    have bufBound := loop.bufBound
    rw [← whole] at near ⊢
    obtain ⟨nearNow,nearLater⟩ := (heads_append loop.format (Near loop) _ _).mp near
    cases outcome : (drain loop fuel (copied loop buf chunk)).outcome with
    | running => simp [receive_running loop fuel buf chunk inside outcome] at returned
    | refused left => exact absurd outcome (drain_not_refused loop fuel _ left inner)
    | left left =>
      obtain ⟨short,accepted,rfl⟩ :=
        drain_short loop fuel _ left (Nat.le_trans room bufBound) nearNow outcome inner
      have shorter := tail_length loop.format (copied loop buf chunk)
      rw [receive_left loop fuel buf chunk _ inside outcome] at returned good
      split at returned
      next ended =>
        obtain rfl : tail loop.format (copied loop buf chunk) = rest := by simpa using returned
        have fits := (fits_round loop buf chunk held wide).mpr ⟨inside,by
          rw [ended]
          exact fits_whole _ _ _ _ (by simp only [List.length_nil]; omega)⟩
        rw [ended,List.append_nil]
        exact ⟨fits,short,accepted,rfl,by omega⟩
      next more =>
        rw [if_neg more] at good
        obtain ⟨fits,shortLater,acceptedLater,final,bound⟩ := ih _ _ (by omega)
          (remaining_wide loop buf chunk wide) nearLater returned
          ((allGood_append loop _ _).mp good).2
        refine ⟨(fits_round loop buf chunk held wide).mpr ⟨inside,fits⟩,
          (heads_append loop.format Short _ _).mpr ⟨short,shortLater⟩,
          (accepted_append loop _ _).mpr ⟨accepted,acceptedLater⟩,?_,bound⟩
        rw [tail_append]
        exact final

theorem receive_ends (fuel : Nat) (buf chunk : List UInt8) (held : buf.length ≤ loop.bufSize)
    (wide : chunk.length < 2^loop.lenBits) (small : loop.bufSize < 2^16)
    (near : Heads loop.format (Near loop) (buf ++ chunk))
    (enough : buf.length + 2 * chunk.length + 1 < fuel)
    (good : AllGood loop (receive loop fuel buf chunk).actions) :
    ∃ rest, (receive loop fuel buf chunk).exit = .returned rest := by
  induction fuel generalizing buf chunk with
  | zero => omega
  | succ fuel ih =>
    obtain ⟨inside,inner⟩ := receive_good_round loop fuel buf chunk good
    have whole := copied_remaining loop buf chunk
    have room := copied_bound loop buf chunk inside
    have length := copied_length loop buf chunk inside
    have restLength := remaining_length loop buf chunk
    have bound := inside.2
    rw [← whole] at near
    obtain ⟨nearNow,nearLater⟩ := (heads_append loop.format (Near loop) _ _).mp near
    have ends := drain_ends loop fuel _ (by omega) (by omega) inner
    cases outcome : (drain loop fuel (copied loop buf chunk)).outcome with
    | running => exact absurd outcome ends
    | refused left => exact absurd outcome (drain_not_refused loop fuel _ left inner)
    | left left =>
      obtain ⟨-,-,rfl⟩ := drain_short loop fuel _ left (by omega) nearNow outcome inner
      have shorter := tail_length loop.format (copied loop buf chunk)
      rw [receive_left loop fuel buf chunk _ inside outcome] at good ⊢
      split
      next ended => exact ⟨_,rfl⟩
      next more =>
        rw [if_neg more] at good
        have progress := copyLength_progress loop buf chunk held wide more
        exact ih _ _ (by omega) (remaining_wide loop buf chunk wide) nearLater (by omega)
          ((allGood_append loop _ _).mp good).2

def Wide (chunks : List (List UInt8)) : Prop := ∀ chunk ∈ chunks, chunk.length < 2^loop.lenBits

theorem chunks_wide {P : List UInt8 → Prop} (chunks : List {bytes // P bytes})
    (short : ∀ bytes, P bytes → bytes.length < 2^loop.lenBits) : Wide loop (chunks.map Subtype.val) := by
  intro bytes member
  obtain ⟨chunk,-,rfl⟩ := List.mem_map.mp member
  exact short _ chunk.property

private theorem feed_returned (fuel : Nat) (buf left chunk : List UInt8) (chunks : List (List UInt8))
    (returned : (receive loop fuel buf chunk).exit = .returned left) :
    feed loop fuel buf (chunk :: chunks) =
      (feed loop fuel left chunks).after (receive loop fuel buf chunk).actions := by
  rw [feed,returned]

private theorem feed_stopped (fuel : Nat) (buf chunk : List UInt8) (chunks : List (List UInt8))
    (stopped : ∀ left, (receive loop fuel buf chunk).exit ≠ .returned left) :
    feed loop fuel buf (chunk :: chunks) = receive loop fuel buf chunk := by
  rw [feed]
  split
  next left returned => exact absurd returned (stopped left)
  next => rfl

private theorem tail_bound (fuel : Nat) (buf chunk : List UInt8) (held : buf.length ≤ loop.bufSize)
    (wide : chunk.length < 2^loop.lenBits) (fits : Fits loop.format loop.bufSize buf chunk)
    (short : Heads loop.format Short (buf ++ chunk)) (accepted : Accepted loop (buf ++ chunk))
    (left : List UInt8) (returned : (receive loop fuel buf chunk).exit = .returned left) :
    left = tail loop.format (buf ++ chunk) ∧ left.length ≤ loop.bufSize := by
  have good := receive_good loop fuel buf chunk held wide fits short accepted
  obtain ⟨-,-,-,rest,bound⟩ :=
    receive_short loop fuel buf chunk left held wide (near_mono loop _ short) returned good
  exact ⟨rest,bound⟩

/-- Chunks that all fit are taken in: the calls are the frames of the whole stream, and where there is a chunk
the frames that are already buffered as well. -/
theorem feed_delivers (fuel : Nat) (buf : List UInt8) (chunks : List (List UInt8))
    (held : buf.length ≤ loop.bufSize) (missing : chunks = [] → ¬ Complete loop.format buf)
    (wide : Wide loop chunks) (fits : FitsAll loop.format loop.bufSize buf chunks)
    (short : Heads loop.format Short (buf ++ chunks.flatten))
    (accepted : Accepted loop (buf ++ chunks.flatten))
    (enough : loop.bufSize + 2 * chunks.flatten.length + 1 < fuel) :
    (feed loop fuel buf chunks).exit = .returned (tail loop.format (buf ++ chunks.flatten)) ∧
      calls (feed loop fuel buf chunks).actions = delivered loop (buf ++ chunks.flatten) := by
  induction chunks generalizing buf with
  | nil =>
    have unfinished := missing rfl
    simp [feed,calls,delivered,frames_unfinished _ _ unfinished,tail_unfinished _ _ unfinished]
  | cons chunk chunks ih =>
    obtain ⟨fitsNow,fitsLater⟩ := fits
    have wideNow := wide chunk (by simp)
    simp only [List.flatten_cons,List.length_append] at enough
    rw [List.flatten_cons,← List.append_assoc] at short accepted ⊢
    obtain ⟨shortNow,shortLater⟩ := (heads_append loop.format Short _ _).mp short
    obtain ⟨acceptedNow,acceptedLater⟩ := (accepted_append loop _ _).mp accepted
    obtain ⟨returned,handedOver⟩ := receive_delivers loop fuel buf chunk held wideNow fitsNow
      shortNow acceptedNow (by omega)
    obtain ⟨-,bound⟩ := tail_bound loop fuel buf chunk held wideNow fitsNow shortNow acceptedNow _ returned
    obtain ⟨final,later⟩ := ih _ bound (fun _ => tail_not_complete loop.format _)
      (fun chunk member => wide chunk (by simp [member])) fitsLater shortLater acceptedLater (by omega)
    rw [feed_returned loop fuel buf _ chunk chunks returned]
    constructor
    · rw [tail_append loop.format (buf ++ chunk)]
      exact final
    · rw [delivered_append,← handedOver,← later]
      simp [Run.after,calls_append]

theorem feed_good (fuel : Nat) (buf : List UInt8) (chunks : List (List UInt8))
    (held : buf.length ≤ loop.bufSize) (wide : Wide loop chunks)
    (fits : FitsAll loop.format loop.bufSize buf chunks)
    (short : Heads loop.format Short (buf ++ chunks.flatten))
    (accepted : Accepted loop (buf ++ chunks.flatten)) :
    AllGood loop (feed loop fuel buf chunks).actions := by
  induction chunks generalizing buf with
  | nil => simp [feed,AllGood]
  | cons chunk chunks ih =>
    obtain ⟨fitsNow,fitsLater⟩ := fits
    have wideNow := wide chunk (by simp)
    rw [List.flatten_cons,← List.append_assoc] at short accepted
    obtain ⟨shortNow,shortLater⟩ := (heads_append loop.format Short _ _).mp short
    obtain ⟨acceptedNow,acceptedLater⟩ := (accepted_append loop _ _).mp accepted
    have good := receive_good loop fuel buf chunk held wideNow fitsNow shortNow acceptedNow
    cases exit : (receive loop fuel buf chunk).exit with
    | returned left =>
      obtain ⟨rfl,bound⟩ := tail_bound loop fuel buf chunk held wideNow fitsNow shortNow acceptedNow _ exit
      rw [feed_returned loop fuel buf _ chunk chunks exit]
      exact (allGood_append loop _ _).mpr ⟨good,ih _ bound
        (fun chunk member => wide chunk (by simp [member])) fitsLater shortLater acceptedLater⟩
    | undefined =>
      rw [feed_stopped loop fuel buf chunk chunks (by simp [exit])]
      exact good
    | running =>
      rw [feed_stopped loop fuel buf chunk chunks (by simp [exit])]
      exact good

theorem feed_good_first (fuel : Nat) (buf chunk : List UInt8) (chunks : List (List UInt8))
    (good : AllGood loop (feed loop fuel buf (chunk :: chunks)).actions) :
    AllGood loop (receive loop fuel buf chunk).actions := by
  cases exit : (receive loop fuel buf chunk).exit with
  | returned left =>
    rw [feed_returned loop fuel buf left chunk chunks exit] at good
    exact ((allGood_append loop _ _).mp good).1
  | undefined => rwa [feed_stopped loop fuel buf chunk chunks (by simp [exit])] at good
  | running => rwa [feed_stopped loop fuel buf chunk chunks (by simp [exit])] at good

theorem feed_short (fuel : Nat) (buf rest : List UInt8) (chunks : List (List UInt8))
    (held : buf.length ≤ loop.bufSize) (wide : Wide loop chunks)
    (near : Heads loop.format (Near loop) (buf ++ chunks.flatten))
    (returned : (feed loop fuel buf chunks).exit = .returned rest)
    (good : AllGood loop (feed loop fuel buf chunks).actions) :
    FitsAll loop.format loop.bufSize buf chunks ∧ rest.length ≤ loop.bufSize ∧ (chunks ≠ [] →
      Heads loop.format Short (buf ++ chunks.flatten) ∧ Accepted loop (buf ++ chunks.flatten)) := by
  induction chunks generalizing buf with
  | nil =>
    obtain rfl : buf = rest := by simpa [feed] using returned
    exact ⟨trivial,held,fun some => absurd rfl some⟩
  | cons chunk chunks ih =>
    have wideNow := wide chunk (by simp)
    have first := feed_good_first loop fuel buf chunk chunks good
    rw [List.flatten_cons,← List.append_assoc] at near ⊢
    obtain ⟨nearNow,nearLater⟩ := (heads_append loop.format (Near loop) _ _).mp near
    cases exit : (receive loop fuel buf chunk).exit with
    | returned left =>
      obtain ⟨fits,short,accepted,rfl,bound⟩ :=
        receive_short loop fuel buf chunk left held wideNow nearNow exit first
      rw [feed_returned loop fuel buf _ chunk chunks exit] at returned good
      obtain ⟨fitsLater,final,later⟩ := ih _ bound
        (fun chunk member => wide chunk (by simp [member])) nearLater returned
        ((allGood_append loop _ _).mp good).2
      refine ⟨⟨fits,fitsLater⟩,final,fun _ => ?_⟩
      cases chunks with
      | nil => simpa using ⟨short,accepted⟩
      | cons next others =>
        obtain ⟨shortLater,acceptedLater⟩ := later (by simp)
        exact ⟨(heads_append loop.format Short _ _).mpr ⟨short,shortLater⟩,
          (accepted_append loop _ _).mpr ⟨accepted,acceptedLater⟩⟩
    | undefined =>
      rw [feed_stopped loop fuel buf chunk chunks (by simp [exit])] at returned
      simp [exit] at returned
    | running =>
      rw [feed_stopped loop fuel buf chunk chunks (by simp [exit])] at returned
      simp [exit] at returned

theorem feed_ends (fuel : Nat) (buf : List UInt8) (chunks : List (List UInt8))
    (held : buf.length ≤ loop.bufSize) (wide : Wide loop chunks) (small : loop.bufSize < 2^16)
    (near : Heads loop.format (Near loop) (buf ++ chunks.flatten))
    (enough : loop.bufSize + 2 * chunks.flatten.length + 1 < fuel)
    (good : AllGood loop (feed loop fuel buf chunks).actions) :
    ∃ rest, (feed loop fuel buf chunks).exit = .returned rest := by
  induction chunks generalizing buf with
  | nil => exact ⟨buf,rfl⟩
  | cons chunk chunks ih =>
    have wideNow := wide chunk (by simp)
    have first := feed_good_first loop fuel buf chunk chunks good
    simp only [List.flatten_cons,List.length_append] at enough
    rw [List.flatten_cons,← List.append_assoc] at near
    obtain ⟨nearNow,nearLater⟩ := (heads_append loop.format (Near loop) _ _).mp near
    obtain ⟨left,exit⟩ := receive_ends loop fuel buf chunk held wideNow small nearNow (by omega) first
    obtain ⟨-,-,-,rfl,bound⟩ := receive_short loop fuel buf chunk left held wideNow nearNow exit first
    rw [feed_returned loop fuel buf _ chunk chunks exit] at good ⊢
    exact ih _ bound (fun chunk member => wide chunk (by simp [member])) nearLater (by omega)
      ((allGood_append loop _ _).mp good).2

/-- What a log says whatever happened: only a run that ended undefined has a copy that
was not inside, and the handler was called with what stood at the front of the buffer. -/
def Logged (exit : Exit) : Action Packet → Prop
  | .copy offset length available =>
      exit ≠ .undefined → offset + length ≤ loop.bufSize ∧ length ≤ available
  | .handle packet payload buffered accepted => ∃ buf, loop.format.head ≤ buf.length ∧
      buf.length ≤ loop.bufSize ∧ packet = loop.read buf ∧ payload = loop.format.payload buf ∧
      buffered = buf.length ∧ accepted = loop.handle packet

private theorem logged_exit (action : Action Packet) (first second : Exit)
    (defined : first ≠ .undefined) (logged : Logged loop first action) : Logged loop second action := by
  cases action with
  | copy offset length available => exact fun _ => logged defined
  | handle packet payload buffered accepted => exact logged

private theorem drain_logged (exit : Exit) (fuel : Nat) (buf : List UInt8)
    (held : buf.length ≤ loop.bufSize) :
    ∀ action ∈ (drain loop fuel buf).actions, Logged loop exit action := by
  induction fuel generalizing buf with
  | zero => simp [drain]
  | succ fuel ih =>
    rw [drain]
    split
    next enough =>
      have here : Logged loop exit (.handle (loop.read buf) (loop.format.payload buf) buf.length
          (loop.handle (loop.read buf))) := ⟨buf,enough,held,rfl,rfl,rfl,rfl⟩
      split
      next inside =>
        have shorter : (buf.drop (fullLength loop buf)).length ≤ loop.bufSize := by
          simp only [List.length_drop]
          omega
        dsimp only
        split
        · intro action member
          rcases List.mem_cons.mp member with rfl | later
          · exact here
          · exact ih _ shorter action later
        · intro action member
          obtain rfl := List.mem_singleton.mp member
          exact here
      next => simp
    next => simp

theorem receive_logged (fuel : Nat) (buf chunk : List UInt8) :
    ∀ action ∈ (receive loop fuel buf chunk).actions,
      Logged loop (receive loop fuel buf chunk).exit action := by
  induction fuel generalizing buf chunk with
  | zero => simp [receive]
  | succ fuel ih =>
    by_cases inside : Inside loop buf chunk
    · have here (exit : Exit) : ∀ action ∈ innerActions loop fuel buf chunk, Logged loop exit action := by
        intro action member
        rcases List.mem_cons.mp member with rfl | later
        · exact fun _ => inside
        · exact drain_logged loop exit fuel _ (copied_bound loop buf chunk inside) action later
      rw [receive_inside loop fuel buf chunk inside]
      split
      · exact here _
      · exact here _
      next left outcome =>
        split
        · exact here _
        next more =>
          intro action member
          rcases List.mem_append.mp member with now | later
          · exact here _ action now
          · exact ih _ _ action later
    · have only : receive loop (fuel + 1) buf chunk = ⟨[copyAction loop buf chunk],.undefined⟩ := by
        rw [receive]
        exact if_neg inside
      simp [only,copyAction,Logged]

/-- The handler is only called when the full length it was given is buffered. -/
def Covered : Action Packet → Prop
  | .copy _ _ _ => True
  | .handle _ payload buffered _ => (loop.format.head + payload) % 2^16 ≤ buffered

private theorem drain_covered (fuel : Nat) (buf : List UInt8) :
    ∀ action ∈ (drain loop fuel buf).actions, Covered loop action := by
  induction fuel generalizing buf with
  | zero => simp [drain]
  | succ fuel ih =>
    rw [drain]
    split
    next enough =>
      split
      next inside =>
        have here : Covered loop (.handle (loop.read buf) (loop.format.payload buf) buf.length
          (loop.handle (loop.read buf))) := inside
        dsimp only
        split
        · intro action member
          rcases List.mem_cons.mp member with rfl | later
          · exact here
          · exact ih _ action later
        · intro action member
          obtain rfl := List.mem_singleton.mp member
          exact here
      next => simp
    next => simp

theorem receive_covered (fuel : Nat) (buf chunk : List UInt8) :
    ∀ action ∈ (receive loop fuel buf chunk).actions, Covered loop action := by
  induction fuel generalizing buf chunk with
  | zero => simp [receive]
  | succ fuel ih =>
    by_cases inside : Inside loop buf chunk
    · have here : ∀ action ∈ innerActions loop fuel buf chunk, Covered loop action := by
        intro action member
        rcases List.mem_cons.mp member with rfl | later
        · exact trivial
        · exact drain_covered loop fuel _ action later
      rw [receive_inside loop fuel buf chunk inside]
      split
      · exact here
      · exact here
      next left outcome =>
        split
        · exact here
        next more =>
          intro action member
          rcases List.mem_append.mp member with now | later
          · exact here action now
          · exact ih _ _ action later
    · have only : receive loop (fuel + 1) buf chunk = ⟨[copyAction loop buf chunk],.undefined⟩ := by
        rw [receive]
        exact if_neg inside
      simp [only,copyAction,Covered]

private theorem drain_uncalled (fuel : Nat) (buf : List UInt8)
    (silent : calls (drain loop fuel buf).actions = []) :
    (drain loop fuel buf).outcome = .left buf ∨ (drain loop fuel buf).outcome = .running := by
  cases fuel with
  | zero => exact .inr rfl
  | succ fuel =>
    rw [drain] at silent ⊢
    split
    next enough =>
      rw [if_pos enough] at silent
      split
      next inside =>
        rw [if_pos inside] at silent
        dsimp only at silent
        split at silent
        · simp [Drain.after,calls] at silent
        · simp [calls] at silent
      next => exact .inl rfl
    next => exact .inl rfl

theorem receive_uncalled (fuel : Nat) (buf chunk left : List UInt8)
    (returned : (receive loop fuel buf chunk).exit = .returned left)
    (silent : calls (receive loop fuel buf chunk).actions = []) : left = buf ++ chunk := by
  induction fuel generalizing buf chunk with
  | zero => cases returned
  | succ fuel ih =>
    by_cases inside : Inside loop buf chunk
    · have whole := copied_remaining loop buf chunk
      have silentNow : calls (drain loop fuel (copied loop buf chunk)).actions = [] := by
        rw [receive_inside loop fuel buf chunk inside] at silent
        split at silent
        · exact silent
        · exact silent
        · split at silent
          · exact silent
          · rw [Run.after,calls_append] at silent
            exact (List.append_eq_nil_iff.mp silent).1
      rcases drain_uncalled loop fuel _ silentNow with outcome | outcome
      · rw [receive_left loop fuel buf chunk _ inside outcome] at returned silent
        split at returned
        next ended =>
          rw [← Exit.returned.inj returned,← whole,ended,List.append_nil]
        next more =>
          rw [if_neg more,Run.after,calls_append] at silent
          rw [ih _ _ returned (List.append_eq_nil_iff.mp silent).2,whole]
      · rw [receive_running loop fuel buf chunk inside outcome] at returned
        cases returned
    · have only : receive loop (fuel + 1) buf chunk = ⟨[copyAction loop buf chunk],.undefined⟩ := by
        rw [receive]
        exact if_neg inside
      rw [only] at returned
      cases returned

theorem feed_logged (fuel : Nat) (buf : List UInt8) (chunks : List (List UInt8)) :
    ∀ action ∈ (feed loop fuel buf chunks).actions,
      Logged loop (feed loop fuel buf chunks).exit action := by
  induction chunks generalizing buf with
  | nil => simp [feed]
  | cons chunk chunks ih =>
    have first := receive_logged loop fuel buf chunk
    cases exit : (receive loop fuel buf chunk).exit with
    | returned left =>
      rw [feed_returned loop fuel buf left chunk chunks exit]
      intro action member
      rcases List.mem_append.mp member with now | later
      · exact logged_exit loop action _ _ (by simp [exit]) (first action now)
      · exact ih left action later
    | undefined =>
      rw [feed_stopped loop fuel buf chunk chunks (by simp [exit])]
      exact first
    | running =>
      rw [feed_stopped loop fuel buf chunk chunks (by simp [exit])]
      exact first

theorem feed_covered (fuel : Nat) (buf : List UInt8) (chunks : List (List UInt8)) :
    ∀ action ∈ (feed loop fuel buf chunks).actions, Covered loop action := by
  induction chunks generalizing buf with
  | nil => simp [feed]
  | cons chunk chunks ih =>
    have first := receive_covered loop fuel buf chunk
    cases exit : (receive loop fuel buf chunk).exit with
    | returned left =>
      rw [feed_returned loop fuel buf left chunk chunks exit]
      intro action member
      exact (List.mem_append.mp member).elim (first action) (ih left action)
    | undefined =>
      rw [feed_stopped loop fuel buf chunk chunks (by simp [exit])]
      exact first
    | running =>
      rw [feed_stopped loop fuel buf chunk chunks (by simp [exit])]
      exact first

private theorem calls_mem (actions : List (Action Packet)) (packet : Packet)
    (payload buffered : Nat) (accepted : Bool)
    (member : Action.handle packet payload buffered accepted ∈ actions) :
    (packet,accepted) ∈ calls actions := by
  induction actions with
  | nil => simp at member
  | cons action actions ih =>
    rcases List.mem_cons.mp member with rfl | later
    · simp [calls]
    · cases action <;> simp [calls,ih later]

private theorem nil_not_complete : ¬ Complete loop.format ([] : List UInt8) := by
  rintro ⟨enough,-⟩
  have positive := loop.format.headPos
  simp only [List.length_nil] at enough
  omega

private theorem accepted_flatten (parts : List (List UInt8))
    (framed : ∀ part ∈ parts, IsFrame loop.format part) :
    Accepted loop parts.flatten ↔ ∀ part ∈ parts, loop.handle (loop.read part) = true := by
  rw [Accepted,frames_flatten loop.format parts framed]

theorem called_good (whole : Packet → Prop)
    (buffered : ∀ buf, loop.format.head ≤ buf.length → whole (loop.read buf) →
      loop.format.head + loop.format.payload buf ≤ buf.length)
    (packets : List Packet) (wholes : ∀ packet ∈ packets, whole packet) (fuel : Nat)
    (buf : List UInt8) (chunks : List (List UInt8)) (rest : List UInt8)
    (returned : (feed loop fuel buf chunks).exit = .returned rest)
    (handedOver : calls (feed loop fuel buf chunks).actions = packets.map fun packet => (packet,true)) :
    AllGood loop (feed loop fuel buf chunks).actions := by
  have logged := feed_logged loop fuel buf chunks
  intro action member
  cases action with
  | copy offset length available => exact logged _ member (by simp [returned])
  | handle packet payload count accepted =>
    obtain ⟨front,enough,-,rfl,rfl,rfl,-⟩ := logged _ member
    have called := calls_mem _ _ _ _ _ member
    rw [handedOver] at called
    obtain ⟨known,listed,equal⟩ := List.mem_map.mp called
    obtain ⟨rfl,rfl⟩ := Prod.mk.inj equal
    exact ⟨buffered front enough (wholes _ listed),rfl⟩

/-- Calls with all frames of a stream, in order and accepted, are only made when every
copy fits, every frame is short and the handler accepts every packet. -/
theorem feed_frames_short (whole : Packet → Prop)
    (buffered : ∀ buf, loop.format.head ≤ buf.length → whole (loop.read buf) →
      loop.format.head + loop.format.payload buf ≤ buf.length)
    (parts : List (List UInt8)) (framed : ∀ part ∈ parts, IsFrame loop.format part)
    (readWhole : ∀ part ∈ parts, whole (loop.read part))
    (near : ∀ part ∈ parts, Near loop part.length)
    (chunks : List (List UInt8)) (wide : Wide loop chunks) (cut : chunks.flatten = parts.flatten)
    (fuel : Nat) (rest : List UInt8) (returned : (feed loop fuel [] chunks).exit = .returned rest)
    (handedOver : calls (feed loop fuel [] chunks).actions =
      parts.map fun part => (loop.read part,true)) :
    FitsAll loop.format loop.bufSize [] chunks ∧
      (∀ part ∈ parts, part.length < 2^16) ∧ ∀ part ∈ parts, loop.handle (loop.read part) = true := by
  have good : AllGood loop (feed loop fuel [] chunks).actions := by
    refine called_good loop whole buffered (parts.map loop.read) ?_ fuel [] chunks rest returned ?_
    · intro packet member
      obtain ⟨part,known,rfl⟩ := List.mem_map.mp member
      exact readWhole part known
    · rw [handedOver,List.map_map]
      rfl
  have bounded : Heads loop.format (Near loop) ([] ++ chunks.flatten) := by
    rw [List.nil_append,cut]
    exact (heads_flatten loop.format (Near loop) parts framed).mpr near
  obtain ⟨fits,-,met⟩ := feed_short loop fuel [] rest chunks (by simp) wide bounded returned good
  refine ⟨fits,?_⟩
  by_cases none : chunks = []
  · have empty : parts = [] := by
      rw [← frames_flatten loop.format parts framed,← cut,none]
      exact frames_unfinished loop.format [] (nil_not_complete loop)
    simp [empty]
  · have short := met none
    rw [List.nil_append,cut] at short
    exact ⟨(heads_flatten loop.format Short parts framed).mp short.1,
      (accepted_flatten loop parts framed).mp short.2⟩

/-- Under these conditions the calls are made and the buffer is left empty. -/
theorem feed_frames_delivers (parts : List (List UInt8))
    (framed : ∀ part ∈ parts, IsFrame loop.format part)
    (chunks : List (List UInt8)) (wide : Wide loop chunks) (cut : chunks.flatten = parts.flatten)
    (fits : FitsAll loop.format loop.bufSize [] chunks) (short : ∀ part ∈ parts, part.length < 2^16)
    (accepted : ∀ part ∈ parts, loop.handle (loop.read part) = true) :
    ∃ fuel, (feed loop fuel [] chunks).exit = .returned [] ∧
      calls (feed loop fuel [] chunks).actions = parts.map fun part => (loop.read part,true) := by
  have streamShort : Heads loop.format Short ([] ++ chunks.flatten) := by
    rw [List.nil_append,cut]
    exact (heads_flatten loop.format Short parts framed).mpr short
  have streamAccepted : Accepted loop ([] ++ chunks.flatten) := by
    rw [List.nil_append,cut]
    exact (accepted_flatten loop parts framed).mpr accepted
  obtain ⟨returned,handedOver⟩ := feed_delivers loop (loop.bufSize + 2 * chunks.flatten.length + 2) []
    chunks (by simp) (fun _ => nil_not_complete loop) wide fits streamShort streamAccepted (by omega)
  rw [List.nil_append,cut] at returned handedOver
  rw [tail_flatten loop.format parts framed] at returned
  rw [delivered,frames_flatten loop.format parts framed] at handedOver
  exact ⟨_,returned,handedOver⟩

theorem drain_mono (fuel more : Nat) (buf : List UInt8) (ended : (drain loop fuel buf).outcome ≠ .running) :
    drain loop (fuel + more) buf = drain loop fuel buf := by
  induction fuel generalizing buf with
  | zero => exact absurd rfl ended
  | succ fuel ih =>
    rw [drain] at ended
    rw [Nat.add_right_comm,drain,drain]
    split
    next enough =>
      rw [if_pos enough] at ended
      split
      next inside =>
        rw [if_pos inside] at ended
        dsimp only at ended ⊢
        split
        next accepted =>
          rw [if_pos accepted] at ended
          rw [ih _ ended]
        · rfl
      · rfl
    · rfl

theorem receive_mono (fuel more : Nat) (buf chunk : List UInt8)
    (ended : (receive loop fuel buf chunk).exit ≠ .running) :
    receive loop (fuel + more) buf chunk = receive loop fuel buf chunk := by
  induction fuel generalizing buf chunk with
  | zero => exact absurd rfl ended
  | succ fuel ih =>
    rw [Nat.add_right_comm]
    by_cases inside : Inside loop buf chunk
    · have drained : (drain loop fuel (copied loop buf chunk)).outcome ≠ .running := by
        intro going
        rw [receive_running loop fuel buf chunk inside going] at ended
        exact ended rfl
      have same := drain_mono loop fuel more _ drained
      rw [receive_inside loop _ buf chunk inside] at ended
      rw [receive_inside loop _ buf chunk inside,receive_inside loop _ buf chunk inside,innerActions,
        innerActions,same]
      split
      · rfl
      · rfl
      next left outcome =>
        rw [outcome] at ended
        dsimp only at ended
        split
        · rfl
        next going =>
          rw [if_neg going] at ended
          rw [ih _ _ ended]
    · have outside (n : Nat) : receive loop (n + 1) buf chunk =
          ⟨[.copy buf.length (copyLength loop buf chunk) chunk.length],.undefined⟩ := by
        rw [receive]
        exact if_neg inside
      rw [outside,outside]

theorem feed_mono (fuel more : Nat) (buf : List UInt8) (chunks : List (List UInt8))
    (ended : (feed loop fuel buf chunks).exit ≠ .running) :
    feed loop (fuel + more) buf chunks = feed loop fuel buf chunks := by
  induction chunks generalizing buf with
  | nil => rfl
  | cons chunk chunks ih =>
    have first : (receive loop fuel buf chunk).exit ≠ .running := by
      intro going
      rw [feed_stopped loop fuel buf chunk chunks (by simp [going])] at ended
      exact ended going
    have same := receive_mono loop fuel more buf chunk first
    cases exit : (receive loop fuel buf chunk).exit with
    | returned left =>
      rw [feed_returned loop fuel buf left chunk chunks exit] at ended ⊢
      rw [feed_returned loop _ buf left chunk chunks (by rw [same]; exact exit),ih left ended,same]
    | undefined =>
      rw [feed_stopped loop fuel buf chunk chunks (by simp [exit]),
        feed_stopped loop _ buf chunk chunks (by simp [same,exit]),same]
    | running => exact absurd exit first

theorem feed_called (fuel : Nat) (buf chunk rest : List UInt8) (chunks : List (List UInt8))
    (held : buf.length ≤ loop.bufSize) (wide : Wide loop (chunk :: chunks))
    (near : Heads loop.format (Near loop) (buf ++ (chunk :: chunks).flatten))
    (returned : (feed loop fuel buf (chunk :: chunks)).exit = .returned rest)
    (good : AllGood loop (feed loop fuel buf (chunk :: chunks)).actions) :
    FitsAll loop.format loop.bufSize buf (chunk :: chunks) ∧
      rest = tail loop.format (buf ++ (chunk :: chunks).flatten) ∧
      calls (feed loop fuel buf (chunk :: chunks)).actions =
        delivered loop (buf ++ (chunk :: chunks).flatten) := by
  obtain ⟨fits,-,met⟩ := feed_short loop fuel buf rest _ held wide near returned good
  obtain ⟨short,accepted⟩ := met (by simp)
  have same := feed_mono loop fuel (loop.bufSize + 2 * (chunk :: chunks).flatten.length + 2) buf
    (chunk :: chunks) (by simp [returned])
  obtain ⟨final,handedOver⟩ := feed_delivers loop _ buf (chunk :: chunks) held (by simp) wide fits short accepted
    (Nat.lt_of_lt_of_le (Nat.lt_succ_self _) (Nat.le_add_left _ fuel))
  rw [same] at final handedOver
  rw [returned] at final
  exact ⟨fits,Exit.returned.inj final,handedOver⟩

end Fantuan.StarNet.RecvChunks

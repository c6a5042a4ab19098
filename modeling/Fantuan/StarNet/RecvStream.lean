import Fantuan.StarNet.RecvLoop

/-! What the receive loop does with a byte stream, however it is cut into chunks.
As long as every copy fits and every head met is short enough for sixteen bits, the
calls are the frames of the stream; when the calls are good, both conditions held.
-/
namespace Fantuan.StarNet.RecvStream
open Lib.Frames RecvLoop

variable {Packet : Type} (loop : Loop Packet)

def Short (size : Nat) : Prop := size < 2^16

def Accepted (bytes : List UInt8) : Prop :=
  ∀ frame ∈ frames loop.format bytes, loop.handle (loop.read frame) = true

def delivered (bytes : List UInt8) : List (Packet × Bool) :=
  (frames loop.format bytes).map fun frame => (loop.read frame,true)

def AllGood (actions : List (Action Packet)) : Prop := ∀ action ∈ actions, action.Good loop

theorem allGood_cons (action : Action Packet) (actions : List (Action Packet)) :
    AllGood loop (action :: actions) ↔ action.Good loop ∧ AllGood loop actions := by
  simp [AllGood]

theorem allGood_append (first second : List (Action Packet)) :
    AllGood loop (first ++ second) ↔ AllGood loop first ∧ AllGood loop second := by
  simp only [AllGood,List.mem_append]
  constructor
  · intro all
    exact ⟨fun action member => all action (.inl member),fun action member => all action (.inr member)⟩
  · rintro ⟨left,right⟩ action (member | member)
    · exact left action member
    · exact right action member

theorem calls_append (first second : List (Action Packet)) :
    calls (first ++ second) = calls first ++ calls second := by
  induction first with
  | nil => rfl
  | cons action actions ih => cases action <;> simp [calls,ih]

theorem delivered_append (bytes more : List UInt8) :
    delivered loop (bytes ++ more) =
      delivered loop bytes ++ delivered loop (tail loop.format bytes ++ more) := by
  simp [delivered,frames_append loop.format bytes more]

theorem accepted_append (bytes more : List UInt8) :
    Accepted loop (bytes ++ more) ↔
      Accepted loop bytes ∧ Accepted loop (tail loop.format bytes ++ more) := by
  simp only [Accepted,frames_append loop.format bytes more,List.mem_append]
  constructor
  · intro all
    exact ⟨fun frame member => all frame (.inl member),fun frame member => all frame (.inr member)⟩
  · rintro ⟨left,right⟩ frame (member | member)
    · exact left frame member
    · exact right frame member

theorem read_take (buf : List UInt8) (complete : Complete loop.format buf) :
    loop.read (buf.take (size loop.format buf)) = loop.read buf := by
  have whole := isFrame_complete loop.format _ (take_isFrame loop.format buf complete)
  have read := loop.readFrame _ (buf.drop (size loop.format buf)) whole
  rw [List.take_append_drop] at read
  exact read.symm

theorem accepted_complete (buf : List UInt8) (complete : Complete loop.format buf) :
    Accepted loop buf ↔ loop.handle (loop.read buf) = true ∧
      Accepted loop (buf.drop (size loop.format buf)) := by
  simp only [Accepted,frames_complete loop.format buf complete,List.forall_mem_cons,
    read_take loop buf complete]

theorem delivered_complete (buf : List UInt8) (complete : Complete loop.format buf) :
    delivered loop buf = (loop.read buf,true) :: delivered loop (buf.drop (size loop.format buf)) := by
  simp only [delivered,frames_complete loop.format buf complete,List.map_cons,
    read_take loop buf complete]

theorem fullLength_short (buf : List UInt8) (short : Short (size loop.format buf)) :
    fullLength loop buf = size loop.format buf := Nat.mod_eq_of_lt short

private def handed (buf : List UInt8) : Action Packet :=
  .handle (loop.read buf) (loop.format.payload buf) buf.length (loop.handle (loop.read buf))

private def Taken (buf : List UInt8) : Prop :=
  loop.format.head ≤ buf.length ∧ fullLength loop buf ≤ buf.length

private theorem drain_taken (fuel : Nat) (buf : List UInt8) (taken : Taken loop buf)
    (accepted : loop.handle (loop.read buf) = true) :
    drain loop (fuel + 1) buf =
      (drain loop fuel (buf.drop (fullLength loop buf))).after (handed loop buf) := by
  rw [drain,if_pos taken.1,if_pos taken.2]
  simp [handed,accepted]

private theorem drain_refused (fuel : Nat) (buf : List UInt8) (taken : Taken loop buf)
    (refused : loop.handle (loop.read buf) = false) :
    drain loop (fuel + 1) buf = ⟨[handed loop buf],.refused buf⟩ := by
  rw [drain,if_pos taken.1,if_pos taken.2]
  simp [handed,refused]

private theorem drain_waits (fuel : Nat) (buf : List UInt8) (waits : ¬ Taken loop buf) :
    drain loop (fuel + 1) buf = ⟨[],.left buf⟩ := by
  rw [drain]
  split
  next enough => rw [if_neg fun inside => waits ⟨enough,inside⟩]
  next => rfl

private theorem taken_complete (buf : List UInt8) (complete : Complete loop.format buf)
    (short : Short (size loop.format buf)) : Taken loop buf := by
  refine ⟨complete.1,?_⟩
  rw [fullLength_short loop buf short]
  exact complete.2

private theorem not_taken (buf : List UInt8) (missing : ¬ Complete loop.format buf)
    (short : loop.format.head ≤ buf.length → Short (size loop.format buf)) : ¬ Taken loop buf := by
  rintro ⟨enough,inside⟩
  rw [fullLength_short loop buf (short enough)] at inside
  exact missing ⟨enough,inside⟩

theorem drain_delivers (buf : List UInt8) (short : Heads loop.format Short buf)
    (accepted : Accepted loop buf) (fuel : Nat) (enough : buf.length < fuel) :
    (drain loop fuel buf).outcome = .left (tail loop.format buf) ∧
      calls (drain loop fuel buf).actions = delivered loop buf := by
  induction buf using split_induction loop.format generalizing fuel with
  | unfinished buf missing =>
    have small := (heads_unfinished loop.format Short buf missing).mp short
    obtain ⟨fuel,rfl⟩ : ∃ k, fuel = k + 1 := ⟨fuel - 1,by omega⟩
    rw [drain_waits loop fuel buf (not_taken loop buf missing small),
      tail_unfinished loop.format buf missing]
    simp [calls,delivered,frames_unfinished loop.format buf missing]
  | frame buf complete ih =>
    obtain ⟨small,rest⟩ := (heads_complete loop.format Short buf complete).mp short
    obtain ⟨good,others⟩ := (accepted_complete loop buf complete).mp accepted
    obtain ⟨fuel,rfl⟩ : ∃ k, fuel = k + 1 := ⟨fuel - 1,by omega⟩
    have positive := size_pos loop.format buf
    have inside := complete.2
    have shorter : (buf.drop (size loop.format buf)).length < fuel := by
      simp only [List.length_drop]
      omega
    obtain ⟨left,handedOver⟩ := ih rest others fuel shorter
    rw [drain_taken loop fuel buf (taken_complete loop buf complete small) good,
      fullLength_short loop buf small,tail_complete loop.format buf complete,
      delivered_complete loop buf complete]
    exact ⟨left,by simp [Drain.after,calls,handed,good,handedOver]⟩

theorem drain_good (buf : List UInt8) (short : Heads loop.format Short buf)
    (accepted : Accepted loop buf) (fuel : Nat) : AllGood loop (drain loop fuel buf).actions := by
  induction buf using split_induction loop.format generalizing fuel with
  | unfinished buf missing =>
    have small := (heads_unfinished loop.format Short buf missing).mp short
    cases fuel with
    | zero => simp [drain,AllGood]
    | succ fuel => simp [drain_waits loop fuel buf (not_taken loop buf missing small),AllGood]
  | frame buf complete ih =>
    obtain ⟨small,rest⟩ := (heads_complete loop.format Short buf complete).mp short
    obtain ⟨good,others⟩ := (accepted_complete loop buf complete).mp accepted
    cases fuel with
    | zero => simp [drain,AllGood]
    | succ fuel =>
      rw [drain_taken loop fuel buf (taken_complete loop buf complete small) good,
        fullLength_short loop buf small]
      exact (allGood_cons loop _ _).mpr ⟨⟨complete.2,good⟩,ih rest others fuel⟩

/-- Sizes that a sixteen-bit full length cannot mistake for a longer packet. -/
def Near (size : Nat) : Prop := size ≤ 2^16 + loop.format.head

private theorem near_unfinished (buf : List UInt8) (near : Heads loop.format (Near loop) buf)
    (enough : loop.format.head ≤ buf.length) : size loop.format buf ≤ 2^16 + loop.format.head := by
  by_cases complete : Complete loop.format buf
  · exact ((heads_complete loop.format _ buf complete).mp near).1
  · exact (heads_unfinished loop.format _ buf complete).mp near enough

private theorem good_handed (buf : List UInt8) (taken : Taken loop buf)
    (good : (handed loop buf).Good loop) :
    Complete loop.format buf ∧ loop.handle (loop.read buf) = true :=
  ⟨⟨taken.1,good.1⟩,good.2⟩

theorem drain_short (fuel : Nat) (buf left : List UInt8) (bound : buf.length ≤ 2^16)
    (near : Heads loop.format (Near loop) buf) (ended : (drain loop fuel buf).outcome = .left left)
    (good : AllGood loop (drain loop fuel buf).actions) :
    Heads loop.format Short buf ∧ Accepted loop buf ∧ left = tail loop.format buf := by
  induction fuel generalizing buf with
  | zero => simp [drain] at ended
  | succ fuel ih =>
    by_cases taken : Taken loop buf
    · cases accepted : loop.handle (loop.read buf) with
      | false => simp [drain_refused loop fuel buf taken accepted] at ended
      | true =>
        rw [drain_taken loop fuel buf taken accepted] at ended good
        obtain ⟨first,others⟩ := (allGood_cons loop _ _).mp good
        obtain ⟨complete,-⟩ := good_handed loop buf taken first
        have whole := complete.2
        by_cases short : Short (size loop.format buf)
        · have full := fullLength_short loop buf short
          rw [full] at ended others
          have shorter : (buf.drop (size loop.format buf)).length ≤ 2^16 := by
            simp only [List.length_drop]
            omega
          have later := ((heads_complete loop.format _ buf complete).mp near).2
          obtain ⟨heads,all,rest⟩ := ih _ shorter later ended others
          exact ⟨(heads_complete loop.format _ buf complete).mpr ⟨short,heads⟩,
            (accepted_complete loop buf complete).mpr ⟨accepted,all⟩,
            by rw [tail_complete loop.format buf complete,rest]⟩
        · -- a full buffer of 2^16 bytes reads as length zero and is handed over for ever
          have zero : fullLength loop buf = 0 := by
            simp only [Short,fullLength] at *
            omega
          rw [zero,List.drop_zero] at ended others
          obtain ⟨heads,-,-⟩ := ih _ bound near ended others
          exact absurd ((heads_complete loop.format _ buf complete).mp heads).1 short
    · rw [drain_waits loop fuel buf taken] at ended
      obtain rfl : buf = left := by simpa using ended
      have short : loop.format.head ≤ buf.length → Short (size loop.format buf) := by
        intro enough
        have close := near_unfinished loop buf near enough
        by_contra long
        apply taken
        refine ⟨enough,?_⟩
        simp only [Short,fullLength] at *
        omega
      have missing : ¬ Complete loop.format buf := fun complete =>
        taken (taken_complete loop buf complete (short complete.1))
      exact ⟨(heads_unfinished loop.format _ buf missing).mpr short,
        by simp [Accepted,frames_unfinished loop.format buf missing],
        (tail_unfinished loop.format buf missing).symm⟩

theorem drain_not_refused (fuel : Nat) (buf left : List UInt8)
    (good : AllGood loop (drain loop fuel buf).actions) :
    (drain loop fuel buf).outcome ≠ .refused left := by
  induction fuel generalizing buf with
  | zero => simp [drain]
  | succ fuel ih =>
    by_cases taken : Taken loop buf
    · cases accepted : loop.handle (loop.read buf) with
      | false =>
        rw [drain_refused loop fuel buf taken accepted] at good
        have refused := (good_handed loop buf taken (good _ (by simp))).2
        simp [accepted] at refused
      | true =>
        rw [drain_taken loop fuel buf taken accepted] at good ⊢
        exact ih _ ((allGood_cons loop _ _).mp good).2
    · simp [drain_waits loop fuel buf taken]

theorem drain_ends (fuel : Nat) (buf : List UInt8) (small : buf.length < 2^16)
    (enough : buf.length < fuel) (good : AllGood loop (drain loop fuel buf).actions) :
    (drain loop fuel buf).outcome ≠ .running := by
  induction fuel generalizing buf with
  | zero => omega
  | succ fuel ih =>
    by_cases taken : Taken loop buf
    · cases accepted : loop.handle (loop.read buf) with
      | false => simp [drain_refused loop fuel buf taken accepted]
      | true =>
        rw [drain_taken loop fuel buf taken accepted] at good ⊢
        obtain ⟨first,others⟩ := (allGood_cons loop _ _).mp good
        obtain ⟨complete,-⟩ := good_handed loop buf taken first
        have whole := complete.2
        have positive := size_pos loop.format buf
        have full := fullLength_short loop buf (by simp only [Short]; omega)
        have shorter : (buf.drop (fullLength loop buf)).length < buf.length := by
          simp only [List.length_drop,full]
          omega
        exact ih _ (by omega) (by omega) others
    · simp [drain_waits loop fuel buf taken]

theorem fits_whole (format : Format UInt8) (bufSize : Nat) (buf chunk : List UInt8)
    (room : buf.length + chunk.length ≤ bufSize) : Fits format bufSize buf chunk := by
  rw [Fits,if_pos room]
  trivial

theorem fitsAll_whole (format : Format UInt8) (bufSize : Nat) (buf : List UInt8) (chunks : List (List UInt8))
    (room : buf.length + chunks.flatten.length ≤ bufSize) : FitsAll format bufSize buf chunks := by
  induction chunks generalizing buf with
  | nil => trivial
  | cons chunk chunks ih =>
    rw [List.flatten_cons,List.length_append] at room
    have kept := tail_length format (buf ++ chunk)
    rw [List.length_append] at kept
    exact ⟨fits_whole format bufSize buf chunk (by omega),ih _ (by omega)⟩

theorem fits_over (format : Format UInt8) (bufSize : Nat) (buf chunk : List UInt8)
    (overrun : bufSize < buf.length + chunk.length) :
    Fits format bufSize buf chunk ↔
      buf.length + (buf.length + chunk.length - bufSize) ≤ bufSize ∧
      Fits format bufSize
        (tail format (buf ++ chunk.take (buf.length + chunk.length - bufSize)))
        (chunk.drop (buf.length + chunk.length - bufSize)) := by
  rw [Fits,if_neg (by omega)]
  dsimp only
  split
  next inside => simp [inside]
  next outside => simp [outside]

theorem copyLength_whole (buf chunk : List UInt8) (room : buf.length + chunk.length ≤ loop.bufSize) :
    copyLength loop buf chunk = chunk.length := by
  have modulo := Nat.mod_le (buf.length + chunk.length) (2^32)
  rw [copyLength,if_pos (by omega)]

theorem copyLength_over (buf chunk : List UInt8) (held : buf.length ≤ loop.bufSize)
    (wide : chunk.length < 2^loop.lenBits) (overrun : loop.bufSize < buf.length + chunk.length)
    (noWrap : buf.length + chunk.length < 2^32) :
    copyLength loop buf chunk = buf.length + chunk.length - loop.bufSize := by
  rw [copyLength,Nat.mod_eq_of_lt noWrap,if_neg (by omega),Nat.mod_eq_of_lt (by omega)]

end Fantuan.StarNet.RecvStream

import Mathlib.Algebra.Group.Nat.Defs
import Mathlib.Data.List.Basic

/-! Length-prefixed frames: a head of fixed size that tells how many payload
elements follow it. The splitter cuts a string into its complete frames and the
unfinished tail, and cutting the string first changes nothing.
-/
namespace Fantuan.Lib.Frames

variable {α : Type}

structure Format (α : Type) where
  head : Nat
  payload : List α → Nat
  headPos : 0 < head
  headOnly : ∀ bytes more, head ≤ bytes.length → payload (bytes ++ more) = payload bytes

def size (format : Format α) (bytes : List α) : Nat := format.head + format.payload bytes

def Complete (format : Format α) (bytes : List α) : Prop :=
  format.head ≤ bytes.length ∧ size format bytes ≤ bytes.length

instance (format : Format α) (bytes : List α) : Decidable (Complete format bytes) :=
  inferInstanceAs (Decidable (_ ∧ _))

private theorem drop_shorter (format : Format α) (bytes : List α) (complete : Complete format bytes) :
    (bytes.drop (size format bytes)).length < bytes.length := by
  have positive := format.headPos
  have enough := complete.1
  simp only [List.length_drop,size]
  omega

def split (format : Format α) (bytes : List α) : List (List α) × List α :=
  if _complete : Complete format bytes then
    let rest := split format (bytes.drop (size format bytes))
    (bytes.take (size format bytes) :: rest.1,rest.2)
  else ([],bytes)
termination_by bytes.length
decreasing_by exact drop_shorter format bytes _complete

def frames (format : Format α) (bytes : List α) : List (List α) := (split format bytes).1

def tail (format : Format α) (bytes : List α) : List α := (split format bytes).2

/-- Every head that shows up while the string is split, that of the unfinished
tail included, announces a frame that satisfies the predicate on its size. -/
def Heads (format : Format α) (fits : Nat → Prop) (bytes : List α) : Prop :=
  (∀ frame ∈ frames format bytes, fits (size format frame)) ∧
    (format.head ≤ (tail format bytes).length → fits (size format (tail format bytes)))

def IsFrame (format : Format α) (bytes : List α) : Prop :=
  format.head ≤ bytes.length ∧ size format bytes = bytes.length

variable (format : Format α)

theorem size_pos (bytes : List α) : 0 < size format bytes := by
  have positive := format.headPos
  simp only [size]
  omega

theorem size_append (bytes more : List α) (enough : format.head ≤ bytes.length) :
    size format (bytes ++ more) = size format bytes := by
  simp [size,format.headOnly bytes more enough]

theorem complete_append (bytes more : List α) (complete : Complete format bytes) :
    Complete format (bytes ++ more) := by
  constructor
  · have enough := complete.1
    simp only [List.length_append]
    omega
  · have enough := complete.2
    rw [size_append format bytes more complete.1,List.length_append]
    omega

theorem size_take (bytes : List α) (complete : Complete format bytes) :
    size format (bytes.take (size format bytes)) = size format bytes := by
  have enough : format.head ≤ (bytes.take (size format bytes)).length := by
    have inside := complete.2
    simp only [List.length_take,size] at *
    omega
  calc size format (bytes.take (size format bytes))
      = size format (bytes.take (size format bytes) ++ bytes.drop (size format bytes)) :=
        (size_append format _ _ enough).symm
    _ = size format bytes := by rw [List.take_append_drop]

theorem take_isFrame (bytes : List α) (complete : Complete format bytes) :
    IsFrame format (bytes.take (size format bytes)) := by
  have inside := complete.2
  have length : (bytes.take (size format bytes)).length = size format bytes := by
    simp only [List.length_take]
    omega
  refine ⟨?_,?_⟩
  · rw [length,size]
    omega
  · rw [size_take format bytes complete,length]

theorem frames_complete (bytes : List α) (complete : Complete format bytes) :
    frames format bytes =
      bytes.take (size format bytes) :: frames format (bytes.drop (size format bytes)) := by
  rw [frames,split,dif_pos complete]
  rfl

theorem tail_complete (bytes : List α) (complete : Complete format bytes) :
    tail format bytes = tail format (bytes.drop (size format bytes)) := by
  rw [tail,split,dif_pos complete]
  rfl

theorem frames_unfinished (bytes : List α) (unfinished : ¬ Complete format bytes) :
    frames format bytes = [] := by
  rw [frames,split,dif_neg unfinished]

theorem tail_unfinished (bytes : List α) (unfinished : ¬ Complete format bytes) :
    tail format bytes = bytes := by
  rw [tail,split,dif_neg unfinished]

/-- Induction along the splitter: a complete frame in front, or none. -/
theorem split_induction {motive : List α → Prop}
    (unfinished : ∀ bytes, ¬ Complete format bytes → motive bytes)
    (frame : ∀ bytes, Complete format bytes → motive (bytes.drop (size format bytes)) → motive bytes)
    (bytes : List α) : motive bytes := by
  induction bytes using split.induct format with
  | case1 bytes complete ih => exact frame bytes complete ih
  | case2 bytes missing => exact unfinished bytes missing

theorem flatten_frames (bytes : List α) :
    (frames format bytes).flatten ++ tail format bytes = bytes := by
  induction bytes using split_induction format with
  | unfinished bytes missing =>
    simp [frames_unfinished format bytes missing,tail_unfinished format bytes missing]
  | frame bytes complete ih =>
    rw [frames_complete format bytes complete,tail_complete format bytes complete]
    simp only [List.flatten_cons,List.append_assoc,ih,List.take_append_drop]

theorem frames_isFrame (bytes : List α) : ∀ frame ∈ frames format bytes, IsFrame format frame := by
  induction bytes using split_induction format with
  | unfinished bytes missing => simp [frames_unfinished format bytes missing]
  | frame bytes complete ih =>
    rw [frames_complete format bytes complete]
    exact List.forall_mem_cons.mpr ⟨take_isFrame format bytes complete,ih⟩

theorem tail_length (bytes : List α) : (tail format bytes).length ≤ bytes.length := by
  have lengths := congrArg List.length (flatten_frames format bytes)
  simp only [List.length_append] at lengths
  omega

theorem tail_not_complete (bytes : List α) : ¬ Complete format (tail format bytes) := by
  induction bytes using split_induction format with
  | unfinished bytes missing => rwa [tail_unfinished format bytes missing]
  | frame bytes complete ih => rwa [tail_complete format bytes complete]

private theorem drop_append (bytes more : List α) (complete : Complete format bytes) :
    (bytes ++ more).drop (size format bytes) = bytes.drop (size format bytes) ++ more :=
  List.drop_append_of_le_length complete.2

theorem frames_append (bytes more : List α) :
    frames format (bytes ++ more) =
      frames format bytes ++ frames format (tail format bytes ++ more) := by
  induction bytes using split_induction format with
  | unfinished bytes missing =>
    simp [frames_unfinished format bytes missing,tail_unfinished format bytes missing]
  | frame bytes complete ih =>
    have whole := complete_append format bytes more complete
    rw [frames_complete format _ whole,frames_complete format bytes complete,
      tail_complete format bytes complete,size_append format bytes more complete.1,
      drop_append format bytes more complete,ih,List.take_append_of_le_length complete.2]
    rfl

theorem tail_append (bytes more : List α) :
    tail format (bytes ++ more) = tail format (tail format bytes ++ more) := by
  induction bytes using split_induction format with
  | unfinished bytes missing => rw [tail_unfinished format bytes missing]
  | frame bytes complete ih =>
    have whole := complete_append format bytes more complete
    rw [tail_complete format _ whole,tail_complete format bytes complete,
      size_append format bytes more complete.1,drop_append format bytes more complete,ih]

theorem isFrame_complete (frame : List α) (whole : IsFrame format frame) : Complete format frame :=
  ⟨whole.1,Nat.le_of_eq whole.2⟩

theorem take_not_complete (frame : List α) (whole : IsFrame format frame) (count : Nat)
    (part : count < frame.length) : ¬ Complete format (frame.take count) := by
  rintro ⟨enough,inside⟩
  have same := size_append format (frame.take count) (frame.drop count) enough
  rw [List.take_append_drop,whole.2] at same
  simp only [List.length_take] at inside
  omega

theorem frames_flatten (parts : List (List α)) (whole : ∀ part ∈ parts, IsFrame format part) :
    frames format parts.flatten = parts := by
  induction parts with
  | nil =>
    have positive := format.headPos
    refine frames_unfinished format [] fun complete => ?_
    have enough := complete.1
    simp only [List.length_nil] at enough
    omega
  | cons part parts ih =>
    have first := whole part (by simp)
    have complete := isFrame_complete format part first
    have all := complete_append format part parts.flatten complete
    rw [List.flatten_cons,frames_complete format _ all,size_append format part _ first.1,first.2,
      List.take_left,List.drop_left,ih fun part member => whole part (by simp [member])]

theorem tail_flatten (parts : List (List α)) (whole : ∀ part ∈ parts, IsFrame format part) :
    tail format parts.flatten = [] := by
  have lengths := congrArg List.length (flatten_frames format parts.flatten)
  rw [frames_flatten format parts whole] at lengths
  simpa using lengths

theorem heads_complete (fits : Nat → Prop) (bytes : List α) (complete : Complete format bytes) :
    Heads format fits bytes ↔
      fits (size format bytes) ∧ Heads format fits (bytes.drop (size format bytes)) := by
  simp only [Heads,frames_complete format bytes complete,tail_complete format bytes complete,
    List.forall_mem_cons,size_take format bytes complete,and_assoc]

theorem heads_unfinished (fits : Nat → Prop) (bytes : List α) (missing : ¬ Complete format bytes) :
    Heads format fits bytes ↔ (format.head ≤ bytes.length → fits (size format bytes)) := by
  simp [Heads,frames_unfinished format bytes missing,tail_unfinished format bytes missing]

/-- The heads met in a string are those met in a prefix of it and those met
after going on from the prefix's tail. -/
theorem heads_append (fits : Nat → Prop) (bytes more : List α) :
    Heads format fits (bytes ++ more) ↔
      Heads format fits bytes ∧ Heads format fits (tail format bytes ++ more) := by
  induction bytes using split_induction format with
  | unfinished bytes missing =>
    rw [tail_unfinished format bytes missing]
    constructor
    · intro met
      refine ⟨(heads_unfinished format fits bytes missing).mpr fun enough => ?_,met⟩
      rw [← size_append format bytes more enough]
      by_cases complete : Complete format (bytes ++ more)
      · exact ((heads_complete format fits _ complete).mp met).1
      · refine (heads_unfinished format fits _ complete).mp met ?_
        simp only [List.length_append]
        omega
    · exact And.right
  | frame bytes complete ih =>
    have whole := complete_append format bytes more complete
    rw [heads_complete format fits _ whole,heads_complete format fits bytes complete,
      tail_complete format bytes complete,size_append format bytes more complete.1,
      drop_append format bytes more complete,ih,and_assoc]

theorem heads_flatten (fits : Nat → Prop) (parts : List (List α))
    (whole : ∀ part ∈ parts, IsFrame format part) :
    Heads format fits parts.flatten ↔ ∀ part ∈ parts, fits part.length := by
  have positive := format.headPos
  rw [Heads,frames_flatten format parts whole,tail_flatten format parts whole]
  constructor
  · intro met part member
    rw [← (whole part member).2]
    exact met.1 part member
  · intro short
    refine ⟨fun part member => ?_,fun enough => ?_⟩
    · rw [(whole part member).2]
      exact short part member
    · simp only [List.length_nil] at enough
      omega

end Fantuan.Lib.Frames

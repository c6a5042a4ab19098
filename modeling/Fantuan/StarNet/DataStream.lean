import Fantuan.StarNet.Packet

/-! Streams into and out of a payload. A value is its bytes; an array is its memory, of
which Serialize copies as many bytes as its count and element size give in sixteen bits.
-/
namespace Fantuan.StarNet.DataStream
open Packet

def maxOutputBuffer : Nat := 65500

def arrayBytes (size : Nat) (count : UInt16) : Nat := (count.toNat * size) % 2^16

/-- What is written so far, and the size of the buffer. -/
structure OutputStream where
  capacity : Nat
  data : List UInt8
  fits : data.length ≤ capacity

def OutputStream.new (capacity : Nat) : OutputStream := ⟨capacity,[],Nat.zero_le capacity⟩

theorem OutputStream.new_capacity (capacity : Nat) : (OutputStream.new capacity).capacity = capacity := rfl

def OutputStream.serialize (value : List UInt8) (stream : OutputStream) : Option OutputStream :=
  if room : (stream.data ++ value).length ≤ stream.capacity then
    some ⟨stream.capacity,stream.data ++ value,room⟩
  else none

-- none also stands for a copy from outside the array
def OutputStream.serializeArray (size : Nat) (count : UInt16) (memory : List UInt8)
    (stream : OutputStream) : Option OutputStream :=
  if arrayBytes size count ≤ memory.length then
    stream.serialize (memory.take (arrayBytes size count))
  else none

/-- The received bytes, how many of them the stream knows, and how many are read. -/
structure InputStream where
  data : List UInt8
  dataLength : Nat
  dataIndex : Nat
  inside : dataIndex ≤ dataLength ∧ dataLength ≤ data.length

def InputStream.new (bits : Nat) (data : List UInt8) : InputStream where
  data := data
  dataLength := data.length % 2^bits
  dataIndex := 0
  inside := ⟨by omega,Nat.mod_le _ _⟩

def InputStream.serialize (size : Nat) (stream : InputStream) : Option (List UInt8 × InputStream) :=
  if enough : stream.dataIndex + size ≤ stream.dataLength then
    some ((stream.data.drop stream.dataIndex).take size,
      ⟨stream.data,stream.dataLength,stream.dataIndex + size,enough,stream.inside.2⟩)
  else none

def Ahead (stream : InputStream) (bytes : List UInt8) : Prop :=
  stream.dataLength = stream.data.length ∧ stream.data.drop stream.dataIndex = bytes

theorem new_ahead (bits : Nat) (data : List UInt8) (short : data.length < 2^bits) :
    Ahead (.new bits data) data :=
  ⟨Nat.mod_eq_of_lt short,rfl⟩

theorem serialize_ahead (stream : InputStream) (value rest : List UInt8)
    (ahead : Ahead stream (value ++ rest)) :
    ∃ next, stream.serialize value.length = some (value,next) ∧ Ahead next rest ∧
      next.data = stream.data ∧ next.dataIndex = stream.dataIndex + value.length := by
  obtain ⟨whole,here⟩ := ahead
  have lengths := congrArg List.length here
  rw [List.length_drop,List.length_append] at lengths
  have inside := stream.inside
  have enough : stream.dataIndex + value.length ≤ stream.dataLength := by omega
  have taken : (stream.data.drop stream.dataIndex).take value.length = value := by
    rw [here,List.take_left]
  have left : stream.data.drop (stream.dataIndex + value.length) = rest := by
    rw [← List.drop_drop,here,List.drop_left]
  rw [InputStream.serialize,dif_pos enough,taken]
  exact ⟨_,rfl,⟨whole,left⟩,rfl,rfl⟩

theorem serialize_part (stream : InputStream) (bytes : List UInt8) (size : Nat)
    (ahead : Ahead stream bytes) (enough : size ≤ bytes.length) :
    ∃ next, stream.serialize size = some (bytes.take size,next) ∧ Ahead next (bytes.drop size) ∧
      next.data = stream.data ∧ next.dataIndex = stream.dataIndex + size := by
  have parts : Ahead stream (bytes.take size ++ bytes.drop size) := by
    rw [List.take_append_drop]
    exact ahead
  obtain ⟨next,read,later,data,index⟩ := serialize_ahead stream _ _ parts
  rw [List.length_take_of_le enough] at read index
  exact ⟨next,read,later,data,index⟩

theorem serialize_short (stream : InputStream) (bytes : List UInt8) (size : Nat)
    (ahead : Ahead stream bytes) (short : bytes.length < size) : stream.serialize size = none := by
  obtain ⟨whole,here⟩ := ahead
  have lengths := congrArg List.length here
  rw [List.length_drop] at lengths
  exact dif_neg (by omega)

theorem output_serialize (stream next : OutputStream) (value : List UInt8)
    (written : stream.serialize value = some next) :
    next.data = stream.data ++ value ∧ next.capacity = stream.capacity := by
  rw [OutputStream.serialize] at written
  split at written
  · obtain rfl := Option.some.inj written
    exact ⟨rfl,rfl⟩
  · cases written

theorem output_serializeArray (stream next : OutputStream) (size : Nat) (count : UInt16)
    (memory : List UInt8) (written : stream.serializeArray size count memory = some next) :
    next.data = stream.data ++ memory.take (arrayBytes size count) ∧
      next.capacity = stream.capacity := by
  rw [OutputStream.serializeArray] at written
  split at written
  · exact output_serialize stream next _ written
  · cases written

end Fantuan.StarNet.DataStream

import Fantuan.StarNet.DataStream
import Mathlib.Data.List.Forall2

/-! What is written into a stream, read back by the mirrored calls. An array whose bytes do
not fit in sixteen bits is accepted with fewer bytes than it has.
-/
namespace Fantuan.StarNet.StreamRoundTrip
open DataStream Packet

/-- InputStream reads the first two, PeerInputStream the third. -/
inductive Kind
  | outputStream
  | serverOutputStream
  | peerOutputStream

def Kind.capacity : Kind → Nat
  | .outputStream => maxInputBuffer
  | .serverOutputStream => maxOutputBuffer
  | .peerOutputStream => maxPeerBuffer

def Kind.bits : Kind → Nat
  | .outputStream => 16
  | .serverOutputStream => 16
  | .peerOutputStream => 32

theorem capacity_le (kind : Kind) : kind.capacity ≤ 2^16 ∧ kind.capacity < 2^kind.bits := by
  cases kind <;> simp [Kind.capacity,Kind.bits,maxInputBuffer,maxOutputBuffer,maxPeerBuffer]

/-- An array of `count` elements, each of `size` bytes. -/
structure Elements where
  size : Nat
  count : UInt16
  memory : List UInt8
  sized : memory.length = count.toNat * size

def Elements.copied (elements : Elements) : Nat := arrayBytes elements.size elements.count

theorem copied_eq (elements : Elements) : elements.copied = elements.memory.length % 2^16 := by
  rw [Elements.copied,arrayBytes,elements.sized]

theorem copied_le (elements : Elements) : elements.copied ≤ elements.memory.length := by
  rw [copied_eq]
  exact Nat.mod_le _ _

inductive Write
  | value (bytes : List UInt8)
  | array (elements : Elements)

def Write.serialize : Write → OutputStream → Option OutputStream
  | .value bytes, stream => stream.serialize bytes
  | .array elements, stream => stream.serializeArray elements.size elements.count elements.memory

def writeAll : List Write → OutputStream → Option OutputStream
  | [], stream => some stream
  | write :: writes, stream => (write.serialize stream).bind (writeAll writes)

def Write.memory : Write → List UInt8
  | .value bytes => bytes
  | .array elements => elements.memory

def Write.bytes : Write → List UInt8
  | .value bytes => bytes
  | .array elements => elements.memory.take elements.copied

/-- A read names the size of its value, or the array of the caller that it fills. -/
inductive Read
  | value (size : Nat)
  | array (elements : Elements)

/-- The values and elements the caller has after the call. PeerInputStream gives out a pointer
into its packet, which the memory `behind` follows. -/
def Read.serialize (kind : Kind) (behind : List UInt8) (stream : InputStream) :
    Read → Option (List UInt8 × InputStream)
  | .value size => stream.serialize size
  | .array elements =>
    (stream.serialize elements.copied).map fun (copied,next) =>
      match kind with
      | .peerOutputStream =>
        (((stream.data ++ behind).drop stream.dataIndex).take elements.memory.length,next)
      | _ => (copied ++ elements.memory.drop copied.length,next)

def readAll (kind : Kind) (behind : List UInt8) :
    List Read → InputStream → Option (List (List UInt8) × InputStream)
  | [], stream => some ([],stream)
  | read :: reads, stream =>
    (read.serialize kind behind stream).bind fun (memory,next) =>
      (readAll kind behind reads next).map fun (rest,final) => (memory :: rest,final)

def Mirrors : Write → Read → Prop
  | .value bytes, .value size => bytes.length = size
  | .array elements, .array filled => elements.size = filled.size ∧ elements.count = filled.count
  | _, _ => False

/-- All mirrored reads succeed, give back what was handed in and read the stream to its end. -/
def RoundTrip (kind : Kind) (writes : List Write) (stream : OutputStream) : Prop :=
  ∀ reads behind, List.Forall₂ Mirrors writes reads →
    ∃ final, readAll kind behind reads (.new kind.bits stream.data) =
        some (writes.map Write.memory,final) ∧
      final.dataIndex = stream.data.length

/-- The bytes of an array have a size of sixteen bits. On a peer stream an array of which
nothing is written also comes back when the later writes happen to spell it. -/
def Write.Intact (kind : Kind) (rest : List UInt8) : Write → Prop
  | .value _ => True
  | .array elements => elements.count.toNat * elements.size < 2^16 ∨
    kind = .peerOutputStream ∧ rest = elements.memory

def AllIntact (kind : Kind) : List Write → Prop
  | [] => True
  | write :: writes => write.Intact kind (writes.flatMap Write.bytes) ∧ AllIntact kind writes

theorem writeAll_data (writes : List Write) (stream next : OutputStream)
    (accepted : writeAll writes stream = some next) :
    next.data = stream.data ++ writes.flatMap Write.bytes ∧ next.capacity = stream.capacity := by
  induction writes generalizing stream with
  | nil =>
    obtain rfl := Option.some.inj accepted
    simp
  | cons write writes ih =>
    obtain ⟨middle,first,rest⟩ := Option.bind_eq_some_iff.mp accepted
    obtain ⟨data,capacity⟩ := ih middle rest
    have written : middle.data = stream.data ++ write.bytes ∧
        middle.capacity = stream.capacity := by
      cases write with
      | value bytes => exact output_serialize stream middle bytes first
      | array elements => exact output_serializeArray stream middle _ _ _ first
    rw [data,capacity,written.1,written.2]
    simp

/-- What the caller of the mirrored read sees, when `rest` follows in the stream. -/
def seen (kind : Kind) (behind rest : List UInt8) : Write → Read → List UInt8
  | .array elements, .array filled =>
    match kind with
    | .peerOutputStream =>
      ((elements.memory.take elements.copied ++ rest) ++ behind).take elements.memory.length
    | _ => elements.memory.take elements.copied ++ filled.memory.drop elements.copied
  | write, _ => write.bytes

private theorem mirrored_elements (elements filled : Elements)
    (mirrors : Mirrors (.array elements) (.array filled)) :
    filled.copied = elements.copied ∧ filled.memory.length = elements.memory.length := by
  obtain ⟨size,count⟩ := mirrors
  rw [Elements.copied,Elements.copied,filled.sized,elements.sized,size,count]
  exact ⟨rfl,rfl⟩

theorem read_seen (kind : Kind) (behind rest : List UInt8) (write : Write) (read : Read)
    (stream : InputStream) (ahead : Ahead stream (write.bytes ++ rest))
    (mirrors : Mirrors write read) :
    ∃ next, read.serialize kind behind stream = some (seen kind behind rest write read,next) ∧
      Ahead next rest ∧ next.dataIndex = stream.dataIndex + write.bytes.length := by
  obtain ⟨next,copied,ahead',-,index⟩ := serialize_ahead stream write.bytes rest ahead
  refine ⟨next,?_,ahead',index⟩
  cases write with
  | value bytes =>
    cases read with
    | array filled => exact mirrors.elim
    | value size =>
      obtain rfl : bytes.length = size := mirrors
      exact copied
  | array elements =>
    cases read with
    | value size => exact mirrors.elim
    | array filled =>
      obtain ⟨count,length⟩ := mirrored_elements elements filled mirrors
      have taken : (Write.array elements).bytes.length = elements.copied := by
        rw [Write.bytes,List.length_take,Nat.min_eq_left (copied_le elements)]
      rw [taken] at copied
      rw [Read.serialize,count,copied,Option.map_some]
      have inside : stream.dataIndex ≤ stream.data.length :=
        le_trans stream.inside.1 stream.inside.2
      cases kind with
      | outputStream => simp only [seen,taken]; rfl
      | serverOutputStream => simp only [seen,taken]; rfl
      | peerOutputStream =>
        simp only [seen,length,List.drop_append_of_le_length inside]
        rw [ahead.2]
        rfl

/-- The caller's array with every byte another one. -/
private def Elements.other (elements : Elements) : Elements where
  size := elements.size
  count := elements.count
  memory := elements.memory.map (· + 1)
  sized := by rw [List.length_map,elements.sized]

private theorem map_succ_ne (bytes : List UInt8) (some : bytes ≠ []) :
    bytes.map (· + 1) ≠ bytes := by
  cases bytes with
  | nil => exact absurd rfl some
  | cons byte rest =>
    intro same
    have first : byte + 1 = byte := (List.cons.inj same).1
    simp at first

private theorem copied_part (elements : Elements) (long : ¬ elements.memory.length < 2^16) :
    elements.memory.take elements.copied ++ elements.other.memory.drop elements.copied ≠
      elements.memory := by
  intro same
  have halves := List.take_append_drop elements.copied elements.memory
  have rest : elements.other.memory.drop elements.copied = elements.memory.drop elements.copied :=
    List.append_cancel_left (same.trans halves.symm)
  rw [Elements.other,← List.map_drop] at rest
  refine map_succ_ne _ ?_ rest
  rw [← List.length_pos_iff,List.length_drop,copied_eq]
  omega

private theorem spelled (elements : Elements) (rest : List UInt8)
    (long : ¬ elements.memory.length < 2^16)
    (room : elements.copied + rest.length ≤ 2^16)
    (same : (elements.memory.take elements.copied ++ rest).take elements.memory.length =
      elements.memory) : rest = elements.memory := by
  have lengths := congrArg List.length same
  have cut := copied_eq elements
  simp only [List.length_take,List.length_append] at lengths
  have nothing : elements.copied = 0 := by omega
  rw [nothing,List.take_zero,List.nil_append] at same
  rwa [List.take_of_length_le (by omega)] at same

theorem seen_memory (kind : Kind) (rest : List UInt8) (write : Write)
    (room : (write.bytes ++ rest).length ≤ 2^16) :
    (∀ behind read, Mirrors write read → seen kind behind rest write read = write.memory) ↔
      write.Intact kind rest := by
  cases write with
  | value bytes => simp [seen,Write.bytes,Write.memory,Write.Intact]
  | array elements =>
    rw [Write.bytes,List.length_append,List.length_take,Nat.min_eq_left (copied_le elements)] at room
    simp only [Write.Intact,Write.memory,← elements.sized]
    constructor
    · intro all
      by_cases long : elements.memory.length < 2^16
      · exact .inl long
      · refine .inr ?_
        cases kind with
        | outputStream => exact absurd (all [] (.array elements.other) ⟨rfl,rfl⟩) (copied_part _ long)
        | serverOutputStream =>
          exact absurd (all [] (.array elements.other) ⟨rfl,rfl⟩) (copied_part _ long)
        | peerOutputStream =>
          have same := all [] (.array elements) ⟨rfl,rfl⟩
          simp only [seen,List.append_nil] at same
          exact ⟨rfl,spelled elements rest long room same⟩
    · intro intact behind read mirrors
      cases read with
      | value size => exact mirrors.elim
      | array filled =>
        have length := (mirrored_elements elements filled mirrors).2
        have cut := copied_eq elements
        by_cases short : elements.memory.length < 2^16
        · have all : elements.copied = elements.memory.length := by
            rw [cut,Nat.mod_eq_of_lt short]
          cases kind with
          | outputStream => simp [seen,all,length]
          | serverOutputStream => simp [seen,all,length]
          | peerOutputStream => simp [seen,all]
        · obtain ⟨peer,whole⟩ := intact.resolve_left short
          subst peer
          subst whole
          have nothing : elements.copied = 0 := by omega
          simp [seen,nothing]

def seenAll (kind : Kind) (behind : List UInt8) : List Write → List Read → List (List UInt8)
  | write :: writes, read :: reads =>
    seen kind behind (writes.flatMap Write.bytes) write read :: seenAll kind behind writes reads
  | _, _ => []

theorem readAll_seen (kind : Kind) (behind : List UInt8) (writes : List Write) (reads : List Read)
    (stream : InputStream) (ahead : Ahead stream (writes.flatMap Write.bytes))
    (mirrors : List.Forall₂ Mirrors writes reads) :
    ∃ final, readAll kind behind reads stream = some (seenAll kind behind writes reads,final) ∧
      final.dataIndex = stream.dataIndex + (writes.flatMap Write.bytes).length := by
  induction mirrors generalizing stream with
  | nil => exact ⟨stream,rfl,rfl⟩
  | @cons write read writes reads mirror rest ih =>
    rw [List.flatMap_cons] at ahead
    obtain ⟨next,first,ahead',index⟩ := read_seen kind behind _ write read stream ahead mirror
    obtain ⟨final,last,index'⟩ := ih next ahead'
    refine ⟨final,?_,?_⟩
    · simp [readAll,first,last,seenAll]
    · rw [index',index,List.flatMap_cons,List.length_append,Nat.add_assoc]

def Write.mirror : Write → Read
  | .value bytes => .value bytes.length
  | .array elements => .array elements

theorem mirror_mirrors (writes : List Write) :
    List.Forall₂ Mirrors writes (writes.map Write.mirror) := by
  induction writes with
  | nil => exact .nil
  | cons write writes ih =>
    refine .cons ?_ ih
    cases write with
    | value bytes => exact rfl
    | array elements => exact ⟨rfl,rfl⟩

theorem seenAll_memory (kind : Kind) (writes : List Write)
    (room : (writes.flatMap Write.bytes).length ≤ 2^16) :
    (∀ behind reads, List.Forall₂ Mirrors writes reads →
        seenAll kind behind writes reads = writes.map Write.memory) ↔ AllIntact kind writes := by
  induction writes with
  | nil =>
    refine ⟨fun _ => trivial,?_⟩
    rintro - behind reads mirrors
    cases mirrors
    rfl
  | cons write writes ih =>
    rw [List.flatMap_cons] at room
    have fewer : (writes.flatMap Write.bytes).length ≤ 2^16 := by
      rw [List.length_append] at room
      omega
    rw [AllIntact,← ih fewer,← seen_memory kind _ write room]
    constructor
    · intro all
      refine ⟨fun behind read mirrors => ?_,fun behind reads mirrors => ?_⟩
      · exact (List.cons.inj (all behind _ (.cons mirrors (mirror_mirrors writes)))).1
      · have first : Mirrors write write.mirror := by
          cases mirror_mirrors [write] with
          | cons mirror _ => exact mirror
        exact (List.cons.inj (all behind _ (.cons first mirrors))).2
    · rintro ⟨first,rest⟩ behind reads mirrors
      cases mirrors with
      | cons mirror mirrors =>
        rw [seenAll,first behind _ mirror,rest behind _ mirrors,List.map_cons]

theorem roundTrip_seenAll (kind : Kind) (writes : List Write) (stream : OutputStream)
    (accepted : writeAll writes (.new kind.capacity) = some stream) :
    (writes.flatMap Write.bytes).length ≤ 2^16 ∧
      (RoundTrip kind writes stream ↔ ∀ behind reads, List.Forall₂ Mirrors writes reads →
        seenAll kind behind writes reads = writes.map Write.memory) := by
  obtain ⟨data,capacity⟩ := writeAll_data writes _ stream accepted
  rw [OutputStream.new,List.nil_append] at data
  have bound : stream.data.length ≤ kind.capacity := by
    calc stream.data.length ≤ stream.capacity := stream.fits
      _ = kind.capacity := capacity
  have limits := capacity_le kind
  have ahead : Ahead (.new kind.bits stream.data) (writes.flatMap Write.bytes) := by
    rw [← data]
    exact new_ahead kind.bits stream.data (by omega)
  refine ⟨by rw [← data]; omega,?_,?_⟩
  · intro back behind reads mirrors
    obtain ⟨final,first,-⟩ := back reads behind mirrors
    obtain ⟨final',second,-⟩ := readAll_seen kind behind writes reads _ ahead mirrors
    rw [first] at second
    exact (Prod.mk.inj (Option.some.inj second)).1.symm
  · intro all reads behind mirrors
    obtain ⟨final,result,index⟩ := readAll_seen kind behind writes reads _ ahead mirrors
    refine ⟨final,?_,?_⟩
    · rw [result,all behind reads mirrors]
    · rw [index,← data]
      exact Nat.zero_add _

/-- What the streams accept comes back whole exactly if every array is intact. -/
theorem stream_roundTrip (kind : Kind) (writes : List Write) (stream : OutputStream)
    (accepted : writeAll writes (.new kind.capacity) = some stream) :
    RoundTrip kind writes stream ↔ AllIntact kind writes := by
  obtain ⟨room,meaning⟩ := roundTrip_seenAll kind writes stream accepted
  exact meaning.trans (seenAll_memory kind writes room)

theorem stream_roundTrip_mixed :
    RoundTrip .outputStream [.value [1,2],.array ⟨2,2,[3,4,5,6],rfl⟩] ⟨1024,[1,2,3,4,5,6],by decide⟩ :=
  (stream_roundTrip .outputStream [.value [1,2],.array ⟨2,2,[3,4,5,6],rfl⟩] _ rfl).mpr
    ⟨trivial,.inl (by decide),trivial⟩

/-- Sixteen elements of 4096 bytes: the low sixteen bits of their size are zero. -/
def wrapped (byte : UInt8) : Elements where
  size := 4096
  count := 16
  memory := List.replicate 65536 byte
  sized := List.length_replicate

private theorem wrapped_copied (byte : UInt8) : (wrapped byte).copied = 0 := by
  change arrayBytes 4096 16 = 0
  decide

/-- They are accepted, nothing of them is written, and the reader keeps its own bytes. -/
theorem stream_roundTrip_wrapped :
    writeAll [.array (wrapped 1)] (.new Kind.outputStream.capacity) =
        some (.new Kind.outputStream.capacity) ∧
      ¬ RoundTrip .outputStream [.array (wrapped 1)] (.new Kind.outputStream.capacity) := by
  have nothing : arrayBytes (wrapped 1).size (wrapped 1).count = 0 := wrapped_copied 1
  have accepted : writeAll [.array (wrapped 1)] (.new Kind.outputStream.capacity) =
      some (.new Kind.outputStream.capacity) := by
    simp [writeAll,Write.serialize,OutputStream.serializeArray,nothing,OutputStream.serialize,
      OutputStream.new]
  refine ⟨accepted,fun back => ?_⟩
  have all := (roundTrip_seenAll _ _ _ accepted).2.mp back [] [.array (wrapped 0)]
    (.cons ⟨rfl,rfl⟩ .nil)
  simp only [seenAll,seen,wrapped_copied,List.take_zero,List.nil_append,List.drop_zero,
    List.map_cons,List.map_nil,Write.memory] at all
  have memory : List.replicate 65536 (0 : UInt8) = List.replicate 65536 1 := (List.cons.inj all).1
  have first := (List.replicate_inj.mp memory).2.resolve_left (by decide)
  cases first

end Fantuan.StarNet.StreamRoundTrip

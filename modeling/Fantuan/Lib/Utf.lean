import Mathlib.Data.List.Basic

/-! Texts in UTF-8 and in UTF-16, and the conversions between them. What is illegal in the source becomes
the replacement character.
-/
namespace Fantuan.Lib.Utf

def replacement : Char := '\uFFFD'

def utf8 (text : List Char) : List UInt8 := text.flatMap String.utf8EncodeChar

/-- Two surrogates beyond the basic plane. -/
def units (c : Char) : List UInt16 :=
  if c.toNat < 65536 then [UInt16.ofNat c.toNat]
  else [UInt16.ofNat (55296 + (c.toNat - 65536) / 1024),UInt16.ofNat (56320 + (c.toNat - 65536) % 1024)]

def utf16 (text : List Char) : List UInt16 := text.flatMap units

def decodeUtf8 : Nat → List UInt8 → List Char
  | 0,_ => []
  | _ + 1,[] => []
  | fuel + 1,byte :: bytes =>
    match (byte :: bytes).toByteArray.utf8DecodeChar? 0 with
    | some c => c :: decodeUtf8 fuel ((byte :: bytes).drop c.utf8Size)
    | none => replacement :: decodeUtf8 fuel bytes

def isHigh (unit : UInt16) : Prop := 55296 ≤ unit.toNat ∧ unit.toNat < 56320
def isLow (unit : UInt16) : Prop := 56320 ≤ unit.toNat ∧ unit.toNat < 57344

instance (unit : UInt16) : Decidable (isHigh unit) := inferInstanceAs (Decidable (_ ∧ _))
instance (unit : UInt16) : Decidable (isLow unit) := inferInstanceAs (Decidable (_ ∧ _))

/-- The character of one unit; a surrogate has none. -/
def single (unit : UInt16) : Char := if isHigh unit ∨ isLow unit then replacement else Char.ofNat unit.toNat

def paired (high low : UInt16) : Char := Char.ofNat (65536 + (high.toNat - 55296) * 1024 + (low.toNat - 56320))

def decodeUtf16 : List UInt16 → List Char
  | [] => []
  | [unit] => [single unit]
  | unit :: next :: rest =>
    if isHigh unit ∧ isLow next then paired unit next :: decodeUtf16 rest
    else single unit :: decodeUtf16 (next :: rest)

def widened (bytes : List UInt8) : List UInt16 := utf16 (decodeUtf8 bytes.length bytes)

def narrowed (units : List UInt16) : List UInt8 := utf8 (decodeUtf16 units)

@[simp] theorem utf8_cons (c : Char) (text : List Char) : utf8 (c :: text) = String.utf8EncodeChar c ++ utf8 text := rfl
@[simp] theorem utf16_cons (c : Char) (text : List Char) : utf16 (c :: text) = units c ++ utf16 text := rfl

theorem char_range (c : Char) : c.toNat < 55296 ∨ 57343 < c.toNat ∧ c.toNat < 1114112 := c.valid

theorem decodeUtf8_utf8 (text : List Char) (fuel : Nat) (enough : (utf8 text).length ≤ fuel) :
    decodeUtf8 fuel (utf8 text) = text := by
  induction text generalizing fuel with
  | nil => cases fuel <;> rfl
  | cons c text ih =>
    have first := String.length_utf8EncodeChar c
    have size : 0 < c.utf8Size := c.utf8Size_pos
    rw [utf8_cons,List.length_append] at enough
    obtain ⟨fuel,rfl⟩ : ∃ less, fuel = less + 1 := ⟨fuel - 1,by omega⟩
    obtain ⟨byte,bytes,shape⟩ := List.exists_cons_of_length_pos (l := utf8 (c :: text))
      (by rw [utf8_cons,List.length_append]; omega)
    have decoded : (utf8 (c :: text)).toByteArray.utf8DecodeChar? 0 = some c :=
      List.utf8DecodeChar?_utf8Encode_cons
    have rest : (utf8 (c :: text)).drop c.utf8Size = utf8 text := by
      rw [utf8_cons,← first,List.drop_left]
    rw [shape] at decoded rest ⊢
    rw [decodeUtf8,decoded]
    dsimp only
    rw [rest,ih fuel (by omega)]

theorem widened_utf8 (text : List Char) : widened (utf8 text) = utf16 text := by
  rw [widened,decodeUtf8_utf8 text _ (Nat.le_refl _)]

theorem single_unit (c : Char) (short : c.toNat < 65536) :
    ¬isHigh (UInt16.ofNat c.toNat) ∧ single (UInt16.ofNat c.toNat) = c := by
  have size : (UInt16.ofNat c.toNat).toNat = c.toNat := UInt16.toNat_ofNat_of_lt' short
  have range := char_range c
  have high : ¬isHigh (UInt16.ofNat c.toNat) := by
    rw [isHigh,size]
    omega
  have low : ¬isLow (UInt16.ofNat c.toNat) := by
    rw [isLow,size]
    omega
  refine ⟨high,?_⟩
  rw [single,if_neg (not_or.mpr ⟨high,low⟩),size,Char.ofNat_toNat]

theorem decodeUtf16_single (c : Char) (short : c.toNat < 65536) (rest : List UInt16) :
    decodeUtf16 (UInt16.ofNat c.toNat :: rest) = c :: decodeUtf16 rest := by
  obtain ⟨high,same⟩ := single_unit c short
  cases rest with
  | nil =>
    change [single _] = [c]
    rw [same]
  | cons next rest => rw [decodeUtf16,if_neg fun pair => high pair.1,same]

theorem decodeUtf16_paired (c : Char) (long : ¬c.toNat < 65536) (rest : List UInt16) :
    decodeUtf16 (units c ++ rest) = c :: decodeUtf16 rest := by
  have range := char_range c
  have high : (UInt16.ofNat (55296 + (c.toNat - 65536) / 1024)).toNat = 55296 + (c.toNat - 65536) / 1024 :=
    UInt16.toNat_ofNat_of_lt' (by change _ < 65536; omega)
  have low : (UInt16.ofNat (56320 + (c.toNat - 65536) % 1024)).toNat = 56320 + (c.toNat - 65536) % 1024 :=
    UInt16.toNat_ofNat_of_lt' (by change _ < 65536; omega)
  rw [units,if_neg long]
  change decodeUtf16 (_ :: _ :: rest) = _
  rw [decodeUtf16,if_pos (by rw [isHigh,isLow,high,low]; omega),paired,high,low]
  have same : 65536 + (55296 + (c.toNat - 65536) / 1024 - 55296) * 1024 +
      (56320 + (c.toNat - 65536) % 1024 - 56320) = c.toNat := by omega
  rw [same,Char.ofNat_toNat]

theorem decodeUtf16_utf16 (text : List Char) : decodeUtf16 (utf16 text) = text := by
  induction text with
  | nil => rfl
  | cons c text ih =>
    by_cases short : c.toNat < 65536
    · rw [utf16_cons,units,if_pos short]
      change decodeUtf16 (_ :: utf16 text) = _
      rw [decodeUtf16_single c short,ih]
    · rw [utf16_cons,decodeUtf16_paired c short,ih]

theorem narrowed_utf16 (text : List Char) : narrowed (utf16 text) = utf8 text := by
  rw [narrowed,decodeUtf16_utf16]

theorem units_length (c : Char) : (units c).length ≤ (String.utf8EncodeChar c).length := by
  have size : 0 < c.utf8Size := c.utf8Size_pos
  rw [String.length_utf8EncodeChar,units]
  split_ifs with short
  · exact size
  · have one : ¬c.val ≤ 0x7F := by rw [UInt32.le_iff_toNat_le]; change ¬c.toNat ≤ 127; omega
    have two : ¬c.val ≤ 0x7FF := by rw [UInt32.le_iff_toNat_le]; change ¬c.toNat ≤ 2047; omega
    have three : ¬c.val ≤ 0xFFFF := by rw [UInt32.le_iff_toNat_le]; change ¬c.toNat ≤ 65535; omega
    have size : c.utf8Size = 4 := (if_neg one).trans ((if_neg two).trans (if_neg three))
    rw [size]
    exact Nat.le_add_left 2 2

theorem utf16_length (text : List Char) : (utf16 text).length ≤ (utf8 text).length := by
  induction text with
  | nil => exact Nat.le_refl _
  | cons c text ih =>
    have first := units_length c
    rw [utf16_cons,utf8_cons,List.length_append,List.length_append]
    omega

theorem unit_ne_zero (n : Nat) (some : 0 < n) (fits : n < 65536) : (0 : UInt16) ≠ UInt16.ofNat n := by
  intro same
  have zero := congrArg UInt16.toNat same
  rw [UInt16.toNat_ofNat_of_lt' fits] at zero
  exact Nat.ne_of_gt some zero.symm

theorem byte_ne_zero (n : Nat) (some : 0 < n) (fits : n < 256) : (0 : UInt8) ≠ UInt8.ofNat n := by
  intro same
  have zero := congrArg UInt8.toNat same
  rw [UInt8.toNat_ofNat_of_lt' fits] at zero
  exact Nat.ne_of_gt some zero.symm

theorem char_pos (c : Char) (some : c ≠ '\x00') : 0 < c.toNat :=
  Nat.pos_of_ne_zero fun zero => some (Char.toNat_inj.mp zero)

theorem units_free (c : Char) (some : c ≠ '\x00') : 0 ∉ units c := by
  have positive := char_pos c some
  have range := char_range c
  rw [units]
  split_ifs with short
  · rw [List.mem_singleton]
    exact unit_ne_zero _ positive short
  · rw [List.mem_cons,List.mem_singleton,not_or]
    exact ⟨unit_ne_zero _ (by omega) (by omega),unit_ne_zero _ (by omega) (by omega)⟩

theorem bytes_free (c : Char) (some : c ≠ '\x00') : 0 ∉ String.utf8EncodeChar c := by
  have positive := char_pos c some
  have same : c.val.toNat = c.toNat := rfl
  rw [String.utf8EncodeChar,same]
  split_ifs with one two three
  · rw [List.mem_singleton]
    exact byte_ne_zero _ positive (by omega)
  · simp only [List.mem_cons,List.not_mem_nil,or_false,not_or]
    exact ⟨byte_ne_zero _ (by omega) (by omega),byte_ne_zero _ (by omega) (by omega)⟩
  · simp only [List.mem_cons,List.not_mem_nil,or_false,not_or]
    exact ⟨byte_ne_zero _ (by omega) (by omega),byte_ne_zero _ (by omega) (by omega),
      byte_ne_zero _ (by omega) (by omega)⟩
  · simp only [List.mem_cons,List.not_mem_nil,or_false,not_or]
    exact ⟨byte_ne_zero _ (by omega) (by omega),byte_ne_zero _ (by omega) (by omega),
      byte_ne_zero _ (by omega) (by omega),byte_ne_zero _ (by omega) (by omega)⟩

theorem utf16_free (text : List Char) (free : '\x00' ∉ text) : 0 ∉ utf16 text := by
  intro member
  obtain ⟨c,inside,member⟩ := List.mem_flatMap.mp member
  exact units_free c (fun same => free (same ▸ inside)) member

theorem utf8_free (text : List Char) (free : '\x00' ∉ text) : 0 ∉ utf8 text := by
  intro member
  obtain ⟨c,inside,member⟩ := List.mem_flatMap.mp member
  exact bytes_free c (fun same => free (same ▸ inside)) member

end Fantuan.Lib.Utf

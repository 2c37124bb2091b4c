import Mathlib.Tactic.IntervalCases
import Companion.Text.Segments
import Companion.Text.Utf8

/-!
Text as bytes, character by character. Main statements: the bytes of a text are shown as that text,
and cutting them at a letter of one byte cuts the text at this letter.
-/
set_option autoImplicit false

namespace Companion.Utf8

def spelled (chars : List Char) : Bytes := chars.flatMap String.utf8EncodeChar

theorem spelled_append (first second : List Char) :
    spelled (first ++ second) = spelled first ++ spelled second := List.flatMap_append

theorem encode_eq (text : String) : encode text = spelled text.toList := by
  have same : (String.ofList text.toList).toByteArray = text.toList.utf8Encode := String.toByteArray_ofList
  rw [String.ofList_toList] at same
  rw [encode, same, spelled]
  simp [List.utf8Encode]

theorem encode_of_list (chars : List Char) : encode (String.ofList chars) = spelled chars := by
  rw [encode_eq, String.toList_ofList]

theorem scalar_range (c : Char) : c.toNat < 0xD800 ∨ 0xDFFF < c.toNat ∧ c.toNat < 0x110000 := c.valid

/-! ## Showing the bytes of a text -/

theorem to_nat_of_nat {n : Nat} (small : n < 256) : (UInt8.ofNat n).toNat = n := by
  simp [UInt8.toNat_ofNat', Nat.mod_eq_of_lt small]

theorem replacing_opening {n value : Nat} {expected : Expected} (small : n < 256)
    (opens : lead n = .opening value expected) (rest : Bytes) :
    replacing 0 [] (UInt8.ofNat n :: rest) = replacing value expected rest := by
  rw [replacing, to_nat_of_nat small, opens]

theorem replacing_within {low high n : Nat} (value : Nat) (next : Nat × Nat) (others : Expected)
    (rest : Bytes) (within : low ≤ n % 64 + 128 ∧ n % 64 + 128 ≤ high) :
    replacing value ((low, high) :: next :: others) (UInt8.ofNat (n % 64 + 128) :: rest) =
      replacing (value * 64 + n % 64) (next :: others) rest := by
  have byte : (UInt8.ofNat (n % 64 + 128)).toNat = n % 64 + 128 := to_nat_of_nat (by omega)
  have bits : (n % 64 + 128) % 64 = n % 64 := by omega
  rw [replacing, byte, if_pos within, bits]
  rfl

theorem replacing_last (value n : Nat) (rest : Bytes) :
    replacing value [tail] (UInt8.ofNat (n % 64 + 128) :: rest) =
      Char.ofNat (value * 64 + n % 64) :: replacing 0 [] rest := by
  have byte : (UInt8.ofNat (n % 64 + 128)).toNat = n % 64 + 128 := to_nat_of_nat (by omega)
  have bits : (n % 64 + 128) % 64 = n % 64 := by omega
  rw [tail, replacing, byte, if_pos (by omega), bits]
  rfl

theorem replacing_one {v : Nat} (one : v ≤ 127) (rest : Bytes) :
    replacing 0 [] (UInt8.ofNat v :: rest) = Char.ofNat v :: replacing 0 [] rest := by
  have byte : lead v = .whole (Char.ofNat v) := by rw [lead, if_pos (by omega)]
  rw [replacing, to_nat_of_nat (by omega), byte]

theorem replacing_two {v : Nat} (least : 127 < v) (most : v ≤ 2047) (rest : Bytes) :
    replacing 0 [] (UInt8.ofNat (v / 64 % 32 + 192) :: UInt8.ofNat (v % 64 + 128) :: rest) =
      Char.ofNat v :: replacing 0 [] rest := by
  have first : lead (v / 64 % 32 + 192) = .opening (v / 64) [tail] := by
    have value : v / 64 % 32 + 192 - 192 = v / 64 := by omega
    rw [lead, if_neg (by omega), if_neg (by omega), if_pos (by omega), value]
  rw [replacing_opening (by omega) first, replacing_last]
  congr 2
  omega

-- The intervals that the first byte of a longer character leaves to the second one.
theorem lead_three (high : Nat) (most : high < 16) :
    lead (high + 224) = .opening high
      [(if high = 0 then 0xA0 else 0x80, if high = 0xD then 0x9F else 0xBF), tail] := by
  interval_cases high <;> rfl

theorem lead_four (high : Nat) (most : high < 5) :
    lead (high + 240) = .opening high
      [(if high = 0 then 0x90 else 0x80, if high = 4 then 0x8F else 0xBF), tail, tail] := by
  interval_cases high <;> rfl

theorem replacing_three {v : Nat} (least : 2047 < v) (most : v ≤ 65535)
    (scalar : v < 0xD800 ∨ 0xDFFF < v) (rest : Bytes) :
    replacing 0 [] (UInt8.ofNat (v / 4096 % 16 + 224) :: UInt8.ofNat (v / 64 % 64 + 128)
        :: UInt8.ofNat (v % 64 + 128) :: rest) =
      Char.ofNat v :: replacing 0 [] rest := by
  have high : v / 4096 % 16 = v / 4096 := by omega
  have first := lead_three (v / 4096) (by omega)
  rw [high, replacing_opening (by omega) first, replacing_within, replacing_last]
  · congr 2
    omega
  · split <;> split <;> omega

theorem replacing_four (v : Nat) (least : 65535 < v) (most : v < 0x110000) (rest : Bytes) :
    replacing 0 [] (UInt8.ofNat (v / 262144 % 8 + 240) :: UInt8.ofNat (v / 4096 % 64 + 128)
        :: UInt8.ofNat (v / 64 % 64 + 128) :: UInt8.ofNat (v % 64 + 128) :: rest) =
      Char.ofNat v :: replacing 0 [] rest := by
  have high : v / 262144 % 8 = v / 262144 := by omega
  have first := lead_four (v / 262144) (by omega)
  rw [high, replacing_opening (by omega) first, replacing_within, tail, replacing_within, ← tail,
    replacing_last]
  · congr 2
    omega
  · omega
  · split <;> split <;> omega

theorem replacing_encoded (c : Char) (rest : Bytes) :
    replacing 0 [] (String.utf8EncodeChar c ++ rest) = c :: replacing 0 [] rest := by
  have scalar := scalar_range c
  have whole : Char.ofNat c.toNat = c := Char.ofNat_toNat c
  have number : c.val.toNat = c.toNat := rfl
  simp only [String.utf8EncodeChar, number]
  split
  · rename_i one
    simpa [whole] using replacing_one one rest
  · split
    · rename_i one two
      simpa [whole] using replacing_two (by omega) two rest
    · split
      · rename_i one two three
        simpa [whole] using replacing_three (by omega) three (by omega) rest
      · simpa [whole] using replacing_four c.toNat (by omega) (by omega) rest

@[simp] theorem decode_replacing_encode (text : String) : decodeReplacing (encode text) = text := by
  have shown (chars : List Char) : replacing 0 [] (spelled chars) = chars := by
    induction chars with
    | nil => rfl
    | cons c rest ih => rw [spelled, List.flatMap_cons, replacing_encoded, ← spelled, ih]
  rw [decodeReplacing, encode_eq, shown, String.ofList_toList]

/-! ## Cutting the bytes of a text -/

-- All bytes of a character that has several are above the ASCII ones.
theorem letter_of_byte {c : Char} {byte : UInt8} (among : byte ∈ String.utf8EncodeChar c)
    (small : byte.toNat < 128) : c.toNat = byte.toNat := by
  have scalar := scalar_range c
  have number : c.val.toNat = c.toNat := rfl
  simp only [String.utf8EncodeChar, number] at among
  split at among
  · rename_i one
    rw [List.mem_singleton] at among
    rw [among, to_nat_of_nat (by omega)]
  · exfalso
    have high {n : Nat} (least : 128 ≤ n) (most : n < 256) (same : byte = UInt8.ofNat n) : False := by
      rw [same, to_nat_of_nat most] at small
      omega
    split at among
    · simp only [List.mem_cons, List.not_mem_nil, or_false] at among
      rcases among with same | same <;> exact high (by omega) (by omega) same
    · split at among
      · simp only [List.mem_cons, List.not_mem_nil, or_false] at among
        rcases among with same | same | same <;> exact high (by omega) (by omega) same
      · simp only [List.mem_cons, List.not_mem_nil, or_false] at among
        rcases among with same | same | same | same <;> exact high (by omega) (by omega) same

end Companion.Utf8

namespace Companion.Text

variable {α : Type} [DecidableEq α]

theorem segments_cons_other {separator item : α} (other : item ≠ separator) (rest : List α) :
    segments separator (item :: rest) = (segments separator rest).modifyHead (item :: ·) := by
  rw [segments, if_neg other]
  cases pieces : segments separator rest with
  | nil => exact absurd pieces (segments_ne_nil separator rest)
  | cons piece more => rfl

theorem segments_append {separator : α} {front : List α} (free : separator ∉ front) (rest : List α) :
    segments separator (front ++ rest) = (segments separator rest).modifyHead (front ++ ·) := by
  induction front with
  | nil =>
      rw [List.nil_append]
      cases segments separator rest <;> rfl
  | cons item more ih =>
      have other : item ≠ separator := fun same => free (same ▸ List.mem_cons_self)
      have behind : separator ∉ more := fun among => free (List.mem_cons_of_mem item among)
      rw [List.cons_append, segments_cons_other other, ih behind]
      cases segments separator rest <;> rfl

end Companion.Text

namespace Companion.Utf8

open Text (segments joinSegments)

section

variable (separator : Char) (ascii : separator.toNat < 128)

include ascii

theorem spelled_ascii : String.utf8EncodeChar separator = [UInt8.ofNat separator.toNat] := by
  have number : separator.val.toNat = separator.toNat := rfl
  rw [String.utf8EncodeChar, number, if_pos (by omega)]

-- A separator of one byte stands between the characters of a text as it does between its bytes.
theorem segments_spelled (chars : List Char) :
    segments (UInt8.ofNat separator.toNat) (spelled chars) = (segments separator chars).map spelled := by
  induction chars with
  | nil => rfl
  | cons c rest ih =>
      rw [spelled, List.flatMap_cons, ← spelled]
      by_cases same : c = separator
      · rw [same, spelled_ascii separator ascii, List.singleton_append, segments, if_pos rfl, ih, segments,
          if_pos rfl]
        rfl
      · have free : UInt8.ofNat separator.toNat ∉ String.utf8EncodeChar c := by
          intro among
          have byte : (UInt8.ofNat separator.toNat).toNat = separator.toNat := to_nat_of_nat (by omega)
          have number := letter_of_byte among (by omega)
          exact same (Char.toNat_inj.mp (number.trans byte))
        rw [Text.segments_append free, ih, Text.segments_cons_other same]
        cases segments separator rest <;> rfl

theorem join_spelled (names : List (List Char)) :
    joinSegments (UInt8.ofNat separator.toNat) (names.map spelled) =
      spelled (joinSegments separator names) := by
  induction names with
  | nil => rfl
  | cons name rest ih =>
      cases rest with
      | nil => rfl
      | cons next others =>
          have mark : spelled (separator :: joinSegments separator (next :: others)) =
              UInt8.ofNat separator.toNat :: spelled (joinSegments separator (next :: others)) := by
            rw [spelled, List.flatMap_cons, spelled_ascii separator ascii]
            rfl
          rw [joinSegments, spelled_append, mark, ← ih]
          rfl

end

end Companion.Utf8

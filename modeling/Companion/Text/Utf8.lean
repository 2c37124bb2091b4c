/-!
Text as bytes: the encoding UTF-8. Main statement: reading the bytes of a text gives the text.
-/
set_option autoImplicit false

namespace Companion

abbrev Bytes := List UInt8

namespace Utf8

def encode (text : String) : Bytes := text.toByteArray.data.toList

def byteLength : List Char → Nat
  | [] => 0
  | c :: rest => c.utf8Size + byteLength rest

def decode? (bytes : Bytes) : Option String := String.fromUTF8? ⟨bytes.toArray⟩

@[simp] theorem decode?_encode (text : String) : decode? (encode text) = some text := by
  have same : (⟨(encode text).toArray⟩ : ByteArray) = text.toByteArray := by
    simp [encode]
  unfold decode? String.fromUTF8?
  rw [same, dif_pos text.isValidUTF8]
  rfl

-- The intervals in which the bytes that continue a character must lie, in order.
abbrev Expected := List (Nat × Nat)

inductive Lead
  | whole (c : Char)
  | opening (value : Nat) (expected : Expected)
  | invalid

def tail : Nat × Nat := (0x80, 0xBF)

-- The narrowed intervals exclude long spellings, surrogates and numbers above `0x10FFFF`.
def lead (byte : Nat) : Lead :=
  if byte < 0x80 then .whole (Char.ofNat byte)
  else if byte < 0xC2 then .invalid
  else if byte < 0xE0 then .opening (byte - 0xC0) [tail]
  else if byte = 0xE0 then .opening 0 [(0xA0, 0xBF), tail]
  else if byte = 0xED then .opening 0xD [(0x80, 0x9F), tail]
  else if byte < 0xF0 then .opening (byte - 0xE0) [tail, tail]
  else if byte = 0xF0 then .opening 0 [(0x90, 0xBF), tail, tail]
  else if byte < 0xF4 then .opening (byte - 0xF0) [tail, tail, tail]
  else if byte = 0xF4 then .opening 4 [(0x80, 0x8F), tail, tail]
  else .invalid

def replacement : Char := '\uFFFD'

-- The characters of bytes that may spell none: `value` and `expected` belong to the character
-- that is being read, `expected` is empty between characters. Each longest run of bytes that
-- could begin a character but does not go on as one becomes one replacement character.
def replacing (value : Nat) (expected : Expected) : Bytes → List Char
  | [] => if expected.isEmpty then [] else [replacement]
  | byte :: rest =>
    match expected with
    | (low, high) :: others =>
      if low ≤ byte.toNat ∧ byte.toNat ≤ high then
        let value := value * 64 + byte.toNat % 64
        if others.isEmpty then Char.ofNat value :: replacing 0 [] rest
        else replacing value others rest
      else
        match lead byte.toNat with
        | .whole c => replacement :: c :: replacing 0 [] rest
        | .opening value expected => replacement :: replacing value expected rest
        | .invalid => replacement :: replacement :: replacing 0 [] rest
    | [] =>
      match lead byte.toNat with
      | .whole c => c :: replacing 0 [] rest
      | .opening value expected => replacing value expected rest
      | .invalid => replacement :: replacing 0 [] rest

def decodeReplacing (bytes : Bytes) : String := String.ofList (replacing 0 [] bytes)

end Utf8
end Companion

/-!
Numerals: digits of a radix read as a number of 32 bits. The first digit that cannot be taken
decides what is wrong.
-/
set_option autoImplicit false

namespace Companion.Text

namespace Numeral

inductive Error
  | empty
  | invalidDigit
  | tooLarge
deriving DecidableEq

def Error.message : Error → String
  | .empty => "cannot parse integer from empty string"
  | .invalidDigit => "invalid digit found in string"
  | .tooLarge => "number too large to fit in target type"

-- The first number that does not fit.
def limit : Nat := 0x100000000

def digitValue? (c : Char) : Option Nat :=
  if '0' ≤ c ∧ c ≤ '9' then some (c.toNat - '0'.toNat)
  else if 'a' ≤ c ∧ c ≤ 'z' then some (c.toNat - 'a'.toNat + 10)
  else if 'A' ≤ c ∧ c ≤ 'Z' then some (c.toNat - 'A'.toNat + 10)
  else none

def digit? (radix : Nat) (c : Char) : Option Nat :=
  (digitValue? c).filter (· < radix)

def extend (radix : Nat) : Nat → List Char → Except Error Nat
  | value, [] => .ok value
  | value, c :: rest =>
    match digit? radix c with
    | none => .error .invalidDigit
    | some digit =>
      let value := value * radix + digit
      if value < limit then extend radix value rest else .error .tooLarge

def read (radix : Nat) (digits : List Char) : Except Error Nat :=
  if digits = [] then .error .empty else extend radix 0 digits

end Numeral
end Companion.Text

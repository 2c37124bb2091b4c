import Companion.Text.Utf8
import Companion.Xml.Error

/-!
References: names between an ampersand and a semicolon, and the characters they stand for. Text
and attribute values are written with a name for each of the five characters that markup uses.
-/
set_option autoImplicit false

namespace Companion.Xml

open Utf8 (byteLength)

def predefined : List (List Char × Char) := [
  (['l', 't'], '<'), (['g', 't'], '>'), (['a', 'm', 'p'], '&'), (['a', 'p', 'o', 's'], '\''),
  (['q', 'u', 'o', 't'], '"')]

def entity? (name : List Char) : Option Char :=
  (predefined.find? fun entry => entry.1 = name).map Prod.snd

def escapeChar (c : Char) : List Char :=
  match predefined.find? fun entry => entry.2 = c with
  | some (name, _) => '&' :: name ++ [';']
  | none => [c]

-- Text as it is written, so that nothing in it is taken for markup.
def escape (text : List Char) : List Char := text.flatMap escapeChar

def charOf? (value : Nat) : Option Char :=
  if value.isValidChar then some (Char.ofNat value) else none

-- The radix of a character reference and its digits: an `x` in front means sixteen.
def radixed : List Char → Nat × List Char
  | 'x' :: digits => (16, digits)
  | digits => (10, digits)

def withoutPlus : List Char → List Char
  | '+' :: digits => digits
  | digits => digits

def numbered? (code : List Char) : Option Char :=
  let (radix, digits) := radixed code
  match Text.Numeral.read radix (withoutPlus digits) with
  | .ok value => charOf? value
  | .error _ => none

def unsigned (digits : List Char) (radix : Nat) : Except NumberError Nat :=
  match digits with
  | '+' :: _ | '-' :: _ => .error .sign
  | digits => (Text.Numeral.read radix digits).mapError .numeral

def numbered (code : List Char) : Except NumberError Char := do
  let (radix, digits) := radixed code
  let value ← unsigned digits radix
  if value = 0 then throw .zero
  match charOf? value with
  | some c => return c
  | none => throw (.notAScalar value)

-- The character that a reference means; its name begins at a byte of the text around it.
def resolveAt (start : Nat) (name : List Char) : Except EscapeError Char :=
  match name with
  | '#' :: code => (numbered code).mapError .number
  | _ =>
    match entity? name with
    | some c => .ok c
    | none => .error (.unknownEntity start (start + byteLength name) (String.ofList name))

def endsReference (c : Char) : Bool := c = '&' ∨ c = ';'

def unescape (total : Nat) (chars : List Char) : Except EscapeError (List Char) :=
  match chars with
  | [] => .ok []
  | '&' :: rest =>
    let start := total - byteLength chars
    match _ : rest.dropWhile fun c => !endsReference c with
    | ';' :: after => do
      let c ← resolveAt (start + 1) (rest.takeWhile fun c => !endsReference c)
      return c :: (← unescape total after)
    | _ => .error (.noSemicolon start total)
  | c :: rest => do return c :: (← unescape total rest)
termination_by chars.length
decreasing_by
  · have shorter := (List.dropWhile_suffix (l := rest) fun c => !endsReference c).length_le
    simp_all
    omega
  · simp

def unescapeValue (value : List Char) : Except EscapeError (List Char) :=
  unescape (byteLength value) value

end Companion.Xml

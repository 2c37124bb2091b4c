import Companion.Xml.Reference
import Companion.Xml.Token

/-!
Attributes: keys and quoted values in the content of a tag. Erroneous attributes stand among the
others, and reading goes on behind them where it can.
-/
set_option autoImplicit false

namespace Companion.Xml

open Utf8 (byteLength)

structure Attribute where
  key : List Char
  value : List Char
deriving DecidableEq

namespace Attribute

def isQuote (c : Char) : Bool := c = '"' ∨ c = '\''

def dropSpaces (chars : List Char) : List Char := chars.dropWhile isSpace

def isKeyChar (c : Char) : Bool := !isSpace c && c ≠ '='

-- What follows a value that is not looked at: it ends at the first space, even within quotes.
def afterValue (chars : List Char) : List Char := chars.dropWhile fun c => !isSpace c

inductive Value
  | quoted (value after : List Char)
  | unclosed (quote : Char)
  | unquoted (rest : List Char)
  | missing

def readValue (chars : List Char) : Value :=
  match dropSpaces chars with
  | [] => .missing
  | c :: rest =>
    if isQuote c then
      match rest.dropWhile (· ≠ c) with
      | [] => .unclosed c
      | _ :: after => .quoted (rest.takeWhile (· ≠ c)) after
    else .unquoted (c :: rest)

theorem length_dropSpaces (chars : List Char) : (dropSpaces chars).length ≤ chars.length :=
  (List.dropWhile_suffix _).length_le

theorem length_afterValue (chars : List Char) : (afterValue chars).length ≤ chars.length :=
  (List.dropWhile_suffix _).length_le

theorem length_of_quoted {chars value after : List Char}
    (read : readValue chars = .quoted value after) : after.length ≤ chars.length := by
  have spaces := length_dropSpaces chars
  unfold readValue at read
  split at read
  · simp at read
  · rename_i c rest behind
    rw [behind, List.length_cons] at spaces
    split at read
    · split at read
      · simp at read
      · rename_i quote tail closing
        have shorter := (List.dropWhile_suffix (l := rest) (· ≠ c)).length_le
        rw [closing, List.length_cons] at shorter
        simp only [Value.quoted.injEq] at read
        rw [← read.2]
        omega
    · simp at read

theorem length_of_unquoted {chars rest : List Char}
    (read : readValue chars = .unquoted rest) : rest.length ≤ chars.length := by
  have spaces := length_dropSpaces chars
  unfold readValue at read
  split at read
  · simp at read
  · rename_i behind
    rw [behind] at spaces
    split at read
    · split at read <;> simp at read
    · simp only [Value.unquoted.injEq] at read
      rwa [← read]

abbrev Item := Except AttributeError Attribute

abbrev Seen := List (List Char × Nat)

-- The first attribute of characters at the end of a tag of `total` bytes, the keys up to it, and
-- the characters behind it. Without `unique` a key may come again.
def next (unique : Bool) (total : Nat) (seen : Seen) (chars : List Char) :
    Option (Item × Seen × List Char) :=
  let position (rest : List Char) : Nat := total - byteLength rest
  match dropSpaces chars with
  | [] => none
  | first :: rest =>
    let key := first :: rest.takeWhile isKeyChar
    match dropSpaces (rest.dropWhile isKeyChar) with
    | [] => some (.error (.noEquals total), seen, [])
    | '=' :: behind =>
      match seen.find? fun earlier => unique && earlier.1 = key with
      | some (_, earlier) =>
        some (.error (.duplicated (position (first :: rest)) earlier), seen, afterValue behind)
      | none =>
        let seen := (key, position (first :: rest)) :: seen
        match readValue behind with
        | .missing => some (.error (.noValue total), seen, [])
        | .unclosed quote => some (.error (.noClosingQuote total quote), seen, [])
        | .unquoted rest => some (.error (.unquoted (position rest)), seen, afterValue rest)
        | .quoted value after => some (.ok ⟨key, value⟩, seen, after)
    | other => some (.error (.noEquals (position other)), seen, other)

theorem length_of_next {unique : Bool} {total : Nat} {seen more : Seen} {item : Item}
    {chars after : List Char} (read : next unique total seen chars = some (item, more, after)) :
    after.length < chars.length := by
  have spaces := length_dropSpaces chars
  unfold next at read
  dsimp only at read
  split at read
  · simp at read
  · rename_i first rest begun
    rw [begun, List.length_cons] at spaces
    have key := (List.dropWhile_suffix (l := rest) isKeyChar).length_le
    have equals := length_dropSpaces (rest.dropWhile isKeyChar)
    split at read
    · simp only [Option.some.injEq, Prod.mk.injEq] at read
      rw [← read.2.2, List.length_nil]
      omega
    · rename_i behind found
      rw [found, List.length_cons] at equals
      split at read
      · have := length_afterValue behind
        simp only [Option.some.injEq, Prod.mk.injEq] at read
        rw [← read.2.2]
        omega
      · split at read <;> simp only [Option.some.injEq, Prod.mk.injEq] at read <;>
          rw [← read.2.2]
        · rw [List.length_nil]
          omega
        · rw [List.length_nil]
          omega
        · rename_i tail unquoted
          have := length_of_unquoted unquoted
          have := length_afterValue tail
          omega
        · rename_i quoted
          have := length_of_quoted quoted
          omega
    · simp only [Option.some.injEq, Prod.mk.injEq] at read
      rw [← read.2.2]
      omega

def items (unique : Bool) (total : Nat) (seen : Seen) (chars : List Char) : List Item :=
  match _ : next unique total seen chars with
  | none => []
  | some (item, seen, rest) => item :: items unique total seen rest
termination_by chars.length
decreasing_by exact length_of_next ‹_›

def ofTag (unique : Bool) (content : List Char) : List Item :=
  items unique (byteLength content) [] (content.dropWhile fun c => !isSpace c)

end Attribute
end Companion.Xml

import Companion.Xml.Token

/-!
Scans: the tokens of a whole text, up to its first error. An end tag must have the name of the
element that was opened last. Main statement: what follows a token is no longer than what its
first character left, so a scan ends.
-/
set_option autoImplicit false

namespace Companion.Xml

/-! ## What follows a token is no longer than what it was read from -/

theorem length_of_tagContent {quote : Option Char} {chars content after : List Char}
    (read : tagContent quote chars = .ok (content, after)) : after.length ≤ chars.length := by
  induction chars generalizing quote content with
  | nil => simp [tagContent] at read
  | cons c rest ih =>
    unfold tagContent at read
    split at read
    · simp only [Except.ok.injEq, Prod.mk.injEq] at read
      simp [← read.2]
    · cases inner : tagContent (quoteAfter quote c) rest with
      | error error => simp [inner, Except.map] at read
      | ok value =>
        obtain ⟨inside, behind⟩ := value
        simp only [inner, Except.map, Except.ok.injEq, Prod.mk.injEq] at read
        obtain ⟨_, rfl⟩ := read
        exact Nat.le_succ_of_le (ih inner)

theorem length_of_afterDoctype {part : DoctypePart} {chars after : List Char}
    (read : afterDoctype part chars = some after) : after.length ≤ chars.length := by
  fun_induction afterDoctype part chars <;>
    simp_all <;> omega

theorem length_of_upTo {mark : String} {error : MarkupError}
    {token : List Char → Option Token} {chars after : List Char} {found : Option Token}
    (read : upTo mark error token chars = .ok (found, after)) : after.length ≤ chars.length := by
  unfold upTo at read
  split at read
  · rename_i cut
    simp only [Except.ok.injEq, Prod.mk.injEq] at read
    rw [← read.2]
    exact Text.length_of_cutAt? cut
  · simp at read

theorem length_of_readDoctype {chars after : List Char} {found : Option Token}
    (read : readDoctype chars = .ok (found, after)) : after.length ≤ chars.length := by
  unfold readDoctype at read
  split at read
  · simp at read
  · rename_i rest behind parts
    split at read
    · simp at read
    · simp only [Except.ok.injEq, Prod.mk.injEq] at read
      obtain ⟨_, rfl⟩ := read
      simp only [Option.bind_eq_some_iff, Option.map_eq_some_iff] at parts
      obtain ⟨tail, word, between, ended, same⟩ := parts
      simp only [Prod.mk.injEq] at same
      obtain ⟨rfl, rfl⟩ := same
      have shorter := length_of_afterDoctype ended
      unfold afterWord? at word
      split at word
      · simp only [Option.some.injEq] at word
        rw [← word, List.length_drop] at shorter
        omega
      · simp at word

theorem length_of_readDeclaration {chars after : List Char} {found : Option Token}
    (read : readDeclaration chars = .ok (found, after)) : after.length ≤ chars.length := by
  unfold readDeclaration at read
  split at read
  · have := length_of_upTo read
    simp only [List.length_cons]
    omega
  · simp at read
  · have := length_of_upTo read
    simp only [List.length_cons]
    omega
  · simp at read
  · exact length_of_readDoctype read
  · exact length_of_readDoctype read
  · simp at read

theorem length_of_readInstruction {chars after : List Char} {found : Option Token}
    (read : readInstruction chars = .ok (found, after)) : after.length ≤ chars.length := by
  unfold readInstruction at read
  split at read
  · simp at read
  · exact length_of_upTo read

theorem length_of_readMarkup {chars after : List Char} {found : Option Token}
    (read : readMarkup chars = .ok (found, after)) : after.length ≤ chars.length := by
  unfold readMarkup at read
  split at read
  · exact Nat.le_succ_of_le (length_of_readDeclaration read)
  · exact Nat.le_succ_of_le (length_of_readInstruction read)
  · split at read
    · rename_i content
      simp only [Except.ok.injEq, Prod.mk.injEq] at read
      rw [← read.2]
      exact length_of_tagContent content
    · simp at read

theorem length_of_readReference {chars after : List Char} {found : Option Token}
    (read : readReference chars = .ok (found, after)) : after.length ≤ chars.length := by
  unfold readReference at read
  dsimp only at read
  split at read
  · rename_i behind rest
    simp only [Except.ok.injEq, Prod.mk.injEq] at read
    have shorter := (List.dropWhile_suffix (l := chars)
      fun c => !endsText c && decide (c ≠ ';')).length_le
    rw [rest, List.length_cons] at shorter
    rw [← read.2]
    omega
  · simp at read

theorem length_of_readToken {c : Char} {rest after : List Char} {found : Option Token}
    (read : readToken c rest = .ok (found, after)) : after.length ≤ rest.length := by
  unfold readToken at read
  split at read
  · exact length_of_readMarkup read
  · split at read
    · exact length_of_readReference read
    · simp only [Except.ok.injEq, Prod.mk.injEq] at read
      rw [← read.2]
      exact (List.dropWhile_suffix _).length_le

/-! ## Scans -/

-- The tokens of a text, and the error that kept the rest from being read.
structure Scan where
  tokens : List Token := []
  failure : Option Error := none
deriving DecidableEq

namespace Scan

def cons (token : Token) (scan : Scan) : Scan := { scan with tokens := token :: scan.tokens }

def failed (error : Error) : Scan := ⟨[], some error⟩

def ofChars : List Char → Scan
  | [] => {}
  | c :: rest =>
    match _ : readToken c rest with
    | .error error => failed error
    | .ok (none, after) => ofChars after
    | .ok (some token, after) => cons token (ofChars after)
termination_by chars => chars.length
decreasing_by all_goals exact Nat.lt_succ_of_le (length_of_readToken ‹_›)

-- The scan up to the first end tag that does not fit the names of the open elements.
def balance (failure : Option Error) : List (List Char) → List Token → Scan
  | _, [] => ⟨[], failure⟩
  | opened, .start content :: rest =>
    cons (.start content) (balance failure (tagName content :: opened) rest)
  | [], .stop name :: _ => failed (.structure (.unopened (String.ofList name)))
  | expected :: opened, .stop name :: rest =>
    if name = expected then cons (.stop name) (balance failure opened rest)
    else
      failed (.structure (.mismatched (String.ofList expected) (String.ofList name)))
  | opened, token :: rest => cons token (balance failure opened rest)

def withoutMark : List Char → List Char
  | '\uFEFF' :: rest => rest
  | chars => chars

def ofText (text : String) : Scan :=
  let scan := ofChars (withoutMark text.toList)
  balance scan.failure [] scan.tokens

end Scan
end Companion.Xml

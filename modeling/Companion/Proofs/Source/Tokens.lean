import Mathlib.Data.Bool.AllAny
import Mathlib.Data.List.Chain
import Companion.Identifier

/-!
Tokens of source text, and how they are spelled. Main statement: `spell_injective`, tokens of which no two
words stand side by side are known by their text.
-/
set_option autoImplicit false

namespace Companion.Source

inductive Token
  | word (text : String)
  -- What stands in quotes, as it is before it is quoted.
  | literal (text : String)
  | mark (c : Char)
deriving DecidableEq

namespace Token

def isMark : Token → Bool
  | .mark _ => true
  | _ => false

-- Two tokens can stand side by side if one of them is a mark.
def Apart (token other : Token) : Prop := token.isMark = true ∨ other.isMark = true

-- A token without a line end.
def Flat : Token → Prop
  | .word text | .literal text => '\n' ∉ text.toList
  | .mark c => c ≠ '\n'

instance (token : Token) : Decidable token.Flat :=
  match token with
  | .word text | .literal text => inferInstanceAs (Decidable ('\n' ∉ text.toList))
  | .mark c => inferInstanceAs (Decidable (c ≠ '\n'))

end Token

-- The characters that are in no word: the ones between words, and those that open and close text.
def outside : List Char := [' ', '\t', '\n', '(', ')', '.', ',', '=', '!', ';', '\x7b', '\x7d', '"', '/', '\'']

-- How a language spells words and quoted text.
structure Spelling where
  isWord : Char → Bool
  quoted : Char → List Char
  unworded : ∀ c ∈ outside, isWord c = false
  onOneLine : ∀ c, c ≠ '\n' → '\n' ∉ quoted c
  -- Quoted text is known by its characters, and none of them is taken for the quote that ends it.
  known : ∀ {c other : Char} {rest more : List Char}, quoted c ++ rest = quoted other ++ more → c = other ∧ rest = more
  inner : ∀ {c : Char} {rest more : List Char}, more.head? ≠ some '"' → quoted c ++ rest ≠ '"' :: more

namespace Spelling

variable (spelling : Spelling)

def spellOne : Token → List Char
  | .word text => text.toList
  | .literal text => '"' :: text.toList.flatMap spelling.quoted ++ ['"']
  | .mark c => [c]

def spell (tokens : List Token) : List Char := tokens.flatMap spelling.spellOne

structure IsWord (text : String) : Prop where
  nonempty : text.toList ≠ []
  inside : ∀ c ∈ text.toList, spelling.isWord c = true

-- Words are made of their characters, marks are none of these, and quoted text stays on its line.
def IsToken : Token → Prop
  | .word text => spelling.IsWord text
  | .literal text => '\n' ∉ text.toList
  | .mark c => c ∈ outside ∧ c ≠ '"' ∧ c ≠ '\n'

-- Tokens that can be told from each other in a text.
structure Separated (tokens : List Token) : Prop where
  each : ∀ token ∈ tokens, spelling.IsToken token
  apart : tokens.IsChain Token.Apart

variable {spelling} {tokens others : List Token}

/-! ## Quoted text -/

-- A character with a sign in front of it, if it is special.
def escaped (sign : Char) (special : List Char) (c : Char) : List Char := if c ∈ special then [sign, c] else [c]

theorem escaped_known {sign : Char} {special : List Char} (own : sign ∈ special) {c other : Char}
    {rest more : List Char} (same : escaped sign special c ++ rest = escaped sign special other ++ more) :
    c = other ∧ rest = more := by
  rw [escaped, escaped] at same
  by_cases among : c ∈ special
  · rw [if_pos among] at same
    by_cases otherAmong : other ∈ special
    · rw [if_pos otherAmong] at same
      exact List.cons.inj (List.cons.inj same).2
    · rw [if_neg otherAmong] at same
      exact absurd ((List.cons.inj same).1 ▸ own) otherAmong
  · rw [if_neg among] at same
    by_cases otherAmong : other ∈ special
    · rw [if_pos otherAmong] at same
      exact absurd ((List.cons.inj same).1 ▸ own) among
    · rw [if_neg otherAmong] at same
      exact List.cons.inj same

-- A quote ends the text, unless it has a sign in front of it or is one itself.
theorem escaped_inner {sign : Char} {special : List Char} (quote : '"' ∈ special)
    (alone : sign = '"' → special = ['"']) {c : Char} {rest more : List Char} (ends : more.head? ≠ some '"') :
    escaped sign special c ++ rest ≠ '"' :: more := by
  intro same
  rw [escaped] at same
  by_cases among : c ∈ special
  · rw [if_pos among] at same
    obtain ⟨first, behind⟩ := List.cons.inj same
    rw [alone first] at among
    rw [← behind, List.mem_singleton.mp among] at ends
    exact ends rfl
  · rw [if_neg among] at same
    exact among ((List.cons.inj same).1 ▸ quote)

theorem escaped_one_line {sign : Char} {special : List Char} (solid : sign ≠ '\n') {c : Char} (other : c ≠ '\n') :
    '\n' ∉ escaped sign special c := by
  rw [escaped]
  split <;> simp [Ne.symm other, Ne.symm solid]

theorem quoted_same {text other rest more : List Char} (ends : rest.head? ≠ some '"')
    (otherEnds : more.head? ≠ some '"')
    (same : text.flatMap spelling.quoted ++ '"' :: rest = other.flatMap spelling.quoted ++ '"' :: more) :
    text = other ∧ rest = more := by
  induction text generalizing other with
  | nil =>
      cases other with
      | nil => exact ⟨rfl, (List.cons.inj same).2⟩
      | cons d others =>
          rw [List.flatMap_cons, List.append_assoc] at same
          exact absurd same.symm (spelling.inner ends)
  | cons c others ih =>
      rw [List.flatMap_cons, List.append_assoc] at same
      cases other with
      | nil => exact absurd same (spelling.inner otherEnds)
      | cons d otherRest =>
          rw [List.flatMap_cons, List.append_assoc] at same
          obtain ⟨rfl, behind⟩ := spelling.known same
          obtain ⟨rfl, whole⟩ := ih behind
          exact ⟨rfl, whole⟩

@[simp] theorem spell_nil : spelling.spell [] = [] := rfl

@[simp] theorem spell_cons (token : Token) (rest : List Token) :
    spelling.spell (token :: rest) = spelling.spellOne token ++ spelling.spell rest := List.flatMap_cons

@[simp] theorem spell_append (front back : List Token) :
    spelling.spell (front ++ back) = spelling.spell front ++ spelling.spell back := List.flatMap_append

theorem separated_nil : spelling.Separated [] := ⟨nofun, .nil⟩

theorem separated_cons {token : Token} {rest : List Token} (separated : spelling.Separated (token :: rest)) :
    spelling.IsToken token ∧ spelling.Separated rest :=
  ⟨separated.each token List.mem_cons_self,
    fun other member => separated.each other (List.mem_cons_of_mem token member), separated.apart.tail⟩

-- What follows a token ends it if it is a word or quoted text.
def Ends (spelling : Spelling) (rest : List Char) : Prop :=
  ∀ c ∈ rest.head?, spelling.isWord c = false ∧ c ≠ '"'

theorem ends_of_separated {token : Token} {rest : List Token} (separated : spelling.Separated (token :: rest))
    (solid : token.isMark = false) : spelling.Ends (spelling.spell rest) := by
  cases rest with
  | nil => exact nofun
  | cons next others =>
      have apart : token.isMark = true ∨ next.isMark = true := (List.isChain_cons_cons.mp separated.apart).1
      rw [solid] at apart
      have proper := (separated_cons (separated_cons separated).2).1
      cases next with
      | mark c =>
          intro first begun
          cases begun
          exact ⟨spelling.unworded c proper.1, proper.2.1⟩
      | word text => simp [Token.isMark] at apart
      | literal text => simp [Token.isMark] at apart

theorem word_same {text other : String} {rest more : List Char} (word : spelling.IsWord text)
    (otherWord : spelling.IsWord other) (ends : spelling.Ends rest) (otherEnds : spelling.Ends more)
    (same : text.toList ++ rest = other.toList ++ more) : text = other ∧ rest = more := by
  have taken {text : String} {rest : List Char} (word : spelling.IsWord text) (ends : spelling.Ends rest) :
      (text.toList ++ rest).takeWhile spelling.isWord = text.toList := by
    rw [List.takeWhile_append_of_pos word.inside]
    cases rest with
    | nil => exact List.append_nil _
    | cons c others => rw [List.takeWhile_cons_of_neg (by simp [(ends c rfl).1]), List.append_nil]
  have whole := congrArg (List.takeWhile spelling.isWord) same
  rw [taken word ends, taken otherWord otherEnds] at whole
  rw [whole] at same
  exact ⟨String.toList_inj.mp whole, List.append_cancel_left same⟩

-- What a token begins with: a word with a character of words, quoted text with a quote.
def Begins (spelling : Spelling) (token : Token) (c : Char) : Prop :=
  match token with
  | .word _ => spelling.isWord c = true
  | .literal _ => c = '"'
  | .mark own => c = own

theorem begins_of_token {token : Token} (proper : spelling.IsToken token) (rest : List Char) :
    ∃ c more, spelling.spellOne token ++ rest = c :: more ∧ spelling.Begins token c := by
  cases token with
  | literal text => exact ⟨_, _, rfl, rfl⟩
  | mark c => exact ⟨_, _, rfl, rfl⟩
  | word text =>
      obtain ⟨c, others, spelled⟩ := List.exists_cons_of_ne_nil proper.nonempty
      refine ⟨c, others ++ rest, ?_, proper.inside c ?_⟩
      · rw [spellOne, spelled, List.cons_append]
      · rw [spelled]
        exact List.mem_cons_self

-- Of two texts of tokens the first token is the same, and so is what follows.
theorem first_same {token other : Token} {rest more : List Char} (proper : spelling.IsToken token)
    (otherProper : spelling.IsToken other) (ends : token.isMark = false → spelling.Ends rest)
    (otherEnds : other.isMark = false → spelling.Ends more)
    (same : spelling.spellOne token ++ rest = spelling.spellOne other ++ more) : token = other ∧ rest = more := by
  have quote : spelling.isWord '"' = false := spelling.unworded '"' (by decide)
  obtain ⟨c, _, spelled, begins⟩ := begins_of_token proper rest
  obtain ⟨d, _, otherSpelled, otherBegins⟩ := begins_of_token otherProper more
  have head : c = d := by
    rw [spelled, otherSpelled] at same
    exact (List.cons.inj same).1
  subst head
  cases token with
  | word text =>
      cases other with
      | word otherText =>
          obtain ⟨rfl, behind⟩ := word_same proper otherProper (ends rfl) (otherEnds rfl) same
          exact ⟨rfl, behind⟩
      | literal otherText =>
          cases otherBegins
          rw [Begins, quote] at begins
          cases begins
      | mark own =>
          cases otherBegins
          rw [Begins, spelling.unworded _ otherProper.1] at begins
          cases begins
  | literal text =>
      cases begins
      cases other with
      | word otherText =>
          rw [Begins, quote] at otherBegins
          cases otherBegins
      | literal otherText =>
          have inner : text.toList.flatMap spelling.quoted ++ '"' :: rest =
              otherText.toList.flatMap spelling.quoted ++ '"' :: more := by
            simpa [spellOne] using same
          obtain ⟨within, behind⟩ := quoted_same (fun begun => ((ends rfl) _ begun).2 rfl)
            (fun begun => ((otherEnds rfl) _ begun).2 rfl) inner
          exact ⟨by rw [String.toList_inj.mp within], behind⟩
      | mark own =>
          cases otherBegins
          exact absurd rfl otherProper.2.1
  | mark own =>
      cases begins
      cases other with
      | word otherText =>
          rw [Begins, spelling.unworded _ proper.1] at otherBegins
          cases otherBegins
      | literal otherText =>
          cases otherBegins
          exact absurd rfl proper.2.1
      | mark otherOwn =>
          cases otherBegins
          exact ⟨rfl, (List.cons.inj same).2⟩

/-- Tokens of which no two words stand side by side are known by their text. -/
theorem spell_injective (separated : spelling.Separated tokens) (otherSeparated : spelling.Separated others)
    (same : spelling.spell tokens = spelling.spell others) : tokens = others := by
  induction tokens generalizing others with
  | nil =>
      cases others with
      | nil => rfl
      | cons other more =>
          obtain ⟨c, _, spelled, _⟩ := begins_of_token (separated_cons otherSeparated).1 (spelling.spell more)
          rw [spell_cons, spelled] at same
          cases same
  | cons token rest ih =>
      cases others with
      | nil =>
          obtain ⟨c, _, spelled, _⟩ := begins_of_token (separated_cons separated).1 (spelling.spell rest)
          rw [spell_cons, spelled] at same
          cases same
      | cons other more =>
          rw [spell_cons, spell_cons] at same
          obtain ⟨rfl, behind⟩ := first_same (separated_cons separated).1 (separated_cons otherSeparated).1
            (ends_of_separated separated) (ends_of_separated otherSeparated) same
          rw [ih (separated_cons separated).2 (separated_cons otherSeparated).2 behind]

/-! ## Tokens put together -/

theorem separated_one {token : Token} (proper : spelling.IsToken token) : spelling.Separated [token] :=
  ⟨fun _ member => List.mem_singleton.mp member ▸ proper, .singleton token⟩

theorem separated_append (separated : spelling.Separated tokens) (otherSeparated : spelling.Separated others)
    (apart : ∀ last ∈ tokens.getLast?, ∀ first ∈ others.head?, Token.Apart last first) :
    spelling.Separated (tokens ++ others) := by
  refine ⟨fun token member => ?_, List.isChain_append.mpr ⟨separated.apart, otherSeparated.apart, apart⟩⟩
  rcases List.mem_append.mp member with front | back
  · exact separated.each token front
  · exact otherSeparated.each token back

-- A mark can stand between any tokens.
theorem separated_mark {c : Char} (proper : spelling.IsToken (.mark c)) (separated : spelling.Separated tokens)
    (otherSeparated : spelling.Separated others) : spelling.Separated (tokens ++ .mark c :: others) := by
  have behind : spelling.Separated ([.mark c] ++ others) :=
    separated_append (separated_one proper) otherSeparated fun last ended first _ => by
      cases ended
      exact .inl rfl
  exact separated_append separated behind fun last _ first begun => by
    cases begun
    exact .inr rfl

theorem separated_behind {c : Char} (proper : spelling.IsToken (.mark c)) (separated : spelling.Separated tokens) :
    spelling.Separated (.mark c :: tokens) := separated_mark proper separated_nil separated

theorem separated_marks {marks : List Char} (proper : ∀ c ∈ marks, c ∈ outside ∧ c ≠ '"' ∧ c ≠ '\n') :
    spelling.Separated (marks.map .mark) := by
  induction marks with
  | nil => exact separated_nil
  | cons c rest ih =>
      obtain ⟨first, others⟩ := List.forall_mem_cons.mp proper
      exact separated_behind first (ih others)

theorem spell_flat (flat : ∀ token ∈ tokens, token.Flat) : '\n' ∉ spelling.spell tokens := by
  induction tokens with
  | nil => exact List.not_mem_nil
  | cons token rest ih =>
      obtain ⟨first, others⟩ := List.forall_mem_cons.mp flat
      rw [spell_cons, List.mem_append, not_or]
      refine ⟨fun member => ?_, ih others⟩
      cases token with
      | word text => exact first member
      | literal text =>
          have inner : '\n' ∈ text.toList.flatMap spelling.quoted := by simpa [spellOne] using member
          obtain ⟨c, within, spelled⟩ := List.mem_flatMap.mp inner
          by_cases ended : c = '\n'
          · exact first (ended ▸ within)
          · exact spelling.onOneLine c ended spelled
      | mark c => exact first (List.mem_singleton.mp member).symm

theorem flat_of_token {token : Token} (proper : spelling.IsToken token) : token.Flat := by
  cases token with
  | word text =>
      intro member
      have word := proper.inside _ member
      rw [spelling.unworded '\n' (by decide)] at word
      cases word
  | literal text => exact proper
  | mark c => exact proper.2.2

-- Quoted text and words stay on their line, and marks are no line ends.
theorem spell_one_line (each : ∀ token ∈ tokens, spelling.IsToken token) : '\n' ∉ spelling.spell tokens :=
  spell_flat fun token member => flat_of_token (each token member)

end Spelling
end Companion.Source

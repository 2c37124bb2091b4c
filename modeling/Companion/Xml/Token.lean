import Companion.Text.Cut
import Companion.Xml.Error

/-!
Tokens of XML: text, references and tags. Comments, processing instructions and declarations are
passed over, or refused where they do not end.
-/
set_option autoImplicit false

namespace Companion.Xml

def isSpace (c : Char) : Bool := c = ' ' ∨ c = '\t' ∨ c = '\r' ∨ c = '\n'

inductive Token
  | text (content : List Char)
  | reference (name : List Char)
  | cdata (content : List Char)
  | doctype
  | start (content : List Char)
  -- The tag of an element without content, as it stands before the slash.
  | empty (content : List Char)
  | stop (name : List Char)
deriving DecidableEq

def tagName (content : List Char) : List Char := content.takeWhile fun c => !isSpace c

def quoteAfter (quote : Option Char) (c : Char) : Option Char :=
  match quote with
  | none => if c = '"' ∨ c = '\'' then some c else none
  | some q => if c = q then none else some q

-- The content of a tag, up to the first `>` outside quotes, and what follows it.
def tagContent (quote : Option Char) : List Char → Except MarkupError (List Char × List Char)
  | [] => .error (quote.elim .tag .value)
  | c :: rest =>
    if c = '>' ∧ quote = none then .ok ([], rest)
    else (tagContent (quoteAfter quote c) rest).map fun (content, after) => (c :: content, after)

def tagOf (content : List Char) : Token :=
  match content with
  | '/' :: name =>
    let trimmed := (name.reverse.dropWhile isSpace).reverse
    .stop (if trimmed = [] then name else trimmed)
  | _ => if content.getLast? = some '/' then .empty content.dropLast else .start content

inductive DoctypePart
  | heading (quote : Option Char)
  | subset
  | instruction
  | comment
  | plain
  -- Markup that ends at the first `>` outside quotes.
  | quoting (quote : Option Char)
  | ending

def quotingWords : List String := ["!ENTITY", "!ATTLIST", "!NOTATION"]

def subsetPart (chars : List Char) : DoctypePart :=
  if quotingWords.any fun word => word.toList.isPrefixOf chars then .quoting none
  else .plain

def afterDoctype : DoctypePart → List Char → Option (List Char)
  | _, [] => none
  | .heading none, '>' :: rest => some rest
  | .heading none, '[' :: rest => afterDoctype .subset rest
  | .heading quote, c :: rest => afterDoctype (.heading (quoteAfter quote c)) rest
  | .subset, ']' :: rest => afterDoctype .ending rest
  | .subset, '<' :: '?' :: rest => afterDoctype .instruction rest
  | .subset, '<' :: '!' :: '-' :: '-' :: rest => afterDoctype .comment rest
  | .subset, '<' :: rest => afterDoctype (subsetPart rest) rest
  | .subset, _ :: rest => afterDoctype .subset rest
  | .instruction, '?' :: '>' :: rest => afterDoctype .subset rest
  | .instruction, _ :: rest => afterDoctype .instruction rest
  | .comment, '-' :: '-' :: '>' :: rest => afterDoctype .subset rest
  | .comment, _ :: rest => afterDoctype .comment rest
  | .plain, '>' :: rest => afterDoctype .subset rest
  | .plain, _ :: rest => afterDoctype .plain rest
  | .quoting none, '>' :: rest => afterDoctype .subset rest
  | .quoting quote, c :: rest => afterDoctype (.quoting (quoteAfter quote c)) rest
  | .ending, '>' :: rest => some rest
  | .ending, _ :: rest => afterDoctype .ending rest

abbrev Step := Except Error (Option Token × List Char)

def upTo (mark : String) (error : MarkupError) (token : List Char → Option Token)
    (chars : List Char) : Step :=
  match Text.cutAt? mark.toList chars with
  | some (content, after) => .ok (token content, after)
  | none => .error (.markup error)

def afterWord? (word : List Char) (chars : List Char) : Option (List Char) :=
  if (chars.take word.length).map Char.toUpper = word then some (chars.drop word.length) else none

def readDoctype (chars : List Char) : Step :=
  match (afterWord? "DOCTYPE".toList chars).bind fun rest =>
      (afterDoctype (.heading none) rest).map (rest, ·) with
  | none => .error (.markup .doctype)
  | some (rest, after) =>
    if (rest.dropWhile isSpace).head? = some '>' then .error (.structure .noDoctypeName)
    else .ok (some .doctype, after)

def readDeclaration (chars : List Char) : Step :=
  match chars with
  | '-' :: '-' :: rest => upTo "-->" .comment (fun _ => none) rest
  | '-' :: _ => .error (.markup .comment)
  | '[' :: 'C' :: 'D' :: 'A' :: 'T' :: 'A' :: '[' :: rest =>
    upTo "]]>" .cdata (fun content => some (.cdata content)) rest
  | '[' :: _ => .error (.markup .cdata)
  | 'D' :: _ | 'd' :: _ => readDoctype chars
  | _ => .error (.markup .unknown)

-- Whether an instruction that does not end would be the declaration of the document.
def isDeclaration (chars : List Char) : Bool :=
  match chars with
  | 'x' :: 'm' :: 'l' :: rest => rest.head?.all fun c => isSpace c || c = '?'
  | _ => false

-- An instruction after its `<?`; one question mark cannot both begin and end it.
def readInstruction (chars : List Char) : Step :=
  match chars with
  | '>' :: _ => .error (.markup .instruction)
  | _ =>
    let error := if isDeclaration chars then .declaration else .instruction
    upTo "?>" error (fun _ => none) chars

def readMarkup (chars : List Char) : Step :=
  match chars with
  | '!' :: rest => readDeclaration rest
  | '?' :: rest => readInstruction rest
  | _ =>
    match tagContent none chars with
    | .ok (content, after) => .ok (some (tagOf content), after)
    | .error error => .error (.markup error)

def endsText (c : Char) : Bool := c = '<' ∨ c = '&'

def readReference (chars : List Char) : Step :=
  let inName (c : Char) : Bool := !endsText c && c ≠ ';'
  match chars.dropWhile inName with
  | ';' :: after => .ok (some (.reference (chars.takeWhile inName)), after)
  | _ => .error (.structure .reference)

def readToken (c : Char) (rest : List Char) : Step :=
  if c = '<' then readMarkup rest
  else if c = '&' then readReference rest
  else
    .ok (some (.text (c :: rest.takeWhile fun c => !endsText c)),
      rest.dropWhile fun c => !endsText c)

end Companion.Xml

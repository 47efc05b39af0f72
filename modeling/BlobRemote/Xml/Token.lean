import BlobRemote.Number.HexDigit
import BlobRemote.Xml.NameChar

/-!
# Tokens of a document

A text is cut into tags, references and character data. Comments and processing instructions are
checked and left out. Nothing comes out of a text that is not well-formed. All functions take a
number that bounds their steps; the length of the text is enough, because each step consumes a
character.
-/

namespace BlobRemote

namespace Xml

/-- A name with an optional qualifier. -/
structure QName where
  /-- What stands before the colon. -/
  qualifier : Option (List Char)
  /-- What stands after it. -/
  name : List Char
  deriving DecidableEq

/-- A part of an attribute's value. -/
inductive Piece where
  /-- A character. -/
  | char (c : Char)
  /-- A reference to an entity. -/
  | entity (name : List Char)

/-- A token. -/
inductive Token where
  /-- Characters that are written as they are. -/
  | literal (s : List Char)
  /-- Characters that a reference or a marked section spells. -/
  | spelled (s : List Char)
  /-- A reference to an entity. -/
  | entity (name : List Char)
  /-- The beginning of an element, and its end too if it is `empty`. -/
  | start (name : QName) (attributes : List (QName × List Piece)) (empty : Bool)
  /-- The end of an element. -/
  | stop (name : QName)

/-! ### Characters and names -/

/-- Whether a character is white space. -/
def isSpace (c : Char) : Bool := c == ' ' || c == '\t' || c == '\n' || c == '\r'

/-- Whether a code point may occur in a document. -/
def isLegalCode (n : Nat) : Bool :=
  (0x20 ≤ n || n == 9 || n == 10 || n == 13) && !(0xD800 ≤ n && n < 0xE000) && n != 0xFFFE &&
    n != 0xFFFF && n < 0x110000

/-- Whether characters may occur in a document. -/
def areLegal (s : List Char) : Bool := s.all fun c => isLegalCode c.toNat

/-- A text without the white space before it. -/
def skipSpace (s : List Char) : List Char := s.dropWhile isSpace

/-- A name without a qualifier at the front of a text, and what follows it. -/
def plainName? : List Char → Option (List Char × List Char)
  | [] => none
  | c :: rest => if isNameStart c then some ((c :: rest).span isNameChar) else none

/-- A name at the front of a text, and what follows it. -/
def qName? (s : List Char) : Option (QName × List Char) := do
  let (first, rest) ← plainName? s
  match rest with
  | ':' :: more =>
    let (second, rest) ← plainName? more
    return (⟨some first, second⟩, rest)
  | _ => return (⟨none, first⟩, rest)

/-- What stands before the first occurrence of a mark, and what stands after it. -/
def cutAt (mark : List Char) : List Char → Option (List Char × List Char)
  | [] => none
  | c :: rest =>
    if mark.isPrefixOf (c :: rest) then some ([], (c :: rest).drop mark.length)
    else (cutAt mark rest).map fun p => (c :: p.1, p.2)

/-! ### References -/

/-- The entities that every document knows. -/
def predefined? (name : List Char) : Option Char :=
  match String.ofList name with
  | "lt" => some '<'
  | "gt" => some '>'
  | "amp" => some '&'
  | "quot" => some '"'
  | "apos" => some '\''
  | _ => none

/-- The character with the number that digits spell in a base. -/
def numbered? (base : Nat) (isDigit : Char → Bool) (s : List Char) : Option (Piece × List Char) :=
  let (digits, rest) := s.span isDigit
  let n := digits.foldl (fun n c => base * n + Number.hexValue c) 0
  match rest with
  | ';' :: rest =>
    if !digits.isEmpty && isLegalCode n then some (.char (Char.ofNat n), rest) else none
  | _ => none

/-- What a reference stands for, whose ampersand is already read. -/
def reference? : List Char → Option (Piece × List Char)
  | '#' :: 'x' :: rest => numbered? 16 Number.isHexDigit rest
  | '#' :: rest => numbered? 10 Char.isDigit rest
  | s => do
    let (name, rest) ← plainName? s
    match rest with
    | ';' :: rest =>
      match predefined? name with
      | some c => return (.char c, rest)
      | none => return (.entity name, rest)
    | _ => none

/-! ### Attributes -/

/-- The pieces of a value up to a quote, or up to the end of the text if there is none to wait for,
and what follows them. -/
def pieces : Nat → Option Char → List Char → Option (List Piece × List Char)
  | 0, _, _ => none
  | _ + 1, none, [] => some ([], [])
  | _ + 1, some _, [] => none
  | fuel + 1, quote, c :: rest =>
    if some c = quote then some ([], rest)
    else if c = '<' then none
    else if c = '&' then do
      let (piece, rest) ← reference? rest
      let (more, rest) ← pieces fuel quote rest
      return (piece :: more, rest)
    else if isLegalCode c.toNat then do
      let (more, rest) ← pieces fuel quote rest
      return (.char (if isSpace c then ' ' else c) :: more, rest)
    else none

/-- An attribute at the front of a text, and what follows it. -/
def attribute? (s : List Char) : Option ((QName × List Piece) × List Char) := do
  let (name, rest) ← qName? s
  match skipSpace rest with
  | '=' :: rest =>
    match skipSpace rest with
    | quote :: rest =>
      if quote = '"' ∨ quote = '\'' then
        let (value, rest) ← pieces (rest.length + 1) (some quote) rest
        return ((name, value), rest)
      else none
    | [] => none
  | _ => none

/-- How a tag goes on: its attributes, each after white space, whether the element is empty, and what
follows the tag. -/
def attributes : Nat → List Char → Option (List (QName × List Piece) × Bool × List Char)
  | 0, _ => none
  | fuel + 1, s =>
    match skipSpace s with
    | '>' :: rest => some ([], false, rest)
    | '/' :: '>' :: rest => some ([], true, rest)
    | inside =>
      if s.head?.any isSpace then do
        let (first, rest) ← attribute? inside
        let (more, empty, rest) ← attributes fuel rest
        return (first :: more, empty, rest)
      else none

/-! ### Comments and instructions -/

/-- What follows a comment, whose beginning is already read. -/
def afterComment? (s : List Char) : Option (List Char) := do
  let (inside, rest) ← cutAt ['-', '-'] s
  match rest with
  | '>' :: rest => if areLegal inside then some rest else none
  | _ => none

/-- What follows a processing instruction, whose beginning is already read. -/
def afterInstruction? (s : List Char) : Option (List Char) := do
  let (target, rest) ← plainName? s
  if target.map Char.toLower = ['x', 'm', 'l'] then none
  match rest with
  | '?' :: '>' :: rest => return rest
  | c :: _ =>
    if isSpace c then
      let (inside, rest) ← cutAt ['?', '>'] rest
      if areLegal inside then some rest else none
    else none
  | [] => none

/-- How a marked section begins, after `<!`. -/
def sectionMark : List Char := "[CDATA[".toList

/-- How a marked section ends. -/
def sectionEnd : List Char := "]]>".toList

/-! ### Content -/

/-- Whether characters may be written as they are. -/
def isPlain (s : List Char) : Bool := areLegal s && (cutAt sectionEnd s).isNone

/-- A token at the front of a text that is not empty, unless it is one to leave out, and what follows
it. -/
def token? : List Char → Option (Option Token × List Char)
  | '<' :: '!' :: '-' :: '-' :: rest => do
    let rest ← afterComment? rest
    return (none, rest)
  | '<' :: '!' :: rest =>
    if sectionMark.isPrefixOf rest then do
      let (inside, rest) ← cutAt sectionEnd (rest.drop sectionMark.length)
      if areLegal inside then some (some (.spelled inside), rest) else none
    else none
  | '<' :: '?' :: rest => do
    let rest ← afterInstruction? rest
    return (none, rest)
  | '<' :: '/' :: rest => do
    let (name, rest) ← qName? rest
    match skipSpace rest with
    | '>' :: rest => return (some (.stop name), rest)
    | _ => none
  | '<' :: rest => do
    let (name, rest) ← qName? rest
    let (attributes, empty, rest) ← attributes (rest.length + 1) rest
    return (some (.start name attributes empty), rest)
  | '&' :: rest => do
    let (piece, rest) ← reference? rest
    match piece with
    | .char c => return (some (.spelled [c]), rest)
    | .entity name => return (some (.entity name), rest)
  | s =>
    let (run, rest) := s.span fun c => !(c == '<' || c == '&')
    if isPlain run then some (some (.literal run), rest) else none

/-- The tokens of a text. -/
def tokensWithin : Nat → List Char → Option (List Token)
  | _, [] => some []
  | 0, _ => none
  | fuel + 1, s => do
    let (token, rest) ← token? s
    let more ← tokensWithin fuel rest
    return token.toList ++ more

/-- **The tokens of a text.** -/
def tokens (s : List Char) : Option (List Token) := tokensWithin s.length s

end Xml

end BlobRemote

import BlobRemote.Text.Blank
import BlobRemote.Text.Utf16
import BlobRemote.Text.Utf8
import BlobRemote.Xml.Doctype
import BlobRemote.Xml.Element

/-!
# Documents

A parser (`BlobRemote.Xml.parse`) of the documents that services send. A document is refused if it is
not well-formed: wrongly nested or missing tags, attributes that occur twice, qualifiers without a
namespace, references to unknown entities, characters that may not occur. It is refused for another
reason if it needs more than is read here: encodings with tables of their own, and declarations other
than those of entities.
-/

namespace BlobRemote

namespace Xml

/-! ### Bytes to characters -/

/-- How characters are spelled by bytes, one or more of them for each character. -/
inductive Encoding where
  /-- UTF-8. -/
  | utf8
  /-- ASCII. -/
  | ascii
  /-- Latin-1. -/
  | latin
  deriving DecidableEq

/-- A name in upper case. -/
def upper (name : List Char) : String := String.ofList (name.map Char.toUpper)

/-- The names of encodings that have two bytes for each unit. -/
def wideNames : List String := ["UTF-16", "UTF-16BE", "UTF-16LE"]

/-- The encoding with a name, in whatever case, of a document that does not have two bytes for each
unit. -/
def Encoding.ofName (name : List Char) : Except Refusal Encoding :=
  match upper name with
  | "UTF-8" => .ok .utf8
  | "US-ASCII" => .ok .ascii
  | "ASCII" => .ok .ascii
  | "ISO-8859-1" => .ok .latin
  | "LATIN-1" => .ok .latin
  | "LATIN1" => .ok .latin
  | word =>
    if word ∈ wideNames then .error .malformed else .error (.foreign (String.ofList name))

/-- Bytes as characters, one for each. -/
def latinChars (bs : Bytes) : List Char := bs.map fun b => Char.ofNat b.toNat

/-- The characters that bytes spell. -/
def Encoding.decode? (bs : Bytes) : Encoding → Option (List Char)
  | .utf8 => (Utf8.decode bs).toOption
  | .ascii => if bs.all (· < 0x80) then some (latinChars bs) else none
  | .latin => some (latinChars bs)

/-- The pairs that bytes stand in. A last byte without another one is left out. -/
def pairs : Bytes → List (UInt8 × UInt8)
  | a :: b :: rest => (a, b) :: pairs rest
  | _ => []

/-- The unit that a pair of bytes spells, the high byte first. -/
def highFirst (p : UInt8 × UInt8) : Nat := 0x100 * p.1.toNat + p.2.toNat

/-- The unit that a pair of bytes spells, the low byte first. -/
def lowFirst (p : UInt8 × UInt8) : Nat := highFirst p.swap

/-! ### The declaration at the beginning -/

/-- What a document says about itself. -/
structure Declaration where
  /-- The name of its encoding. -/
  encoding : Option (List Char)
  /-- Whether it stands alone. -/
  standalone : Bool

/-- A setting `name="value"` at the front of a text, and what follows it. -/
def setting? (s : List Char) : Option ((String × List Char) × List Char) := do
  let (name, rest) ← plainName? s
  match skipSpace rest with
  | '=' :: rest =>
    let (value, rest) ← quoted? (skipSpace rest)
    return ((String.ofList name, value), rest)
  | _ => none

/-- Settings up to the end of a declaration, each after white space, and what follows. -/
def settings : Nat → List Char → Option (List (String × List Char) × List Char)
  | 0, _ => none
  | fuel + 1, s =>
    match skipSpace s with
    | '?' :: '>' :: rest => some ([], rest)
    | inside =>
      if s.head?.any isSpace then do
        let (setting, rest) ← setting? inside
        let (more, rest) ← settings fuel rest
        return (setting :: more, rest)
      else none

/-- Whether a character may occur in the name of a version or of an encoding. -/
def isLabelChar (c : Char) : Bool := c.isAlphanum || c == '.' || c == '_' || c == '-'

/-- Whether a text may be the name of an encoding. -/
def isEncodingName (s : List Char) : Bool := s.head?.any Char.isAlpha && s.all isLabelChar

/-- What is said about whether a document stands alone. -/
def standalone? (s : List Char) : Option Bool :=
  match String.ofList s with
  | "yes" => some true
  | "no" => some false
  | _ => none

/-- A declaration from its settings, which have a fixed order. -/
def Declaration.ofSettings? : List (String × List Char) → Option Declaration
  | ("version", version) :: rest =>
    if version.all isLabelChar then
      match rest with
      | [] => some ⟨none, false⟩
      | [("encoding", name)] => if isEncodingName name then some ⟨some name, false⟩ else none
      | [("standalone", s)] => (standalone? s).map fun alone => ⟨none, alone⟩
      | [("encoding", name), ("standalone", s)] =>
        if isEncodingName name then (standalone? s).map fun alone => ⟨some name, alone⟩ else none
      | _ => none
    else none
  | _ => none

/-- How a declaration begins. -/
def declarationMark : List Char := "<?xml".toList

/-- The declaration at the front of a text, and what follows it. A text without one says nothing. -/
def declaration? (s : List Char) : Option (Declaration × List Char) :=
  let rest := s.drop declarationMark.length
  if declarationMark.isPrefixOf s && (rest.head?.all fun c => !isNameChar c) then do
    let (l, rest) ← settings (rest.length + 1) rest
    let d ← Declaration.ofSettings? l
    return (d, rest)
  else some (⟨none, false⟩, s)

/-- The encoding that a document names in its declaration, of which the beginning is told by its
characters up to the first `>`. -/
def encodingName? (beginning : List Char) : Option (List Char) :=
  (declaration? (Text.unifyLineEnds beginning)).bind fun d => d.1.encoding

/-- The characters of a document that has two bytes for each unit. An encoding that the document names
has to be `order`, the one that it has. -/
def wideChars (order : String) (unit : UInt8 × UInt8 → Nat) (bs : Bytes) :
    Except Refusal (List Char) := do
  let units := (pairs bs).map unit
  let beginning := (Utf16.fold (units.takeWhile (· != 0x3E) ++ [0x3E])).getD []
  match encodingName? beginning with
  | some name =>
    if upper name ≠ "UTF-16" ∧ upper name ≠ order then
      let _ ← Encoding.ofName name
      throw .malformed
  | none => pure ()
  wellFormed (if bs.length % 2 = 0 then Utf16.fold units else none)

/-- The characters of a document that does not have two bytes for each unit: UTF-8, unless the
document names another encoding. -/
def narrowChars (bs : Bytes) : Except Refusal (List Char) := do
  let encoding ←
    match encodingName? (latinChars (bs.takeWhile (· != 0x3E) ++ [0x3E])) with
    | some name => Encoding.ofName name
    | none => pure .utf8
  wellFormed (encoding.decode? bs)

/-- **The characters of a document.** Two bytes for each unit are told by the mark at the beginning or
by a zero byte in the first unit. -/
def charsOf (bs : Bytes) : Except Refusal (List Char) :=
  match bs with
  | 0xFE :: 0xFF :: rest => wideChars "UTF-16BE" highFirst rest
  | 0xFF :: 0xFE :: rest => wideChars "UTF-16LE" lowFirst rest
  | 0xEF :: 0xBB :: 0xBF :: rest => narrowChars rest
  | 0x00 :: _ :: _ => wideChars "UTF-16BE" highFirst bs
  | _ :: 0x00 :: _ => wideChars "UTF-16LE" lowFirst bs
  | _ => narrowChars bs

/-! ### Namespaces -/

/-- The namespace that belongs to each qualifier, the innermost first; no qualifier belongs to the
default namespace. -/
abbrev Bindings := List (Option (List Char) × List Char)

/-- The namespace of the qualifier `xml`. -/
def xmlSpace : List Char := "http://www.w3.org/XML/1998/namespace".toList

/-- The namespace of the qualifier `xmlns`. -/
def xmlnsSpace : List Char := "http://www.w3.org/2000/xmlns/".toList

/-- The word that declares namespaces. -/
def xmlns : List Char := "xmlns".toList

/-- The qualifier that an attribute declares a namespace for. -/
def declared? (name : QName) : Option (Option (List Char)) :=
  if name.qualifier = some xmlns then some (some name.name)
  else if name.qualifier = none ∧ name.name = xmlns then some none
  else none

/-- Whether a namespace may be declared for a qualifier. -/
def mayBind (qualifier : Option (List Char)) (space : List Char) : Bool :=
  if qualifier = some "xml".toList then space = xmlSpace
  else
    qualifier ≠ some xmlns && space ≠ xmlSpace && space ≠ xmlnsSpace && !space.contains '}' &&
      (qualifier = none || !space.isEmpty)

/-- The namespace of a qualifier. -/
def spaceOf? (b : Bindings) (qualifier : List Char) : Option (List Char) :=
  if qualifier = "xml".toList then some xmlSpace
  else ((b.find? fun p => p.1 = some qualifier).map Prod.snd)

/-- The namespace with a text, if the text may be one. -/
def Space.ofText? (s : List Char) : Option Space :=
  if h : s ≠ [] ∧ '}' ∉ s then some ⟨String.ofList s, by simp [h.1], by simp [h.2]⟩ else none

/-- The tag that a name stands for. -/
def tag? (b : Bindings) (name : QName) : Option Tag :=
  match name.qualifier with
  | some q => do
    let space ← Space.ofText? (← spaceOf? b q)
    return ⟨some space, String.ofList name.name⟩
  | none =>
    let space := (b.find? fun p => p.1 = none).map Prod.snd
    some ⟨space.bind Space.ofText?, String.ofList name.name⟩

/-- The tag of an attribute, which belongs to no namespace if it has no qualifier. -/
def attributeTag? (b : Bindings) (name : QName) : Option Tag :=
  match name.qualifier with
  | some _ => tag? b name
  | none => some ⟨none, String.ofList name.name⟩

/-! ### Values of attributes -/

/-- The text of an attribute's value. An entity that is not known is left out if it may be declared
outside the document. -/
def valueText (e : Entities) : Nat → List Piece → Option (List Char)
  | 0, _ => none
  | depth + 1, l =>
    (l.mapM fun (piece : Piece) =>
      match piece with
      | .char c => some [c]
      | .entity name =>
        match e.texts.get? name with
        | some (some text) => do
          let (inside, _) ← pieces (text.length + 1) none text
          valueText e depth inside
        | some none => none
        | none => if e.complete then none else some []).map List.flatten

/-! ### Nesting -/

/-- An element that is still open. -/
structure Frame where
  /-- Its name as it is written. -/
  written : QName
  /-- Its tag. -/
  tag : Tag
  /-- The text before its first child. -/
  text : List Char
  /-- Its children so far, the latest first. -/
  children : List Element
  /-- The namespaces inside it. -/
  bindings : Bindings

/-- What is read of a document so far. -/
structure Progress where
  /-- The open elements, the innermost first. -/
  frames : List Frame
  /-- The root element, once it is closed. -/
  root : Option Element

namespace Progress

/-- The namespaces at hand. -/
def bindings (p : Progress) : Bindings := p.frames.head?.elim [] Frame.bindings

/-- More text. It counts only before the first child; outside the root element only white space that
is written as it is may stand. -/
def addText (p : Progress) (spelled : Bool) (s : List Char) : Option Progress :=
  match p.frames with
  | f :: rest =>
    some { p with
      frames := (if f.children.isEmpty then { f with text := f.text ++ s } else f) :: rest }
  | [] => if !spelled && s.all isSpace then some p else none

/-- A finished element. -/
def addElement (p : Progress) (e : Element) : Progress :=
  match p.frames with
  | f :: rest => { p with frames := { f with children := e :: f.children } :: rest }
  | [] => { p with root := some e }

/-- The beginning of an element. -/
def enter (p : Progress) (e : Entities) (name : QName) (attributes : List (QName × List Piece)) :
    Option Progress := do
  if p.frames.isEmpty && p.root.isSome then none
  if !(attributes.map Prod.fst).Nodup then none
  let values ← attributes.mapM fun a =>
    (valueText e (e.texts.size + 2) a.2).map fun value => (a.1, value)
  let declared := values.filterMap fun a => (declared? a.1).map fun q => (q, a.2)
  if !declared.all fun d => mayBind d.1 d.2 then none
  let b := declared ++ p.bindings
  let tag ← tag? b name
  let tags ← (values.filter fun a => (declared? a.1).isNone).mapM fun a => attributeTag? b a.1
  if !tags.Nodup then none
  return { p with frames := ⟨name, tag, [], [], b⟩ :: p.frames }

/-- The end of an element. Only elements above the `floor` may end. -/
def leave (p : Progress) (floor : Nat) (name : QName) : Option Progress :=
  match p.frames with
  | f :: rest =>
    if floor < p.frames.length ∧ f.written = name then
      let p := { p with frames := rest }
      some (p.addElement (.node f.tag (String.ofList f.text) f.children.reverse))
    else none
  | [] => none

/-- What is read after one more token, where `inside` reads the text of an entity. -/
def step (e : Entities) (inside : List Char → Progress → Option Progress) (floor : Nat)
    (p : Progress) : Token → Option Progress
  | .literal s => p.addText false s
  | .spelled s => p.addText true s
  | .entity name =>
    if p.frames.isEmpty then none
    else
      match e.texts.get? name with
      | some (some text) => inside text p
      | _ => none
  | .start name attributes empty => do
    let p ← p.enter e name attributes
    if empty then p.leave floor name else some p
  | .stop name => p.leave floor name

/-- What is read after a text. The elements that begin in it end in it, and no others. Entities may
refer to entities, `depth` times over at most. -/
def read (e : Entities) : Nat → List Char → Progress → Option Progress
  | 0, _, _ => none
  | depth + 1, s, p => do
    let l ← tokens s
    let floor := p.frames.length
    let p ← l.foldlM (step e (read e depth) floor) p
    if p.frames.length = floor then some p else none

end Progress

/-! ### Whole documents -/

/-- What stands before the root element, after the declaration: white space, comments, instructions
and one document type declaration at most. -/
def prolog (standalone : Bool) :
    Nat → Option Entities → List Char → Except Refusal (Entities × List Char)
  | 0, _, _ => .error .malformed
  | fuel + 1, e, s =>
    match skipSpace s with
    | '<' :: '!' :: '-' :: '-' :: rest => do
      prolog standalone fuel e (← wellFormed (afterComment? rest))
    | '<' :: '?' :: rest => do
      prolog standalone fuel e (← wellFormed (afterInstruction? rest))
    | '<' :: '!' :: rest => do
      if e.isSome then throw .malformed
      let (e, rest) ← doctype standalone (← wellFormed (afterWord? "DOCTYPE" rest))
      prolog standalone fuel (some e) rest
    | rest => .ok (e.getD Entities.none, rest)

/-- The root element of a document. -/
def rootOf (bs : Bytes) : Except Refusal Element := do
  let s ← charsOf bs
  let (d, rest) ← wellFormed (declaration? (Text.unifyLineEnds s))
  let (e, rest) ← prolog d.standalone (rest.length + 1) none rest
  let p ← wellFormed (Progress.read e (e.texts.size + 2) rest ⟨[], none⟩)
  wellFormed p.root

/-- **The tree of a document**, if the document is well-formed and there is nothing foreign in it. -/
def parse : Parser := fun bs =>
  match rootOf bs with
  | .ok root => .tree root
  | .error .malformed => .malformed
  | .error (.foreign what) => .failed (Reason.internal s!"not read: {what}").alone

end Xml

end BlobRemote

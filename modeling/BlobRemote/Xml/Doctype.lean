import BlobRemote.Data.Dict
import BlobRemote.Xml.Token

/-!
# Document type declarations

Before its root element, a document may declare entities, texts that are referred to by name. A
document with declarations of other kinds is not read (`BlobRemote.Xml.Refusal.foreign`), because they
may add attributes to its elements. Declarations outside the document are never fetched; once one is
referred to, the list of entities counts as incomplete, and what the document declares after such a
reference is not taken, unless the document says that it stands alone.
-/

namespace BlobRemote

namespace Xml

/-- Why a document is not read. -/
inductive Refusal where
  /-- It is not well-formed. -/
  | malformed
  /-- There is something in it that is beyond what is read here. -/
  | foreign (what : String)

/-- What a piece of a document holds, which has to be well-formed. -/
def wellFormed {α : Type} : Option α → Except Refusal α
  | some a => .ok a
  | none => .error .malformed

/-- The entities that a document declares. -/
structure Entities where
  /-- The text of each entity; none if it lies outside the document. The first declaration counts. -/
  texts : Dict (List Char) (Option (List Char))
  /-- Whether all declarations that count are in the document. -/
  complete : Bool
  /-- Whether declarations are still taken. -/
  taking : Bool

namespace Entities

/-- No entities are declared. -/
def none : Entities := ⟨Dict.empty, true, true⟩

/-- One more declaration. -/
def declare (e : Entities) (name : List Char) (text : Option (List Char)) : Entities :=
  if e.taking && !e.texts.contains name then { e with texts := e.texts.insert name text } else e

/-- A reference to declarations outside the document, which count for nothing if it stands alone. -/
def refer (e : Entities) (standalone : Bool) : Entities :=
  { e with complete := e.complete && standalone, taking := e.taking && standalone }

end Entities

/-! ### Pieces of declarations -/

/-- What follows a keyword at the front of a text. -/
def afterWord? (word : String) (s : List Char) : Option (List Char) :=
  if word.toList.isPrefixOf s then some (s.drop word.length) else none

/-- What follows white space, of which there has to be some. -/
def afterSpace? : List Char → Option (List Char)
  | [] => none
  | c :: rest => if isSpace c then some (skipSpace rest) else none

/-- The text between quotes at the front of a text, and what follows it. -/
def quoted? : List Char → Option (List Char × List Char)
  | [] => none
  | quote :: rest =>
    if quote = '"' ∨ quote = '\'' then
      match rest.dropWhile (· != quote) with
      | _ :: after =>
        let inside := rest.takeWhile (· != quote)
        if areLegal inside then some (inside, after) else none
      | [] => none
    else none

/-- What follows the place of something outside the document: one quoted text after `SYSTEM`, two
after `PUBLIC`. -/
def afterOutside? (s : List Char) : Option (List Char) :=
  match afterWord? "SYSTEM" s with
  | some rest => do
    let (_, rest) ← quoted? (← afterSpace? rest)
    return rest
  | none => do
    let rest ← afterSpace? (← afterWord? "PUBLIC" s)
    let (_, rest) ← quoted? rest
    let (_, rest) ← quoted? (← afterSpace? rest)
    return rest

/-- The replacement text of an entity's value: references by number are resolved, references by name
stay, and a percent sign is not admitted. -/
def replacement : Nat → List Char → Option (List Char)
  | _, [] => some []
  | 0, _ => none
  | fuel + 1, '&' :: rest => do
    if rest.head? = some '#' then
      let (piece, rest) ← reference? rest
      match piece with
      | .char c => return c :: (← replacement fuel rest)
      | .entity _ => none
    else
      let (name, rest) ← plainName? rest
      match rest with
      | ';' :: rest => return '&' :: name ++ ';' :: (← replacement fuel rest)
      | _ => none
  | fuel + 1, c :: rest =>
    if c = '%' then none else (replacement fuel rest).map (c :: ·)

/-! ### Declarations -/

/-- The end of a declaration. -/
def afterEnd? (s : List Char) : Option (List Char) :=
  match skipSpace s with
  | '>' :: rest => some rest
  | _ => none

/-- What follows the note that an entity is not text. -/
def afterUnparsed (s : List Char) : Option (List Char) :=
  match (afterSpace? s).bind (afterWord? "NDATA") with
  | some rest => do
    let (_, rest) ← plainName? (← afterSpace? rest)
    return rest
  | none => some s

/-- The text of an entity, unless it lies outside the document, and what follows its declaration. A
value that is not `taken` need not be one. -/
def entityText? (taken : Bool) (s : List Char) : Option (Option (List Char) × List Char) :=
  match quoted? s with
  | some (value, rest) => do
    let text ← if taken then replacement (value.length + 1) value else some []
    let rest ← afterEnd? rest
    return (some text, rest)
  | none => do
    let rest ← afterEnd? (← afterUnparsed (← afterOutside? s))
    return (none, rest)

/-- The declaration of an entity, whose keyword is already read. Entities for use in declarations
are checked and left out. -/
def entity? (e : Entities) (s : List Char) : Option (Entities × List Char) := do
  let s ← afterSpace? s
  match s with
  | '%' :: rest =>
    let (_, rest) ← plainName? (← afterSpace? rest)
    let (_, rest) ← entityText? e.taking (← afterSpace? rest)
    return (e, rest)
  | _ =>
    let (name, rest) ← plainName? s
    let (text, rest) ← entityText? e.taking (← afterSpace? rest)
    return (e.declare name text, rest)

/-- The keywords of the declarations that are not read. -/
def foreignWords : List String := ["ELEMENT", "ATTLIST", "NOTATION"]

/-- Why a declaration, after `<!`, is not read, if it is none of an entity. -/
def refusalOf (s : List Char) : Refusal :=
  match foreignWords.find? fun word => ((afterWord? word s).bind afterSpace?).isSome with
  | some word => .foreign s!"<!{word}"
  | none => .malformed

/-- The declarations in brackets up to the closing one, and what follows it. -/
def declarations (standalone : Bool) :
    Nat → Entities → List Char → Except Refusal (Entities × List Char)
  | 0, _, _ => .error .malformed
  | fuel + 1, e, s =>
    match skipSpace s with
    | ']' :: rest => .ok (e, rest)
    | '%' :: rest =>
      match plainName? rest with
      | some (_, ';' :: rest) => declarations standalone fuel (e.refer standalone) rest
      | _ => .error .malformed
    | '<' :: '!' :: '-' :: '-' :: rest => do
      declarations standalone fuel e (← wellFormed (afterComment? rest))
    | '<' :: '?' :: rest => do
      declarations standalone fuel e (← wellFormed (afterInstruction? rest))
    | '<' :: '!' :: rest =>
      match afterWord? "ENTITY" rest with
      | some rest => do
        let (e, rest) ← wellFormed (entity? e rest)
        declarations standalone fuel e rest
      | none => .error (refusalOf rest)
    | _ => .error .malformed

/-- **A document type declaration**, whose keyword is already read, and what follows it. -/
def doctype (standalone : Bool) (s : List Char) : Except Refusal (Entities × List Char) := do
  let (_, rest) ← wellFormed ((afterSpace? s).bind qName?)
  let (e, rest) :=
    match (afterSpace? rest).bind afterOutside? with
    | some rest => ({ Entities.none with complete := standalone }, rest)
    | none => (Entities.none, rest)
  let (e, rest) ←
    match skipSpace rest with
    | '[' :: inside => declarations standalone (inside.length + 1) e inside
    | _ => pure (e, rest)
  return (e, ← wellFormed (afterEnd? rest))

end Xml

end BlobRemote

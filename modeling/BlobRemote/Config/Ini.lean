import BlobRemote.Data.Dict
import BlobRemote.Text.Blank
import BlobRemote.Text.Cut
import BlobRemote.Text.Lowercase

/-!
# INI files

A configuration file has sections `[name]` with options `name = value` or `name: value` in them. A
line that begins with `#` or `;` is a comment; a line that is indented deeper than its option goes
on with the option's value, and so does a blank line in between. Option names do not depend on case.
Section and option may each occur once. Options of the section `DEFAULT` stand in for those that
another section lacks.
-/

namespace BlobRemote

/-- A configuration file. -/
structure Ini where
  /-- The sections other than the default one. -/
  sections : List String
  /-- Values by section and option. -/
  options : Dict (String × String) String

namespace Ini

/-- What is wrong with a file, or with the references in a value. -/
inductive Fault where
  /-- The first line that says something is no section header. -/
  | noSection
  /-- A section occurs twice. -/
  | sectionTwice (name : String)
  /-- An option occurs twice in a section. -/
  | optionTwice (sectionName option : String)
  /-- Some line is neither header nor option. -/
  | lines
  /-- A value refers to an option that is not there. -/
  | unknownReference (option : String)
  /-- A percent sign begins no reference. -/
  | badReference (text : String)
  /-- Values refer to values too many times in a row. -/
  | depth
  deriving DecidableEq

/-- What is wrong, in words. -/
def Fault.message : Fault → String
  | .noSection => "File contains no section headers."
  | .sectionTwice name => s!"section {name} already exists"
  | .optionTwice sectionName option => s!"option {option} in section {sectionName} already exists"
  | .lines => "Source contains parsing errors"
  | .unknownReference option => s!"Bad value substitution: {option} is missing"
  | .badReference text => s!"Bad value substitution: {text}"
  | .depth => "Recursion limit exceeded in value substitution"

/-- The section whose options stand in for missing ones. -/
def defaultSection : String := "DEFAULT"

/-! ### One line -/

/-- What a line is by itself. -/
inductive Line where
  /-- There is nothing on it. -/
  | blank
  /-- It is a comment. -/
  | comment
  /-- It holds a text without blanks around it, so many blanks from the left. -/
  | text (indent : Nat) (text : List Char)

/-- What a line is by itself. -/
def classify (line : List Char) : Line :=
  match Text.strip line with
  | [] => .blank
  | c :: rest =>
    if c = '#' ∨ c = ';' then .comment else .text (line.takeWhile Text.isBlank).length (c :: rest)

/-- The name in a section header: what stands between a bracket at the beginning and the last closing
one, if that is not empty. -/
def header? : List Char → Option String
  | '[' :: rest =>
    match Cut.atLast ']' rest with
    | some (name, _) => if name = [] then none else some (String.ofList name)
    | none => none
  | _ => none

/-- The name and the value of an option, cut at the first equal sign or colon. -/
def option? (text : List Char) : Option (String × List Char) :=
  let name := text.takeWhile fun c => !(c == '=' || c == ':')
  match text.drop name.length with
  | [] => none
  | _ :: value =>
    some (String.ofList (Text.lower (Text.stripEnd name)), Text.strip value)

/-! ### Reading -/

/-- What is known after some lines. -/
structure Progress where
  /-- The sections other than the default one. -/
  sections : List String
  /-- The lines of each value. -/
  values : Dict (String × String) (List (List Char))
  /-- The section of the lines to come. -/
  current : Option String
  /-- The option that a deeper line goes on with. -/
  option : Option String
  /-- How deep the last header or option is indented. -/
  indent : Nat
  /-- Whether some line is neither header nor option. -/
  faulty : Bool

/-- Nothing is known yet. -/
def Progress.start : Progress := ⟨[], Dict.empty, none, none, 0, false⟩

/-- A further line of the value at hand, if there is one. -/
def Progress.extend (p : Progress) (line : List Char) : Progress :=
  match p.current, p.option with
  | some sectionName, some option =>
    let key := (sectionName, option)
    { p with values := p.values.insert key ((p.values.get? key).getD [] ++ [line]) }
  | _, _ => p

/-- Whether a value is at hand that a line indented so deep goes on with. -/
def Progress.goesOn (p : Progress) (indent : Nat) : Bool :=
  p.current.isSome && p.option.isSome && p.indent < indent

/-- The beginning of a section. -/
def Progress.enter (p : Progress) (name : String) : Except Fault Progress :=
  let p := { p with current := some name, option := none }
  if name = defaultSection then .ok p
  else if p.sections.contains name then .error (.sectionTwice name)
  else .ok { p with sections := p.sections ++ [name] }

/-- A line that should hold an option of the section. An option without a name is a fault of the
line; no deeper line goes on with it. -/
def Progress.define (p : Progress) (sectionName : String) (text : List Char) :
    Except Fault Progress :=
  match option? text with
  | none => .ok { p with faulty := true }
  | some (name, value) =>
    let key := (sectionName, name)
    if p.values.contains key then .error (.optionTwice sectionName name)
    else
      .ok { p with
        values := p.values.insert key [value]
        option := if name = "" then none else some name
        faulty := p.faulty || name = "" }

/-- What is known after one more line. -/
def Progress.step (p : Progress) (line : List Char) : Except Fault Progress :=
  match classify line with
  | .comment => .ok p
  | .blank => .ok (p.extend [])
  | .text indent text =>
    if p.goesOn indent then .ok (p.extend text)
    else
      let p := { p with indent := indent }
      match header? text with
      | some name => p.enter name
      | none =>
        match p.current with
        | none => .error .noSection
        | some sectionName => p.define sectionName text

/-- A value of several lines, without the blanks at its end. -/
def joinValue (lines : List (List Char)) : String :=
  String.ofList (Text.stripEnd (['\n'].intercalate lines))

/-- **The file that lines spell.** -/
def ofLines (lines : List (List Char)) : Except Fault Ini :=
  match lines.foldlM Progress.step Progress.start with
  | .error fault => .error fault
  | .ok p =>
    if p.faulty then .error .lines
    else .ok ⟨p.sections, Dict.ofList (p.values.entries.map fun e => (e.1, joinValue e.2))⟩

/-- The file that a text with line feeds spells. -/
def parse (text : String) : Except Fault Ini := ofLines (Cut.fields '\n' text.toList)

/-! ### References between values -/

/-- The value of an option as it is written, or that of the default section. -/
def raw? (ini : Ini) (sectionName option : String) : Option String :=
  (ini.options.get? (sectionName, option)).or (ini.options.get? (defaultSection, option))

/-- The name in a reference `(name)s` at the front of a text, and how many characters the reference
has. -/
def reference? : List Char → Option (String × Nat)
  | '(' :: rest =>
    let name := rest.takeWhile (· != ')')
    match rest.drop name.length with
    | ')' :: 's' :: _ =>
      if name = [] then none else some (String.ofList (Text.lower name), name.length + 3)
    | _ => none
  | _ => none

/-- A text with its references resolved, the first `skip` characters of which belong to a reference
already resolved. Two percent signs stand for one. -/
def resolveFrom (value : String → Except Fault (List Char)) :
    Nat → List Char → Except Fault (List Char)
  | _, [] => .ok []
  | skip + 1, _ :: rest => resolveFrom value skip rest
  | 0, c :: rest =>
    if c ≠ '%' then (resolveFrom value 0 rest).map (c :: ·)
    else if rest.head? = some '%' then (resolveFrom value 1 rest).map ('%' :: ·)
    else
      match reference? rest with
      | none => .error (.badReference (String.ofList (c :: rest)))
      | some (name, width) =>
        match value name with
        | .error fault => .error fault
        | .ok text => (resolveFrom value width rest).map (text ++ ·)

/-- A text with the references in it resolved, and those in the values that they bring in, `depth`
times over at most. -/
def resolve (ini : Ini) (sectionName : String) : Nat → List Char → Except Fault (List Char)
  | 0, _ => .error .depth
  | depth + 1, text =>
    resolveFrom (fun name =>
      match ini.raw? sectionName name with
      | none => .error (.unknownReference name)
      | some value =>
        if value.toList.contains '%' then resolve ini sectionName depth value.toList
        else .ok value.toList) 0 text

/-- How many times over references are resolved. -/
def maxDepth : Nat := 10

/-- **The value of an option** in a section, with its references resolved. -/
def get? (ini : Ini) (sectionName option : String) : Except Fault (Option String) :=
  if ini.sections.contains sectionName then
    match ini.raw? sectionName option with
    | none => .ok none
    | some value =>
      (ini.resolve sectionName maxDepth value.toList).map fun text => some (String.ofList text)
  else .ok none

end Ini

end BlobRemote

import BlobRemote.Text.Cut
import BlobRemote.Text.Digit
import BlobRemote.Text.Quoted

/-!
# Command lines

A command line consists of words: options with their arguments, an operand, and for some programs
everything that follows the operand. An option is written in full, shortened as long as only one fits,
or, if it is a single letter, joined with further letters; its argument is the next word or stands
behind an equals sign. Two dashes say that no options follow.

Here each word is told apart by itself (`BlobRemote.Grammar.words`), which fails only if a shortened
option fits twice.
-/

namespace BlobRemote

/-- An option. -/
structure Switch (κ : Type) where
  /-- What it stands for; `none` asks for help. -/
  key : Option κ
  /-- How it may be written. -/
  spellings : List String
  /-- What its argument is called, if it takes one. -/
  argument : Option String
  /-- What it does. -/
  help : String

/-- An operand. -/
structure Operand where
  /-- What it is called. -/
  name : String
  /-- What it is. -/
  help : String

/-- What may stand on a command line. -/
structure Grammar (κ : Type) where
  /-- The words that call the program. -/
  program : String
  /-- What the program does. -/
  description : Option String
  /-- The options. -/
  switches : List (Switch κ)
  /-- The operand. -/
  operand : Operand
  /-- What follows the operand, if it is taken as it stands. -/
  rest : Option Operand

namespace Grammar

variable {κ : Type}

/-! ### Faults -/

/-- What is wrong with a command line. -/
inductive Fault where
  /-- A shortened option fits several ones. -/
  | ambiguous (word : String) (spellings : List String)
  /-- The argument of an option is missing. -/
  | noArgument (spellings : List String)
  /-- An option without argument was given one. -/
  | needless (spellings : List String) (text : String)
  /-- Operands are missing. -/
  | missing (operands : List String)
  /-- Words are unknown. -/
  | unknown (words : List String)
  deriving DecidableEq

/-- What is wrong, in words. -/
def Fault.message : Fault → String
  | .ambiguous word spellings =>
    "ambiguous option: " ++ word ++ " could match " ++ ", ".intercalate spellings
  | .noArgument spellings => "argument " ++ "/".intercalate spellings ++ ": expected one argument"
  | .needless spellings text =>
    "argument " ++ "/".intercalate spellings ++ ": ignored explicit argument " ++ Quoted.text text
  | .missing operands => "the following arguments are required: " ++ ", ".intercalate operands
  | .unknown words => "unrecognized arguments: " ++ " ".intercalate words

/-- Why a command line is not carried out. -/
inductive Stop where
  /-- It asks for help. -/
  | help
  /-- It is wrong. -/
  | fault (fault : Fault)
  deriving DecidableEq

/-! ### Words -/

/-- What is joined to an option. -/
structure Attached where
  /-- Whether an equals sign stands between them. -/
  equals : Bool
  /-- What is joined. -/
  text : List Char

/-- An option in a word. -/
structure Hit (κ : Type) where
  /-- The option. -/
  switch : Switch κ
  /-- How it is written in full. -/
  spelling : String
  /-- What is joined to it. -/
  attached : Option Attached

/-- A word of a command line. -/
inductive Word (κ : Type) where
  /-- An operand or an argument. -/
  | plain (text : String)
  /-- Two dashes. -/
  | separator
  /-- An option, if it is known. -/
  | option (text : String) (hit : Option (Hit κ))

/-- Two dashes. -/
def dashes : String := "--"

/-- A word as it stands. -/
def Word.text : Word κ → String
  | .plain text => text
  | .separator => dashes
  | .option text _ => text

/-- The ways to write an option, each with its option, in the order in which they were given. -/
def spelled (g : Grammar κ) : List (String × Switch κ) :=
  g.switches.flatMap fun s => s.spellings.map (·, s)

/-- The option that is written in this way. -/
def switch? (g : Grammar κ) (spelling : String) : Option (Switch κ) :=
  (g.spelled.find? fun e => e.1 = spelling).map Prod.snd

/-- A text cut at its first equals sign. -/
def cutEquals (text : List Char) : List Char × Option Attached :=
  match Cut.atFirst '=' text with
  | some (name, value) => (name, some ⟨true, value⟩)
  | none => (text, none)

/-- Whether a way to write an option is long: with two dashes. -/
def isLong (spelling : List Char) : Bool := ['-', '-'].isPrefixOf spelling

/-- The options that a word may be short for. A long one may lack its end; to a short one, whatever
follows is joined. -/
def hits (g : Grammar κ) (word : List Char) : List (Hit κ) :=
  if isLong word then
    let (name, attached) := cutEquals word
    g.spelled.filterMap fun (spelling, s) =>
      if name.isPrefixOf spelling.toList then some ⟨s, spelling, attached⟩ else none
  else
    g.spelled.filterMap fun (spelling, s) =>
      if spelling.toList = word.take 2 then some ⟨s, spelling, some ⟨false, word.drop 2⟩⟩
      else if word.isPrefixOf spelling.toList then some ⟨s, spelling, none⟩
      else none

/-- Whether characters are decimal digits, at least one of them. -/
def isDigits (text : List Char) : Bool :=
  !text.isEmpty && text.all fun c => (Text.digitValue? c).isSome

/-- Whether what follows a dash makes it a negative number: digits, with a point among or before them
but not after them. A line feed at the end does not count. -/
def isNumber (text : List Char) : Bool :=
  let text := if text.getLast? = some '\n' then text.dropLast else text
  match Cut.atFirst '.' text with
  | none => isDigits text
  | some (whole, part) => (whole.isEmpty || isDigits whole) && isDigits part

/-- **Tells what a word is** that is not two dashes. What starts with a dash is an option, known or
not, unless it is a lone dash, a negative number or contains a space. -/
def word (g : Grammar κ) (text : String) : Except Fault (Word κ) :=
  match text.toList with
  | '-' :: rest =>
    let (name, attached) := cutEquals ('-' :: rest)
    match g.switch? text, g.switch? (String.ofList name) with
    | some s, _ => .ok (.option text (some ⟨s, text, none⟩))
    | none, some s => .ok (.option text (some ⟨s, String.ofList name, attached⟩))
    | none, none =>
      if rest = [] then .ok (.plain text)
      else
        match g.hits ('-' :: rest) with
        | [hit] => .ok (.option text (some hit))
        | [] =>
          if isNumber rest || rest.contains ' ' then .ok (.plain text)
          else .ok (.option text none)
        | hits => .error (.ambiguous text (hits.map Hit.spelling))
  | _ => .ok (.plain text)

/-- **Tells what each word is.** After two dashes there are no options. -/
def words (g : Grammar κ) : List String → Except Fault (List (Word κ))
  | [] => .ok []
  | text :: rest =>
    if text = dashes then .ok (.separator :: rest.map .plain)
    else do
      let w ← g.word text
      let ws ← words g rest
      return w :: ws

end Grammar

end BlobRemote

import BlobRemote.Console.Grammar

/-!
# Reading a command line

The words of a command line are read in order (`BlobRemote.Grammar.readWords`). A demand for help ends
the reading where it stands, and so does an option with a wrong argument; missing operands and then
unknown words are told at the end (`BlobRemote.Grammar.parse`).
-/

namespace BlobRemote

namespace Grammar

variable {κ : Type}

/-! ### Options in a word -/

/-- What the options in a word say. -/
structure Saying (κ : Type) where
  /-- The options that are complete, each with its argument or the empty text. -/
  taken : List (Option κ × String)
  /-- The last option, if its argument is in the next word. -/
  awaiting : Option (Switch κ)
  /-- The letters that are no options, after a dash. -/
  unknown : Option String

/-- What an option says to which nothing is joined. -/
def Saying.alone (s : Switch κ) : Saying κ :=
  if s.argument.isSome then ⟨[], some s, none⟩ else ⟨[(s.key, "")], none, none⟩

/-- A saying after an option that is complete. -/
def Saying.after (s : Switch κ) (said : Saying κ) : Saying κ :=
  { said with taken := (s.key, "") :: said.taken }

/-- What an option says to which a text is joined: its argument, or the letters of further options. -/
def unroll (g : Grammar κ) (s : Switch κ) (long equals : Bool) (text : List Char) :
    Except Fault (Saying κ) :=
  if s.argument.isSome then .ok ⟨[(s.key, String.ofList text)], none, none⟩
  else
    match text with
    | [] => .error (.needless s.spellings "")
    | letter :: more =>
      if long || equals || letter = '-' then
        .error (.needless s.spellings (String.ofList (letter :: more)))
      else
        match g.switch? (String.ofList ['-', letter]) with
        | none => .ok ⟨[(s.key, "")], none, some (String.ofList ('-' :: letter :: more))⟩
        | some next =>
          match more with
          | [] => .ok ((Saying.alone next).after s)
          | '=' :: value => (g.unroll next false true value).map (Saying.after s)
          | c :: rest => (g.unroll next false false (c :: rest)).map (Saying.after s)

/-- What the options in a word say. -/
def said (g : Grammar κ) (hit : Hit κ) : Except Fault (Saying κ) :=
  match hit.attached with
  | none => .ok (.alone hit.switch)
  | some attached =>
    g.unroll hit.switch (isLong hit.spelling.toList) attached.equals attached.text

/-! ### Reading -/

/-- What a command line says so far. -/
structure Reading (κ : Type) where
  /-- The options, each with its argument or the empty text, the first one first. -/
  options : List (κ × String)
  /-- The operand. -/
  operand : Option String
  /-- What follows the operand and is taken as it stands. -/
  rest : List String
  /-- The words that are unknown. -/
  unknown : List String

/-- Nothing has been read yet. -/
def Reading.empty : Reading κ := ⟨[], none, [], []⟩

/-- A reading after options, unless one of them asks for help. -/
def Reading.take (r : Reading κ) : List (Option κ × String) → Except Stop (Reading κ)
  | [] => .ok r
  | (none, _) :: _ => .error .help
  | (some key, argument) :: more =>
    Reading.take { r with options := r.options ++ [(key, argument)] } more

/-- A reading after words that are unknown. -/
def Reading.reject (r : Reading κ) (texts : List String) : Reading κ :=
  { r with unknown := r.unknown ++ texts }

/-- Words without two dashes at their front. -/
def dropSeparator : List (Word κ) → List (Word κ)
  | .separator :: ws => ws
  | ws => ws

/-- **Reads words in order.** Two dashes next to the operand are passed over. -/
def readWords (g : Grammar κ) (r : Reading κ) : List (Word κ) → Except Stop (Reading κ)
  | [] => .ok r
  | .separator :: ws =>
    if r.operand.isNone then g.readWords r ws else g.readWords (r.reject [dashes]) ws
  | .plain text :: ws =>
    if r.operand.isSome then g.readWords (r.reject [text]) ws
    else
      let r := { r with operand := some text }
      if g.rest.isSome then .ok { r with rest := (dropSeparator ws).map Word.text }
      else
        match ws with
        | .separator :: ws => g.readWords r ws
        | ws => g.readWords r ws
  | .option text none :: ws => g.readWords (r.reject [text]) ws
  | .option _ (some hit) :: ws =>
    match g.said hit with
    | .error fault => .error (.fault fault)
    | .ok said =>
      match said.awaiting with
      | none => do
        let r ← (r.reject said.unknown.toList).take said.taken
        g.readWords r ws
      | some s =>
        match ws with
        | .plain text :: ws => do
          let r ← r.take (said.taken ++ [(s.key, text)])
          g.readWords r ws
        | _ => .error (.fault (.noArgument s.spellings))

/-- What a command line says. -/
structure Parsed (κ : Type) where
  /-- The options, each with its argument or the empty text, the first one first. -/
  options : List (κ × String)
  /-- The operand. -/
  operand : String
  /-- What follows the operand and is taken as it stands. -/
  rest : List String

/-- **Reads a command line.** -/
def parse (g : Grammar κ) (args : List String) : Except Stop (Parsed κ) := do
  let ws ← (g.words args).mapError .fault
  let r ← g.readWords .empty ws
  match r.operand with
  | none =>
    .error (.fault (.missing (g.operand.name :: g.rest.toList.map Operand.name)))
  | some operand =>
    if r.unknown = [] then .ok ⟨r.options, operand, r.rest⟩
    else .error (.fault (.unknown r.unknown))

/-- The argument of the last option of a kind. -/
def Parsed.last? [DecidableEq κ] (p : Parsed κ) (key : κ) : Option String :=
  (p.options.reverse.find? fun e => e.1 = key).map Prod.snd

end Grammar

end BlobRemote

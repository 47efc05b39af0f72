import BlobRemote.Console.Grammar

/-!
# Usage and help

What a grammar shows of itself: one line of usage, which also goes before the words about a fault, and
a help with a table of operands and a table of options.
-/

namespace BlobRemote

namespace Grammar

variable {κ : Type}

/-- How an option is written together with its argument. -/
def written (s : Switch κ) (spelling : String) : String :=
  s.argument.elim spelling fun argument => spelling ++ " " ++ argument

/-- **The line that shows** what may stand on the command line. -/
def usage (g : Grammar κ) : String :=
  let options := g.switches.map fun s => "[" ++ written s (s.spellings.headD "") ++ "]"
  let operands := g.operand.name :: g.rest.toList.map fun _ => "..."
  " ".intercalate ("usage:" :: g.program :: options ++ operands) ++ "\n"

/-- What is said on standard error about a fault. -/
def complaint (g : Grammar κ) (fault : Fault) : String :=
  g.usage ++ s!"{g.program}: error: {fault.message}\n"

/-- The entries of a table of operands. -/
def operandTable (g : Grammar κ) : List (String × String) :=
  (g.operand :: g.rest.toList).map fun o => (o.name, o.help)

/-- The entries of a table of options. -/
def switchTable (g : Grammar κ) : List (String × String) :=
  g.switches.map fun s => (", ".intercalate (s.spellings.map (written s)), s.help)

/-- A table with its title. What a thing does stands in the column `width`, unless nothing is said. -/
def table (width : Nat) (title : String) (entries : List (String × String)) : String :=
  let line (e : String × String) : String :=
    if e.2 = "" then s!"  {e.1}\n"
    else "  " ++ e.1 ++ String.ofList (List.replicate (width - e.1.length) ' ') ++ e.2 ++ "\n"
  title ++ ":\n" ++ String.join (entries.map line)

/-- **The help**: usage, what the program does, operands and options, their explanations two columns
right of the longest entry. -/
def help (g : Grammar κ) : String :=
  let operands := g.operandTable
  let switches := g.switchTable
  let width := ((operands ++ switches).map fun e => e.1.length).foldl max 0 + 2
  "\n".intercalate ([g.usage] ++ g.description.toList.map (· ++ "\n") ++
    [table width "positional arguments" operands, table width "options" switches])

end Grammar

end BlobRemote

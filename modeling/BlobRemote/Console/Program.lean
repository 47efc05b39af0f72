import BlobRemote.Console.Command
import BlobRemote.Console.Help
import BlobRemote.Console.Logging
import BlobRemote.Console.Reading
import BlobRemote.Http.Store

/-!
# The program

From the words of a command line to what is printed, written into the log and asked of the server
(`BlobRemote.Program.run`). The surroundings and the server are arguments, so a run is a value. It ends
in one of five ways (`BlobRemote.Ending`): failures that a user can cause are told in the log, and only
a configuration file of the wrong form and failures within are left to whoever started the program.
-/

namespace BlobRemote

/-- How a run ended. -/
inductive Ending where
  /-- The command was carried out. -/
  | done
  /-- The command failed, as the log tells. -/
  | failed
  /-- Help was asked for and given. -/
  | helped
  /-- The command line is wrong. -/
  | misused
  /-- Something failed that the program does not deal with. -/
  | broken (failure : Failure)
  deriving DecidableEq

/-- The exit status that tells how a run ended. -/
def Ending.status : Ending → Nat
  | .done => 0
  | .helped => 0
  | .misused => 2
  | .failed => 1
  | .broken _ => 1

namespace Program

variable {π : Type}

/-! ### Opening the repository -/

/-- The timeout of the last write and how the store is reached, for a location. -/
def readSettings (s : Surroundings) (ini : Ini) (l : Location) :
    Except Settings.Fault (Access × Remote) := do
  let timeout ← Settings.flushTimeout ini
  let access ← Settings.access ini s.environment (some l.user) l.password
  return (access, Remote.make l.bucket l.keyPrefix (some timeout))

/-- The configuration: the one that is given, or the one that the environment names. -/
def configuration (s : Surroundings) : Option Ini → Except Settings.Fault Ini
  | some ini => .ok ini
  | none => Settings.load s.environment s.files.text? none

/-- **How to reach the repository** that a URL names. -/
def locate (s : Surroundings) (ini : Option Ini) (url : String) :
    Except Reason (Access × Remote) := do
  let l ← (Location.parse url).mapError .location
  let ini ← (configuration s ini).mapError .settings
  (readSettings s ini l).mapError .settings

/-! ### Carrying out a command -/

/-- What a command did: its report, what was logged and the server afterwards. -/
structure Deed (π : Type) where
  /-- The report, or why there is none. -/
  report : Except Failure Report
  /-- What was logged, the first event first. -/
  events : List Event
  /-- The server. -/
  peer : π

/-- **Carries out a command** in a session of its own. -/
def perform [Peer π] (s : Surroundings) (ini : Option Ini) (peer : π) (c : Command) (symrefs : Bool)
    (url : String) : Deed π :=
  match locate s ini url with
  | .error r => ⟨.error r.alone, [], peer⟩
  | .ok (access, remote) =>
    let world : World (HttpStore π) := ⟨⟨access, s.parser, peer⟩, []⟩
    match Session.during remote s.stamp (c.report symrefs) world with
    | .ok report w => ⟨.ok report, w.log.reverse, w.store.peer⟩
    | .error f w => ⟨.error f, w.log.reverse, w.store.peer⟩

/-! ### Telling what happened -/

/-- A run that has ended. -/
structure Outcome (π : Type) where
  /-- How it ended. -/
  ending : Ending
  /-- What has been written. -/
  output : Output
  /-- The server. -/
  peer : π

/-- The logger of the program itself. -/
def logger : String := "root"

/-- Whether the program deals with a failure by telling it in the log. -/
def isTold (r : Reason) : Bool :=
  r.isMalformedRef || r.isManifestLoad || r.isNotFound || r.isTransport || r.isMissingFile ||
    r.isValue

/-- What is written when the program gives up, and how it ends. -/
def giveUp (l : Logging) (time : String) (o : Output) (message : String) : Ending × Output :=
  (.failed, l.write time o ⟨.critical, logger, message⟩)

/-- **What is written about a failure**, and how the program ends. -/
def fail (l : Logging) (time : String) (o : Output) (f : Failure) : Ending × Output :=
  if isTold f.reason then giveUp l time o f.reason.message else (.broken f, o)

/-- What is written about a report, and how the program ends. -/
def tell (l : Logging) (time : String) (o : Output) : Except Failure Report → Ending × Output
  | .error f => fail l time o f
  | .ok report =>
    let o := o.print report.text
    match report.fault with
    | none => (.done, o)
    | some fault => fail l time o (Reason.undecodable fault).alone

/-- What is written instead of carrying out a command line, and how the program ends. -/
def stop {κ : Type} (g : Grammar κ) (o : Output) : Grammar.Stop → Ending × Output
  | .help => (.helped, o.print g.help)
  | .fault fault => (.misused, o.complain (g.complaint fault))

/-! ### Running -/

/-- The configuration file that the command line names, unless its name is empty. -/
def configPath? (p : Grammar.Parsed Choice) : Option String := (p.last? .config).filter (· ≠ "")

/-- The configuration that the command line names. -/
def loadConfig (s : Surroundings) (p : Grammar.Parsed Choice) :
    Except Settings.Fault (Option Ini) :=
  match configPath? p with
  | none => .ok none
  | some path => (Settings.load s.environment s.files.text? (some path)).map some

/-- Runs a command with the words that follow its name. -/
def runCommand [Peer π] (s : Surroundings) (l : Logging) (o : Output) (ini : Option Ini) (peer : π)
    (c : Command) (args : List String) : Outcome π :=
  match c.grammar.parse args with
  | .error why =>
    let (ending, o) := stop c.grammar o why
    ⟨ending, o, peer⟩
  | .ok p =>
    let deed := perform s ini peer c (p.last? .symrefs).isSome p.operand
    let o := l.writeAll s.time o (deed.events.map Event.record)
    let (ending, o) := tell l s.time o deed.report
    ⟨ending, o, deed.peer⟩

/-- Runs the command that a command line names, once it is known where records go. -/
def dispatch [Peer π] (s : Surroundings) (l : Logging) (o : Output) (peer : π)
    (p : Grammar.Parsed Choice) : Outcome π :=
  match Command.ofName? p.operand with
  | none =>
    let (ending, o) := giveUp l s.time o s!"No such subcommand: {p.operand}"
    ⟨ending, o, peer⟩
  | some c =>
    match loadConfig s p with
    | .error fault =>
      let (ending, o) := fail l s.time o (Reason.settings fault).alone
      ⟨ending, o, peer⟩
    | .ok ini => runCommand s l o ini peer c p.rest

/-- **Runs the program** on the words of a command line. -/
def run [Peer π] (s : Surroundings) (peer : π) (args : List String) : Outcome π :=
  let g := Command.programGrammar
  match g.parse args with
  | .error why =>
    let (ending, o) := stop g (.start s) why
    ⟨ending, o, peer⟩
  | .ok p =>
    let (trace, o) := Trace.open s (.start s)
    let l := Logging.ofProgram (p.last? .verbose).isSome trace
    dispatch s l o peer p

/-- The paths that a run may ask the system about. -/
def paths (env : Environment) (args : List String) : List String :=
  let config := match Command.programGrammar.parse args with
    | .ok p => (configPath? p).toList
    | .error _ => []
  config ++ (env.get? Settings.pathVariable).toList ++ (env.get? Trace.setting).toList

/-- The names of the variables of the environment that a run looks at. -/
def variableNames : List String := Settings.pathVariable :: Trace.setting :: Pool.proxyVariables

end Program

end BlobRemote

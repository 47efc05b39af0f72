import BlobRemote.Text.Quoted

/-!
# Log records

What the library has to say while it works. An event is data; its level, the logger that it goes
through and its words are functions on it.
-/

namespace BlobRemote

/-- How grave a record is. -/
inductive Level where
  /-- A detail. -/
  | debug
  /-- News. -/
  | info
  /-- Something that may matter. -/
  | warning
  /-- A failure that is dealt with. -/
  | error
  /-- A failure that ends the program. -/
  | critical
  deriving DecidableEq

/-- A level as a number. -/
def Level.rank : Level → Nat
  | .debug => 10
  | .info => 20
  | .warning => 30
  | .error => 40
  | .critical => 50

/-- The name of a level. -/
def Level.name : Level → String
  | .debug => "DEBUG"
  | .info => "INFO"
  | .warning => "WARNING"
  | .error => "ERROR"
  | .critical => "CRITICAL"

/-- A record: its level, the logger that it goes through, and its words. -/
structure Record where
  /-- How grave it is. -/
  level : Level
  /-- The name of the logger. -/
  logger : String
  /-- The words. -/
  message : String
  deriving DecidableEq

/-- What happened. -/
inductive Event where
  /-- There is no manifest yet. -/
  | manifestAbsent (key : String)
  /-- The manifest cannot be fetched. -/
  | manifestUnread (key : String)
  /-- The manifest is read. -/
  | manifestLoaded (count : Nat) (key : String)
  /-- The manifest cannot be stored. -/
  | manifestUnwritten (key : String)
  /-- The manifest is stored. -/
  | manifestWritten (count : Nat) (key : String)
  /-- A request is about to be sent. -/
  | request (method url : String)
  /-- A database names another one. -/
  | alternate (uri location : String)
  /-- A reference names another one. -/
  | symbolicRef (name target : List UInt8)
  deriving DecidableEq

namespace Event

/-- How grave an event is. -/
def level : Event → Level
  | manifestUnread _ => .error
  | manifestUnwritten _ => .error
  | _ => .debug

/-- The logger that an event goes through. -/
def logger : Event → String
  | manifestAbsent _ => "blobwalk.manifest"
  | manifestUnread _ => "blobwalk.manifest"
  | manifestLoaded .. => "blobwalk.manifest"
  | manifestUnwritten _ => "blobwalk.manifest"
  | manifestWritten .. => "blobwalk.manifest"
  | request .. => "blobwalk.s3"
  | alternate .. => "blobwalk.database"
  | symbolicRef .. => "blobwalk.refs"

/-- An event in words. -/
def message : Event → String
  | manifestAbsent key => s!"No version manifest at {key}, starting empty"
  | manifestUnread key => s!"Failed to load version manifest file {key}"
  | manifestLoaded count key => s!"Loaded {count} versions from {key}"
  | manifestUnwritten key => s!"Error writing the manifest file {key}"
  | manifestWritten count key => s!"Wrote {count} versions to {key}"
  | request method url => s!"{method} {url}"
  | alternate uri location => s!"{uri} has alternate {location}"
  | symbolicRef name target => Quoted.bytes name ++ " is a symbolic ref to " ++ Quoted.bytes target

/-- The record of an event. -/
def record (e : Event) : Record := ⟨e.level, e.logger, e.message⟩

end Event

end BlobRemote

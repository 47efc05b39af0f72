import BlobRemote.Config.Ini
import BlobRemote.Http.Pool
import BlobRemote.Number.Decimal
import BlobRemote.Text.Quoted

/-!
# Settings

The section `s3` of a configuration file says where the store is, how long a request and the last
write of a session may take, which headers go with each request and which credentials stand in for a
password that the URL lacks.
-/

namespace BlobRemote

/-- How a store is reached. -/
structure Access where
  /-- The URL of the service, without slashes at its end. -/
  endpoint : String
  /-- The timeout of a request, in seconds. -/
  timeout : Option Binary64
  /-- What all requests have in common. -/
  pool : Pool

namespace Settings

/-- What is wrong with the settings. -/
inductive Fault where
  /-- A value cannot be read. -/
  | ini (fault : Ini.Fault)
  /-- A timeout is no number. -/
  | number (text : String)
  /-- There is no endpoint. -/
  | noEndpoint
  /-- A line of the headers has no colon. -/
  | header (line : String)
  /-- The pool cannot be made. -/
  | pool (fault : Pool.Fault)
  /-- There is no such file. -/
  | noFile (path : String)
  /-- No file is named. -/
  | noPath
  deriving DecidableEq

/-- The section that holds the settings. -/
def sectionName : String := "s3"

/-- The variable that names the configuration file. -/
def pathVariable : String := "BLOBWALK_CFG"

/-- What is wrong, in words. -/
def Fault.message : Fault → String
  | .ini fault => fault.message
  | .number text => "could not convert string to float: " ++ Quoted.text text
  | .noEndpoint => s!"No endpoint configured in section [{sectionName}]"
  | .header line => "Invalid header line " ++ Quoted.text line
  | .pool fault => fault.message
  | .noFile path => s!"Unable to read configuration file {path}"
  | .noPath => s!"You need to specify a configuration file or set {pathVariable}"

/-- The timeout of requests and of the last write of a session, unless another one is given. -/
def defaultTimeout : Binary64 := Binary64.ofNat 20

/-- The value of an option. -/
def text? (ini : Ini) (option : String) : Except Fault (Option String) :=
  (ini.get? sectionName option).mapError .ini

/-- A timeout, or the default one. -/
def timeout (ini : Ini) (option : String) : Except Fault Binary64 :=
  match text? ini option with
  | .error fault => .error fault
  | .ok none => .ok defaultTimeout
  | .ok (some text) =>
    match Number.readDecimal? text.toList with
    | some n => .ok n
    | none => .error (.number text)

/-- **The timeout of the last write** of a session. -/
def flushTimeout (ini : Ini) : Except Fault Binary64 := timeout ini "flush_timeout"

/-- The name and the value of a header in a line. -/
def headerOf (line : List Char) : Except Fault (String × String) :=
  match Cut.atFirst ':' line with
  | some (name, value) =>
    .ok (String.ofList (Text.strip name), String.ofList (Text.strip value))
  | none => .error (.header (String.ofList line))

/-- The headers in a text, one in each line that is not blank. -/
def headers (text : String) : Except Fault (List (String × String)) :=
  (((Text.lines text.toList).map Text.strip).filter (· ≠ [])).mapM headerOf

/-- The credentials to use: those of the URL, or those of the settings if the URL has no password and
the settings have a secret. -/
def credentials (ini : Ini) (user password : Option String) :
    Except Fault (Option String × Option String) := do
  if password.isSome then return (user, password)
  match ← text? ini "secretkey" with
  | none => return (user, none)
  | some secret =>
    let key ← text? ini "accesskey"
    return (key.or user, some secret)

/-- A URL without the slashes at its end. -/
def dropEndSlashes (url : String) : String := String.ofList (dropEndWhile (· == '/') url.toList)

/-- **How the store is reached** by a user with a password. -/
def access (ini : Ini) (env : Environment) (user password : Option String) :
    Except Fault Access := do
  let endpoint ← match ← text? ini "endpoint" with
    | some endpoint => if endpoint = "" then .error .noEndpoint else .ok endpoint
    | none => .error .noEndpoint
  let (user, password) ← credentials ini user password
  let timeout ← timeout ini "timeout"
  let headers ← headers ((← text? ini "headers").getD "")
  let pool ← (Pool.make env (some timeout) headers).mapError .pool
  let pool ← (pool.authorize user password).mapError .pool
  return ⟨dropEndSlashes endpoint, some timeout, pool⟩

/-- The path of the configuration file: the one that is given, or the one that the environment
names. -/
def path (env : Environment) (given : Option String) : Except Fault String :=
  match given.filter (· ≠ "") with
  | some path => .ok path
  | none =>
    match env.get? pathVariable with
    | some path => .ok path
    | none => .error .noPath

/-- **The configuration file**, read through `file?`, which tells the text of a file. -/
def load (env : Environment) (file? : String → Option String) (given : Option String) :
    Except Fault Ini := do
  let path ← path env given
  match file? path with
  | none => .error (.noFile path)
  | some text =>
    (Ini.ofLines (Cut.fields '\n' (Text.unifyLineEnds text.toList))).mapError .ini

end Settings

end BlobRemote

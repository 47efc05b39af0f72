import BlobRemote.Data.Dict
import BlobRemote.Number.Binary64
import BlobRemote.Text.Base64
import BlobRemote.Text.Cut
import BlobRemote.Text.Latin

/-!
# Connection pools

What all requests of a store have in common: headers, a default timeout, and a proxy. The proxy comes
from the environment, from the first of three variables that is set and not empty.
-/

namespace BlobRemote

/-- The variables of the environment. -/
abbrev Environment := Dict String String

/-- What all requests of a store have in common. -/
structure Pool where
  /-- The headers sent with every request. -/
  headers : Dict String String
  /-- The timeout of a request, in seconds. -/
  timeout : Option Binary64
  /-- The proxy, if there is one. -/
  proxy : Option String

namespace Pool

/-- What is wrong with the settings of a pool. -/
inductive Fault where
  /-- The proxy's scheme is another one than `http` and `https`, or there is none. -/
  | proxyScheme (scheme : Option String)
  /-- The proxy's port is no port number. -/
  | proxyPort (url : String)
  /-- The credentials have no Latin-1 form. -/
  | credentials (fault : Latin.Fault)
  deriving DecidableEq

/-- What is wrong, in words. -/
def Fault.message : Fault → String
  | .proxyScheme (some scheme) =>
    s!"Proxy URL had unsupported scheme {scheme}, should use http:// or https://"
  | .proxyScheme none => "Proxy URL had no scheme, should start with http:// or https://"
  | .proxyPort url => s!"Failed to parse: {url}"
  | .credentials fault => fault.message

/-- The name by which the program makes itself known. -/
def userAgent : String := "blobwalk/0.1.0"

/-! ### Proxies -/

/-- The variables that may name a proxy, the first one first. -/
def proxyVariables : List String := ["https_proxy", "http_proxy", "all_proxy"]

/-- The proxy that the environment names. -/
def proxyOf (env : Environment) : Option String :=
  proxyVariables.findSome? fun name => (env.get? name).filter (· ≠ "")

/-- Whether a character may stand in the scheme of a proxy's URL. -/
def isSchemeChar (c : Char) : Bool := c.isAlphanum || c == '+' || c == '-'

/-- The scheme at the front of a URL, and what follows its colon. -/
def scheme? (url : List Char) : Option (List Char × List Char) :=
  match Cut.atFirst ':' url with
  | some (scheme, rest) =>
    if scheme.head?.any Char.isAlpha && scheme.all isSchemeChar then
      some (scheme.map Char.toLower, rest)
    else none
  | none => none

/-- The port that a scheme implies. -/
def impliedPort (scheme : String) : Nat := if scheme = "https" then 443 else 80

/-- The host and the port of an authority. A host in brackets may hold colons. -/
def hostAndPort (s : List Char) : List Char × Option (List Char) :=
  match Cut.atLast ':' s with
  | some (host, port) => if port.contains ']' then (s, none) else (host, some port)
  | none => (s, none)

/-- A port as a number; no digits and zero stand for the implied one. -/
def port? (implied : Nat) : Option (List Char) → Option Nat
  | none => some implied
  | some digits =>
    if digits.all Char.isDigit && digits.length ≤ 5 then
      let n := digits.foldl (fun n c => 10 * n + (c.toNat - 0x30)) 0
      if n = 0 then some implied else if n ≤ 65535 then some n else none
    else none

/-- A proxy's URL with scheme and host in lower case and with its port. -/
def normalizeProxy (url : String) : Except Fault String :=
  match scheme? url.toList with
  | none => .error (.proxyScheme none)
  | some (schemeChars, rest) =>
    let scheme := String.ofList schemeChars
    if scheme ≠ "http" ∧ scheme ≠ "https" then .error (.proxyScheme (some scheme))
    else
      let afterSlashes := rest.dropWhile (· == '/')
      let authority := afterSlashes.takeWhile fun c => !(c == '/' || c == '?' || c == '#')
      let path := afterSlashes.drop authority.length
      let (userInfo, place) :=
        match Cut.atLast '@' authority with
        | some (userInfo, place) => (userInfo ++ ['@'], place)
        | none => ([], authority)
      let (host, port) := hostAndPort place
      match port? (impliedPort scheme) port with
      | none => .error (.proxyPort url)
      | some port =>
        .ok (scheme ++ "://" ++ String.ofList (userInfo ++ host.map Char.toLower) ++ ":" ++
          toString port ++ String.ofList path)

/-! ### Making a pool -/

/-- **A pool** with the program's own header and further ones, which go before it. -/
def make (env : Environment) (timeout : Option Binary64) (headers : List (String × String)) :
    Except Fault Pool :=
  let headers := (Dict.empty.insert "User-agent" userAgent).insertMany headers
  match proxyOf env with
  | none => .ok ⟨headers, timeout, none⟩
  | some url => (normalizeProxy url).map fun proxy => ⟨headers, timeout, some proxy⟩

/-- A pool that sends neither headers nor timeouts of its own. -/
def bare : Pool := ⟨Dict.empty, none, none⟩

/-- The header that carries credentials. -/
def basicHeader (user : String) (password : Option String) : Except Fault String :=
  match Latin.encode (user.toList ++ ':' :: (password.getD "").toList) with
  | .error fault => .error (.credentials fault)
  | .ok bytes => .ok ("Basic " ++ String.ofList (Base64.encode bytes))

/-- The pool with credentials, if there is a user. -/
def authorize (pool : Pool) (user password : Option String) : Except Fault Pool :=
  match user with
  | none => .ok pool
  | some user =>
    (basicHeader user password).map fun header =>
      { pool with headers := pool.headers.insert "authorization" header }

end Pool

end BlobRemote

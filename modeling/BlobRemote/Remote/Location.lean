import BlobRemote.Key
import BlobRemote.Remote.Host
import BlobRemote.Text.Percent

/-!
# Locations of repositories

A repository is named by a URL `amazon-s3://<user>[:<password>]@<bucket>/<path>`. The URL is cut
into scheme, authority and path first, and only the pieces are percent-decoded, so that an encoded
delimiter never cuts. `BlobRemote.Location.parse` reads such a URL, `BlobRemote.Location.url` writes
it.
-/

namespace BlobRemote

/-- Where a repository is, and who asks for it. -/
structure Location where
  /-- The user. -/
  user : String
  /-- The password, if the URL has one. -/
  password : Option String
  /-- The bucket. -/
  bucket : String
  /-- The key under which all keys of the repository lie. -/
  keyPrefix : String
  deriving DecidableEq

namespace Location

/-- The scheme of the URLs. -/
def scheme : String := "amazon-s3"

/-- What is wrong with a URL. -/
inductive Fault where
  /-- The authority is faulty. -/
  | host (fault : Host.Fault)
  /-- The scheme is another one. -/
  | scheme (url : String)
  /-- There is no user. -/
  | user (url : String)
  /-- There is no bucket. -/
  | bucket (url : String)
  /-- There is no path. -/
  | path (url : String)
  deriving DecidableEq

/-- What is wrong, in words. -/
def Fault.message : Fault → String
  | .host fault => fault.message
  | .scheme url => s!"Not an {Location.scheme} URL: " ++ Quoted.text url
  | .user url => "Missing user in " ++ Quoted.text url
  | .bucket url => "Missing bucket in " ++ Quoted.text url
  | .path url => "Missing path in " ++ Quoted.text url

/-! ### The parts of a URL -/

/-- The parts of a URL that matter here, still encoded. -/
structure Parts where
  /-- The scheme in lower case; empty if there is none. -/
  scheme : List Char
  /-- What stands between the two slashes and the path. -/
  authority : List Char
  /-- The path, without query and fragment. -/
  path : List Char

/-- Whether a character is a control character of ASCII or a space. -/
def isControlOrSpace (c : Char) : Bool := c.toNat ≤ 0x20

/-- The text of a URL that counts: controls and spaces before it do not, nor does any tab or line
end. -/
def significant (url : List Char) : List Char :=
  (url.dropWhile isControlOrSpace).filter fun c => !(c == '\t' || c == '\r' || c == '\n')

/-- Whether a character may stand in a scheme. -/
def isSchemeChar (c : Char) : Bool := c.isAlphanum || c == '+' || c == '-' || c == '.'

/-- A scheme in lower case and what follows its colon. A text without a scheme has an empty one. -/
def splitScheme (url : List Char) : List Char × List Char :=
  match Cut.atFirst ':' url with
  | some (scheme, rest) =>
    if (scheme.head?.any Char.isAlpha) && scheme.all isSchemeChar then
      (scheme.map Char.toLower, rest)
    else ([], url)
  | none => ([], url)

/-- Whether a character ends an authority. -/
def endsAuthority (c : Char) : Bool := c == '/' || c == '?' || c == '#'

/-- The authority after two slashes, and what follows it. A text that does not begin with two slashes
has an empty one. -/
def splitAuthority : List Char → List Char × List Char
  | '/' :: '/' :: rest => rest.span fun c => !endsAuthority c
  | s => ([], s)

/-- A path without its query and its fragment. -/
def barePath (s : List Char) : List Char :=
  (s.takeWhile (· != '#')).takeWhile (· != '?')

/-- The parts of a URL. -/
def parts (url : List Char) : Except Fault Parts :=
  let (scheme, afterScheme) := splitScheme (significant url)
  let (authority, afterAuthority) := splitAuthority afterScheme
  match (Host.bracketsFault? authority).or (Host.charactersFault? authority) with
  | some fault => .error (.host fault)
  | none => .ok ⟨scheme, authority, barePath afterAuthority⟩

/-! ### Reading and writing -/

/-- The user and the password that stand before the bucket. -/
def credentials (userInfo : List Char) : String × Option String :=
  let decoded (s : List Char) : String := String.ofList (Percent.decode s)
  match Cut.atFirst ':' userInfo with
  | some (user, password) => (decoded user, some (decoded password))
  | none => (decoded userInfo, none)

/-- **The location that a URL names.** -/
def parse (url : String) : Except Fault Location :=
  match parts url.toList with
  | .error fault => .error fault
  | .ok parts =>
    if parts.scheme ≠ scheme.toList then .error (.scheme url)
    else
      match Cut.atLast '@' parts.authority with
      | none => .error (.user url)
      | some (userInfo, bucket) =>
        if userInfo = [] then .error (.user url)
        else if bucket = [] then .error (.bucket url)
        else
          let keyPrefix := Key.normalize (String.ofList (Percent.decode parts.path))
          if keyPrefix = "" then .error (.path url)
          else
            let (user, password) := credentials userInfo
            .ok ⟨user, password, String.ofList bucket, keyPrefix⟩

/-- **The URL of a location**, with everything encoded that could be taken for a delimiter. -/
def url (l : Location) : String :=
  let password := l.password.elim [] fun p => ':' :: Percent.encodePart p.toList
  String.ofList (scheme.toList ++ "://".toList ++ Percent.encodePart l.user.toList ++ password ++
    '@' :: l.bucket.toList ++ '/' :: Percent.encodePath l.keyPrefix.toList)

end Location

end BlobRemote

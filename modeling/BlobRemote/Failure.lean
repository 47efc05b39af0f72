import BlobRemote.Config.Settings
import BlobRemote.Property.File
import BlobRemote.Ref.Packed
import BlobRemote.Remote.Location
import BlobRemote.Store.Buffer

/-!
# Failures

Everything that can go wrong, as data. A failure is a reason together with the reasons behind it, the
nearest first: a reference that cannot be read because the store does not answer because the
exchange broke off. What a reason says is one function, `BlobRemote.Reason.message`; whether a caller
deals with it is asked through the families below, never through its text.
-/

namespace BlobRemote

/-- What a store or the network could not do. -/
inductive Trouble where
  /-- Reading the file of packed references. -/
  | packedRefs
  /-- Listing the references. -/
  | listing
  /-- Reading the blob at a path. -/
  | unreadable (path : String)
  /-- Answering a request at all. -/
  | unanswered (method text : String)
  /-- Answering a request with success. -/
  | status (method : String) (code : Nat)
  /-- Sending a listing that can be read. -/
  | malformedListing
  /-- Something that the store says in its own words. -/
  | stated (text : String)
  deriving DecidableEq

/-- The trouble in words. -/
def Trouble.message : Trouble → String
  | .packedRefs => "error in packed-refs"
  | .listing => "cannot list refs"
  | .unreadable path => s!"cannot read {path}"
  | .unanswered method text => s!"{method} failed: {text}"
  | .status method code => s!"{method} request failed with error code {code}"
  | .malformedListing => "invalid listing"
  | .stated text => text

/-- Why an operation failed. -/
inductive Reason where
  /-- There is no blob under the key. -/
  | notFound (bucket key : String)
  /-- A store or the network failed. -/
  | transport (uri : Option String) (trouble : Trouble)
  /-- A blob holds neither an object identifier nor a symbolic reference. -/
  | malformedRef (name : Bytes) (content : Option Bytes)
  /-- Symbolic references go round in a circle. -/
  | cyclicRef (name : Bytes) (path : List Bytes)
  /-- The manifest cannot be read. -/
  | manifestLoad (key : String)
  /-- The manifest cannot be written. -/
  | manifestFlush (key : String)
  /-- A path climbs above the root of the bucket. -/
  | climb (climb : Key.Climb)
  /-- The file of packed references is faulty. -/
  | packedRefs (fault : Packed.Fault)
  /-- A property file is faulty. -/
  | property (fault : Property.Fault)
  /-- Bytes are not UTF-8. -/
  | undecodable (fault : Utf8.Fault)
  /-- A buffer is misused. -/
  | buffer (fault : Buffer.Fault)
  /-- A URL names no repository. -/
  | location (fault : Location.Fault)
  /-- The settings are faulty. -/
  | settings (fault : Settings.Fault)
  /-- An exchange with a server broke off. -/
  | exchange (text : String)
  /-- A listing is not well-formed. -/
  | listing
  /-- The system that a store rests on failed. -/
  | system (text : String)
  /-- A store refused a value. -/
  | value (text : String)
  /-- A store failed within, or the caller broke off. -/
  | internal (text : String)
  /-- Steps went on beyond any number that the store admits. -/
  | endless
  deriving DecidableEq

/-- A reason, and the reasons behind it. -/
structure Failure where
  /-- The reason. -/
  reason : Reason
  /-- The reasons behind it, the nearest first. -/
  causes : List Reason
  deriving DecidableEq

/-- A failure with nothing behind it. -/
def Reason.alone (r : Reason) : Failure := ⟨r, []⟩

/-- A failure because of another one. -/
def Failure.behind (cause : Failure) (r : Reason) : Failure := ⟨r, cause.reason :: cause.causes⟩

namespace Reason

/-! ### Wording -/

/-- What is wrong with the content of a reference. -/
def malformedMessage (name : Bytes) (content : Option Bytes) : String :=
  match content.filter (· ≠ []) with
  | none => "empty ref: " ++ Utf8.decodeLossy name
  | some content => "bad ref " ++ Utf8.decodeLossy name ++ ": " ++ Utf8.decodeLossy content

/-- The circle that symbolic references go round. -/
def cyclicMessage (name : Bytes) (path : List Bytes) : String :=
  "symbolic ref loop: " ++
    Utf8.decodeLossy ((Utf8.encodeText " -> ").intercalate (path ++ [name]))

/-- **What a reason says.** -/
def message : Reason → String
  | notFound bucket key => s!"{key} not found in bucket {bucket}"
  | transport uri trouble =>
    match uri.filter (· ≠ "") with
    | some uri => uri ++ ": " ++ trouble.message
    | none => trouble.message
  | malformedRef name content => malformedMessage name content
  | cyclicRef name path => cyclicMessage name path
  | manifestLoad key => s!"Failed to load version manifest {key}"
  | manifestFlush key => s!"Error writing the manifest file {key}"
  | climb c => c.message
  | packedRefs fault => fault.message
  | property fault => fault.message
  | undecodable fault => fault.message
  | buffer fault => fault.message
  | location fault => fault.message
  | settings fault => fault.message
  | exchange text => text
  | listing => "not well-formed"
  | system text => text
  | value text => text
  | internal text => text
  | endless => "no end in sight"

/-! ### Families -/

/-- Whether the store or the network failed. -/
def isTransport : Reason → Bool
  | transport .. => true
  | _ => false

/-- Whether the system failed, a missing file included. -/
def isSystem : Reason → Bool
  | system _ => true
  | settings (.noFile _) => true
  | settings .noPath => true
  | _ => false

/-- Whether a file was not there or not named. -/
def isMissingFile : Reason → Bool
  | settings (.noFile _) => true
  | settings .noPath => true
  | _ => false

/-- Whether some value was not as it should be. The form of a configuration file is not a value. -/
def isValue : Reason → Bool
  | climb _ => true
  | packedRefs _ => true
  | property _ => true
  | undecodable _ => true
  | buffer _ => true
  | location _ => true
  | settings (.number _) => true
  | settings .noEndpoint => true
  | settings (.header _) => true
  | settings (.pool _) => true
  | value _ => true
  | _ => false

/-- Whether the content of a reference is to blame. -/
def isMalformedRef : Reason → Bool
  | malformedRef .. => true
  | cyclicRef .. => true
  | _ => false

/-- Whether a missing blob is to blame. -/
def isNotFound : Reason → Bool
  | notFound .. => true
  | _ => false

/-- Whether the manifest could not be read. -/
def isManifestLoad : Reason → Bool
  | manifestLoad _ => true
  | _ => false

end Reason

end BlobRemote

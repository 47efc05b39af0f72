import BlobRemote.Config.Settings
import BlobRemote.Data.Names
import BlobRemote.Http.Address
import BlobRemote.Http.Exchange
import BlobRemote.Http.Listing
import BlobRemote.Store.Basic

/-!
# Stores over HTTP

A store that is reached by requests: a blob is fetched, put and deleted at its own URL, and the keys
below a directory are listed page by page, what a page holds being up to a parser. A missing blob is
told from every other failure by its status.
-/

namespace BlobRemote

/-- A store over HTTP. -/
structure HttpStore (π : Type) where
  /-- How the store is reached. -/
  access : Access
  /-- What reads the documents that are sent. -/
  parser : Xml.Parser
  /-- What answers the requests. -/
  peer : π

namespace HttpStore

variable {π : Type}

/-- The header that tells a version. -/
def versionHeader : String := "x-amz-version-id"

/-- The URL of a key in a bucket. -/
def url (s : HttpStore π) (bucket key : String) (fields : List (String × String)) : String :=
  Address.url s.access.endpoint bucket key fields

/-- The request of a method, which takes the timeout of the store if it has none of its own. -/
def request (s : HttpStore π) (method url : String) (body : Option Bytes)
    (timeout : Option Binary64) : Request :=
  ⟨method, url, s.access.pool.headers.entries, body, timeout.or s.access.timeout⟩

/-- Sends a request and waits for the answer. -/
def ask [Peer π] (method url : String) (body : Option Bytes) (timeout : Option Binary64) :
    Act (World (HttpStore π)) Answer := do
  World.note (.request method url)
  let w ← get
  let (reply, peer) := Peer.send (w.store.request method url body timeout) w.store.peer
  set { w with store := { w.store with peer := peer } }
  match reply with
  | .answered a => return a
  | .broken text =>
    Act.fail ((Reason.exchange text).alone.behind
      (.transport (some url) (.unanswered method text)))

/-- Refuses an answer that does not tell success. -/
def ensureSuccess {s : Type} (method url : String) (a : Answer) : Act s Unit :=
  if a.isSuccess then pure ()
  else Act.refuse (.transport (some url) (.status method a.status))

/-- The fields of a query that asks for a version. -/
def versionFields (version : Option String) : List (String × String) :=
  version.elim [] fun v => [("versionId", v)]

/-- Fetches a blob, or that version of it. -/
def fetch [Peer π] (bucket key : String) (version : Option String) :
    Act (World (HttpStore π)) (Stream × Option String) := do
  let w ← get
  let url := w.store.url bucket key (versionFields version)
  let a ← ask "GET" url none none
  if a.status = 404 then Act.refuse (.notFound bucket key)
  ensureSuccess "GET" url a
  return (.buffered a.body, a.header? versionHeader)

/-- Puts a blob. -/
def put [Peer π] (bucket key : String) (data : Bytes) (timeout : Option Binary64) :
    Act (World (HttpStore π)) (Option String) := do
  let w ← get
  let url := w.store.url bucket key []
  let a ← ask "PUT" url (some data) timeout
  ensureSuccess "PUT" url a
  return a.header? versionHeader

/-- Deletes a blob. That it is missing is no failure. -/
def delete [Peer π] (bucket key : String) : Act (World (HttpStore π)) Unit := do
  let w ← get
  let url := w.store.url bucket key []
  let a ← ask "DELETE" url none none
  if a.status ≠ 404 then ensureSuccess "DELETE" url a

/-! ### Listing -/

/-- The fields of a query that asks for a page. -/
def pageFields (start : String) (token : Option String) : List (String × String) :=
  [("list-type", "2"), ("prefix", start)] ++ token.elim [] fun t => [("continuation-token", t)]

/-- The page in what a parser makes of the answer to a request. -/
def readPage {s : Type} (url : String) : Xml.Parsed → Act s Page
  | .tree root => return Page.ofElement root
  | .malformed =>
    Act.fail (Reason.listing.alone.behind (.transport (some url) .malformedListing))
  | .failed f => Act.fail f

/-- Asks for a page of a listing. -/
def page [Peer π] (bucket start : String) (token : Option String) :
    Act (World (HttpStore π)) Page := do
  let w ← get
  let url := w.store.url bucket "" (pageFields start token)
  let a ← ask "GET" url none none
  if a.status = 404 then Act.refuse (.notFound bucket start)
  ensureSuccess "GET" url a
  readPage url (w.store.parser a.body)

/-- The keys on the pages from a token on. Each page names the next one; `fuel` bounds their
number. -/
def pagesFrom [Peer π] (bucket start : String) :
    Nat → Option String → Act (World (HttpStore π)) (List String)
  | 0, _ => Act.refuse .endless
  | fuel + 1, token => do
    let p ← page bucket start token
    match p.next with
    | none => return p.keys
    | some next =>
      let more ← pagesFrom bucket start fuel (some next)
      return p.keys ++ more

/-- Lists the keys below a directory, relative to it, from all pages. -/
def list [Peer π] (bucket directory : String) : Act (World (HttpStore π)) (List String) := do
  let w ← get
  let keys ← pagesFrom bucket (directory ++ "/") (Peer.extent w.store.peer + 1) none
  return Names.below directory keys

/-- The store in one line. -/
def describe (s : HttpStore π) : String :=
  "S3BlobStore(" ++ Quoted.text s.access.endpoint ++ ")"

instance [Peer π] : Store (HttpStore π) where
  get := fetch
  put := put
  delete := delete
  list := list
  describe := describe
  extent s := Peer.extent s.peer

end HttpStore

end BlobRemote

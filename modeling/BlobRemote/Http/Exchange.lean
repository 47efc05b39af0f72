import BlobRemote.Number.Binary64
import BlobRemote.Text.Utf8

/-!
# Exchanges

A request goes to a peer, and an answer comes back or the exchange breaks off. The peer is a
parameter: whatever answers requests and changes while doing so.
-/

namespace BlobRemote

/-- A request. -/
structure Request where
  /-- The method. -/
  method : String
  /-- The URL. -/
  url : String
  /-- The headers. -/
  headers : List (String × String)
  /-- What is sent, if anything is. -/
  body : Option Bytes
  /-- How long the exchange may take, in seconds. -/
  timeout : Option Binary64

/-- An answer. -/
structure Answer where
  /-- The status code. -/
  status : Nat
  /-- The headers. -/
  headers : List (String × String)
  /-- What is sent back. -/
  body : Bytes

/-- What becomes of a request. -/
inductive Reply where
  /-- It is answered. -/
  | answered (answer : Answer)
  /-- The exchange breaks off. -/
  | broken (text : String)

/-- Whatever answers requests. -/
class Peer (π : Type) where
  /-- What becomes of a request, and the peer after it. -/
  send (request : Request) (peer : π) : Reply × π
  /-- A bound on the number of different requests in a row that are answered with success. -/
  extent (peer : π) : Nat

namespace Answer

/-- Whether the status tells success. -/
def isSuccess (a : Answer) : Bool := 200 ≤ a.status && a.status < 300

/-- The value of a header, whose name does not depend on case. -/
def header? (a : Answer) (name : String) : Option String :=
  let lower (s : String) : List Char := s.toList.map Char.toLower
  (a.headers.find? fun h => lower h.1 = lower name).map Prod.snd

end Answer

end BlobRemote

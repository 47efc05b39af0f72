import BlobRemote.Http.Exchange

/-!
# Scripted peers

A peer that answers from a script, which holds replies in the order in which they are used, and keeps
the requests that it saw. After the script it answers with status 500.
-/

namespace BlobRemote

/-- An answer without content. -/
def Answer.bare (status : Nat) : Answer := ⟨status, [], []⟩

/-- Replies in the order of their use. -/
structure Script where
  /-- The replies that are left. -/
  replies : List Reply
  /-- The requests so far, the latest first. -/
  seen : List Request

instance : Peer Script where
  send request s :=
    match s.replies with
    | [] => (.answered (.bare 500), { s with seen := request :: s.seen })
    | r :: rest => (r, ⟨rest, request :: s.seen⟩)
  extent s := s.replies.length

end BlobRemote

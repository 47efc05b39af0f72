import Mathlib
import BlobRemote.Http.Store
import BlobRemote.Proofs.Session.Reading

/-!
# Peers that are overheard

What a store over HTTP asks of its peer is kept (`BlobRemote.Overheard`), the peer answering as it
did before. Reads and listings ask for nothing but to get what is there, however many pages a
listing has and whatever the peer answers (`BlobRemote.HttpStore.readsLeave_changes`).
-/

namespace BlobRemote

/-- A peer, and the requests that it was sent, the latest first. -/
structure Overheard (π : Type) where
  /-- The peer. -/
  inner : π
  /-- The requests, the latest first. -/
  requests : List Request

namespace Overheard

variable {π : Type}

instance [Peer π] : Peer (Overheard π) where
  send request p :=
    let (reply, inner) := Peer.send request p.inner
    (reply, ⟨inner, request :: p.requests⟩)
  extent p := Peer.extent p.inner

/-- The requests that do not merely get what is there. -/
def changes (p : Overheard π) : List Request := p.requests.filter (·.method ≠ "GET")

theorem changes_send [Peer π] {request : Request} (h : request.method = "GET") (p : Overheard π) :
    (Peer.send request p).2.changes = p.changes := by
  change (request :: p.requests).filter _ = _
  rw [List.filter_cons_of_neg (by simpa using h)]
  rfl

end Overheard

namespace HttpStore

variable {π : Type}

/-- The requests of a store that do not merely get what is there. -/
def changes (w : World (HttpStore (Overheard π))) : List Request := w.store.peer.changes

variable [Peer π]

theorem ask_apply (method url : String) (body : Option Bytes) (timeout : Option Binary64)
    (w : World (HttpStore π)) :
    ask method url body timeout w =
      let (reply, peer) := Peer.send (w.store.request method url body timeout) w.store.peer
      let w' : World (HttpStore π) :=
        ⟨{ w.store with peer := peer }, .request method url :: w.log⟩
      match reply with
      | .answered a => .ok a w'
      | .broken text =>
        .error ((Reason.exchange text).alone.behind
          (.transport (some url) (.unanswered method text))) w' := by
  rw [ask, Act.bind_apply]
  change (get >>= _ : Act (World (HttpStore π)) Answer) ⟨w.store, .request method url :: w.log⟩ = _
  rw [Act.bind_apply_of_ok (Act.get_apply _)]
  dsimp only
  cases Peer.send (w.store.request method url body timeout) w.store.peer with
  | mk reply peer => cases reply <;> rfl

theorem leaves_ask (url : String) (body : Option Bytes) (timeout : Option Binary64) :
    Act.Leaves (changes (π := π)) (ask "GET" url body timeout) := by
  intro w
  have hget : (w.store.request "GET" url body timeout).method = "GET" := rfl
  have hsend := Overheard.changes_send hget w.store.peer
  rw [ask_apply]
  cases hsent : Peer.send (w.store.request "GET" url body timeout) w.store.peer with
  | mk reply peer =>
    rw [hsent] at hsend
    cases reply <;> exact hsend

omit [Peer π] in
theorem leaves_ensureSuccess {γ s : Type} {part : s → γ} (method url : String) (a : Answer) :
    Act.Leaves part (ensureSuccess method url a) := by
  unfold ensureSuccess
  split
  · exact Act.Leaves.pure ()
  · exact Act.Leaves.refuse _

omit [Peer π] in
theorem leaves_readPage {γ s : Type} {part : s → γ} (url : String) (parsed : Xml.Parsed) :
    Act.Leaves part (readPage url parsed) := by
  cases parsed with
  | tree root => exact Act.Leaves.pure _
  | malformed => exact Act.Leaves.fail _
  | failed f => exact Act.Leaves.fail f

theorem leaves_fetch (bucket key : String) (version : Option String) :
    Act.Leaves (changes (π := π)) (fetch bucket key version) := by
  refine Act.Leaves.get.bind fun w => (leaves_ask _ _ _).bind fun a => ?_
  dsimp only
  split
  · exact (Act.Leaves.refuse _).bind fun _ =>
      (leaves_ensureSuccess _ _ _).bind fun _ => Act.Leaves.pure _
  · exact (leaves_ensureSuccess _ _ _).bind fun _ => Act.Leaves.pure _

theorem leaves_page (bucket start : String) (token : Option String) :
    Act.Leaves (changes (π := π)) (page bucket start token) := by
  refine Act.Leaves.get.bind fun w => (leaves_ask _ _ _).bind fun a => ?_
  dsimp only
  split
  · exact (Act.Leaves.refuse _).bind fun _ =>
      (leaves_ensureSuccess _ _ _).bind fun _ => leaves_readPage _ _
  · exact (leaves_ensureSuccess _ _ _).bind fun _ => leaves_readPage _ _

theorem leaves_pagesFrom (bucket start : String) (fuel : Nat) (token : Option String) :
    Act.Leaves (changes (π := π)) (pagesFrom bucket start fuel token) := by
  induction fuel generalizing token with
  | zero => exact Act.Leaves.refuse _
  | succ fuel ih =>
    refine (leaves_page bucket start token).bind fun p => ?_
    cases p.next with
    | none => exact Act.Leaves.pure _
    | some next => exact (ih (some next)).bind fun more => Act.Leaves.pure _

theorem leaves_list (bucket directory : String) :
    Act.Leaves (changes (π := π)) (list bucket directory) := by
  refine Act.Leaves.get.bind fun w => (leaves_pagesFrom _ _ _ _).bind fun keys => ?_
  exact Act.Leaves.pure _

/-- **Reads and listings** ask for nothing but to get what is there. -/
theorem readsLeave_changes : ReadsLeave (changes (π := π)) where
  get := leaves_fetch
  list := leaves_list
  note _ _ := rfl

end HttpStore

end BlobRemote

import Mathlib
import BlobRemote.Proofs.Session.Client
import BlobRemote.Proofs.Store.Watched

/-!
# The life of an upload

What can happen to an upload is an event (`BlobRemote.Upload.Event`): it is written to, closed or
aborted, the block in which it is written is left, or it is dropped. Some of these end it. Events
may come in any order and any number, and others may do to the store what they like in between.

The first event that ends an upload decides (`BlobRemote.Upload.calls_of_life`): if it closes the
upload the store is asked once to take what was written until then, whatever it answers, and
otherwise the store is never asked. After that nothing happens any more, and before that nothing but
the buffer changes. So a session tracks a version of an upload only if the store took it.
-/

namespace BlobRemote

namespace Upload

/-- What can happen to an upload. -/
inductive Event where
  /-- A piece is written. -/
  | write (piece : Bytes)
  /-- The place of the next write is moved. -/
  | seek (n : Int)
  /-- What lies beyond a size is dropped. -/
  | truncate (size : Option Int)
  /-- The upload is aborted. -/
  | abort
  /-- The upload is closed. -/
  | close
  /-- The block in which it is written is left, through a failure if one is given. -/
  | leave (failure : Option Failure)
  /-- The upload is dropped. -/
  | drop

namespace Event

/-- Whether an event ends an upload. -/
def ends : Event → Bool
  | write _ => false
  | seek _ => false
  | truncate _ => false
  | _ => true

/-- Whether an event ends an upload by asking the store to take it. -/
def stores : Event → Bool
  | close => true
  | leave none => true
  | _ => false

end Event

variable {σ : Type}

/-- **What an event does** to an upload. -/
def perform [Store σ] : Event → Act (Uploading σ) Completion
  | .write piece => do
    let _ ← write piece
    return .nothing
  | .seek n => do
    let _ ← seek n
    return .nothing
  | .truncate size => do
    let _ ← truncate size
    return .nothing
  | .abort => do
    abort
    return .nothing
  | .close => close
  | .leave failure => leave failure
  | .drop => do
    drop
    return .nothing

/-- The versions that whoever began the upload is told of, with what an event did. -/
def told {s : Type} : EStateM.Result Failure s Completion → List (Option String)
  | .ok (.stored version) _ => [version]
  | _ => []

/-! ### One event -/

section Event

variable [Store σ] {u : Uploading σ} {event : Event}

/-- **An upload that has ended** stays as it is. -/
theorem perform_of_ended (h : u.upload.ended = true) (event : Event) :
    Act.stateOf (perform event u) = u ∧ told (perform event u) = [] := by
  have hopen : ensureOpen u = .error (Reason.buffer .closed).alone u := by
    rw [ensureOpen, Act.bind_apply_of_ok (Act.get_apply u), if_pos h]
    rfl
  have hmark : markEnded u = .ok ⟨⟩ u := by
    obtain ⟨w, bucket, key, buffer, ended⟩ := u
    obtain rfl : ended = true := h
    rfl
  have hclose : close u = .ok .nothing u := by rw [close_apply, if_pos h]
  cases event with
  | write piece =>
    rw [perform, Act.bind_apply, write, Act.bind_apply, hopen]
    exact ⟨rfl, rfl⟩
  | seek n =>
    rw [perform, Act.bind_apply, seek, Act.bind_apply, hopen]
    exact ⟨rfl, rfl⟩
  | truncate size =>
    rw [perform, Act.bind_apply, truncate, Act.bind_apply, hopen]
    exact ⟨rfl, rfl⟩
  | abort =>
    rw [perform, abort, Act.bind_apply_of_ok hmark]
    exact ⟨rfl, rfl⟩
  | close =>
    rw [perform, hclose]
    exact ⟨rfl, rfl⟩
  | leave failure =>
    cases failure with
    | none =>
      rw [perform, leave, hclose]
      exact ⟨rfl, rfl⟩
    | some f =>
      rw [perform, leave, abort, Act.bind_apply_of_ok hmark]
      exact ⟨rfl, rfl⟩
  | drop =>
    have hdrop : drop u = .ok () u := by
      rw [drop, Act.bind_apply_of_ok (Act.get_apply u), h]
      rfl
    rw [perform, Act.bind_apply_of_ok hdrop]
    exact ⟨rfl, rfl⟩

/-- **What ends no upload** changes nothing but its buffer. -/
theorem perform_of_not_ends (h : u.upload.ended = false) (he : event.ends = false) :
    ∃ buffer, Act.stateOf (perform event u) = { u with upload := { u.upload with buffer } } ∧
      told (perform event u) = [] := by
  have hopen : ensureOpen u = .ok () u := by
    rw [ensureOpen, Act.bind_apply_of_ok (Act.get_apply u), if_neg (by rw [h]; decide)]
    rfl
  cases event with
  | write piece =>
    rw [perform, Act.bind_apply, write, Act.bind_apply_of_ok hopen]
    exact ⟨_, rfl, rfl⟩
  | seek n =>
    rw [perform, Act.bind_apply, seek, Act.bind_apply_of_ok hopen,
      Act.bind_apply_of_ok (Act.get_apply u), Act.bind_apply]
    cases u.upload.buffer.seek n with
    | error fault => exact ⟨u.upload.buffer, rfl, rfl⟩
    | ok b => exact ⟨b, rfl, rfl⟩
  | truncate size =>
    rw [perform, Act.bind_apply, truncate, Act.bind_apply_of_ok hopen,
      Act.bind_apply_of_ok (Act.get_apply u), Act.bind_apply]
    cases u.upload.buffer.truncate size with
    | error fault => exact ⟨u.upload.buffer, rfl, rfl⟩
    | ok b => exact ⟨b.1, rfl, rfl⟩
  | abort => cases he
  | close => cases he
  | leave failure => cases he
  | drop => cases he

/-- **What ends an upload without closing it** calls no store. -/
theorem perform_of_not_stores (h : u.upload.ended = false) (he : event.ends = true)
    (hs : event.stores = false) :
    Act.stateOf (perform event u) = { u with upload := { u.upload with ended := true } } ∧
      told (perform event u) = [] := by
  cases event with
  | write piece => cases he
  | seek n => cases he
  | truncate size => cases he
  | abort => exact ⟨rfl, rfl⟩
  | close => cases hs
  | leave failure =>
    cases failure with
    | none => cases hs
    | some f => exact ⟨rfl, rfl⟩
  | drop =>
    have hdrop : drop u = .ok () { u with upload := { u.upload with ended := true } } := by
      rw [drop, Act.bind_apply_of_ok (Act.get_apply u), h]
      rfl
    rw [perform, Act.bind_apply_of_ok hdrop]
    exact ⟨rfl, rfl⟩

/-- **What closes an upload** is closing it. -/
theorem perform_of_stores (hs : event.stores = true) :
    perform event = (close : Act (Uploading σ) Completion) := by
  cases event with
  | close => rfl
  | leave failure =>
    cases failure with
    | none => rfl
    | some f => cases hs
  | _ => cases hs

/-- **Closing an upload** to a store that is watched is one call, with all that was written, and
whoever began it is told of the version that the store answered. -/
theorem exists_put {u : Uploading (Watched σ)} (h : u.upload.ended = false)
    (hs : event.stores = true) :
    ∃ answer, (Act.stateOf (perform event u)).upload.ended = true ∧
      (Act.stateOf (perform event u)).store.calls =
        .put u.upload.bucket u.upload.key u.upload.buffer.data none answer :: u.store.calls ∧
      told (perform event u) = answer.toOption.toList := by
  have hcalls := Watched.calls_put u.upload.bucket u.upload.key u.toWorld u.upload.buffer.data none
  rw [perform_of_stores hs, close_apply_of_open _ h]
  cases hput : Store.put u.upload.bucket u.upload.key u.upload.buffer.data none u.toWorld with
  | ok version w =>
    rw [hput] at hcalls
    exact ⟨.ok version, rfl, hcalls, rfl⟩
  | error f w =>
    rw [hput] at hcalls
    exact ⟨.error f, rfl, hcalls, rfl⟩

end Event

/-! ### A whole life -/

/-- A turn: what others do to the store, and then an event. -/
structure Turn (σ : Type) where
  /-- What others do to the store. -/
  meanwhile : World σ → World σ
  /-- The event. -/
  event : Event

/-- An upload to a store that is watched, and the versions that whoever began it was told of, the
latest first. -/
structure Life (σ : Type) where
  /-- The upload and the store. -/
  now : Uploading (Watched σ)
  /-- The versions. -/
  told : List (Option String)

namespace Life

/-- An upload that has just begun. -/
def begun (bucket key : String) (w : World (Watched σ)) : Life σ := ⟨⟨w, start bucket key⟩, []⟩

/-- The calls of the store. -/
def calls (l : Life σ) : List Demand := l.now.store.calls

/-- The upload when an event comes. -/
def before (l : Life σ) (turn : Turn σ) : Uploading (Watched σ) :=
  { l.now with toWorld := Watched.elsewhere turn.meanwhile l.now.toWorld }

variable [Store σ]

/-- An upload after a turn. -/
def after (l : Life σ) (turn : Turn σ) : Life σ :=
  let result := perform turn.event (l.before turn)
  ⟨Act.stateOf result, Upload.told result ++ l.told⟩

/-- **An upload after some turns.** -/
def lived (l : Life σ) (turns : List (Turn σ)) : Life σ := turns.foldl after l

theorem lived_append (l : Life σ) (turns turns' : List (Turn σ)) :
    l.lived (turns ++ turns') = (l.lived turns).lived turns' := List.foldl_append

variable {l : Life σ} {turn : Turn σ}

/-- **After its end** an upload calls no store, and nobody is told of it. -/
theorem lived_of_ended (h : l.now.upload.ended = true) (turns : List (Turn σ)) :
    (l.lived turns).calls = l.calls ∧ (l.lived turns).told = l.told := by
  induction turns generalizing l with
  | nil => exact ⟨rfl, rfl⟩
  | cons turn rest ih =>
    have hended : (l.before turn).upload.ended = true := h
    obtain ⟨hstate, htold⟩ := perform_of_ended hended turn.event
    have hafter : l.after turn = ⟨l.before turn, l.told⟩ := by
      rw [after, hstate, htold, List.nil_append]
    change ((l.after turn).lived rest).calls = _ ∧ ((l.after turn).lived rest).told = _
    rw [hafter]
    exact ih hended

/-- **An upload that has not ended**: it goes where it went, no store was called and nobody was told
of it. -/
structure Pending (bucket key : String) (calls : List Demand) (l : Life σ) : Prop where
  /-- It has not ended. -/
  ended : l.now.upload.ended = false
  /-- Its bucket. -/
  bucket : l.now.upload.bucket = bucket
  /-- Its key. -/
  key : l.now.upload.key = key
  /-- The calls of the store. -/
  calls : l.calls = calls
  /-- Nobody was told. -/
  told : l.told = []

namespace Pending

variable {bucket key : String} {calls : List Demand}

omit [Store σ] in
theorem begun (bucket key : String) (w : World (Watched σ)) :
    Pending bucket key w.store.calls (Life.begun bucket key w) := ⟨rfl, rfl, rfl, rfl, rfl⟩

/-- **A turn that does not end an upload.** -/
theorem after (h : Pending bucket key calls l) (he : turn.event.ends = false) :
    Pending bucket key calls (l.after turn) := by
  have hopen : (l.before turn).upload.ended = false := h.ended
  obtain ⟨buffer, hstate, htold⟩ := perform_of_not_ends hopen he
  have hafter : l.after turn =
      ⟨{ l.before turn with upload := { l.now.upload with buffer } }, l.told⟩ := by
    rw [Life.after, hstate, htold]
    rfl
  rw [hafter]
  exact ⟨h.ended, h.bucket, h.key, h.calls, h.told⟩

theorem lived (h : Pending bucket key calls l) {turns : List (Turn σ)}
    (hturns : ∀ turn ∈ turns, turn.event.ends = false) :
    Pending bucket key calls (l.lived turns) := by
  induction turns generalizing l with
  | nil => exact h
  | cons turn rest ih =>
    rw [List.forall_mem_cons] at hturns
    exact ih (h.after hturns.1) hturns.2

/-- **A turn that ends an upload without closing it.** -/
theorem after_of_not_stores (h : Pending bucket key calls l) (he : turn.event.ends = true)
    (hs : turn.event.stores = false) :
    (l.after turn).now.upload.ended = true ∧ (l.after turn).calls = calls ∧
      (l.after turn).told = [] := by
  have hopen : (l.before turn).upload.ended = false := h.ended
  obtain ⟨hstate, htold⟩ := perform_of_not_stores hopen he hs
  have hafter : l.after turn =
      ⟨{ l.before turn with upload := { l.now.upload with ended := true } }, l.told⟩ := by
    rw [Life.after, hstate, htold]
    rfl
  rw [hafter]
  exact ⟨rfl, h.calls, h.told⟩

/-- **A turn that closes an upload**: the store is asked to take it, and if the store does, whoever
began it is told. -/
theorem after_of_stores (h : Pending bucket key calls l) (hs : turn.event.stores = true) :
    ∃ answer, (l.after turn).now.upload.ended = true ∧
      (l.after turn).calls = .put bucket key l.now.upload.buffer.data none answer :: calls ∧
      (l.after turn).told = answer.toOption.toList := by
  have hopen : (l.before turn).upload.ended = false := h.ended
  obtain ⟨answer, hended, hcalls, htold⟩ := exists_put hopen hs
  refine ⟨answer, hended, ?_, ?_⟩
  · rw [← h.bucket, ← h.key, ← h.calls]
    exact hcalls
  · rw [Life.after, htold, h.told, List.append_nil]

omit [Store σ] in
/-- **What was written** is all that is in the buffer. -/
theorem contents_apply (h : Pending bucket key calls l) :
    Act.answerOf (contents l.now) = .ok l.now.upload.buffer.data := by
  rw [contents, Act.bind_apply, ensureOpen, Act.bind_apply_of_ok (Act.get_apply l.now),
    if_neg (by rw [h.ended]; decide)]
  rfl

/-- **Pieces that are written one after another** make up the buffer. -/
theorem data_lived (h : Pending bucket key calls l)
    (hend : l.now.upload.buffer.position = l.now.upload.buffer.data.length)
    {turns : List (Turn σ)} {pieces : List Bytes}
    (hpieces : turns.map Turn.event = pieces.map Event.write) :
    (l.lived turns).now.upload.buffer.data = l.now.upload.buffer.data ++ pieces.flatten := by
  induction pieces generalizing l turns with
  | nil =>
    rw [List.map_nil, List.map_eq_nil_iff] at hpieces
    rw [hpieces, List.flatten_nil, List.append_nil]
    rfl
  | cons piece rest ih =>
    rw [List.map_cons, List.map_eq_cons_iff] at hpieces
    obtain ⟨turn, turns, rfl, hevent, hrest⟩ := hpieces
    have hopen : (l.before turn).upload.ended = false := h.ended
    have hbuffer : (l.after turn).now.upload.buffer = l.now.upload.buffer.write piece := by
      rw [Life.after, hevent, perform, Act.stateOf_bind_pure, write_apply,
        if_neg (by rw [hopen]; decide)]
      rfl
    have hends : turn.event.ends = false := by
      rw [hevent]
      rfl
    have hlast := ih (h.after hends) (by
      rw [hbuffer]
      exact Buffer.position_write_at_end hend piece) hrest
    rw [hbuffer, Buffer.data_write_at_end hend, List.append_assoc] at hlast
    exact hlast

end Pending

end Life

end Upload

/-! ### In a session -/

namespace Client

/-- **A client goes on with an upload**: either nothing is asked of the store and the manifest stays
as it is, or the store is asked to take the upload and the manifest tracks the version if it does.
-/
def GoesOn (u : Upload) (c c' : Client (Watched σ)) : Prop :=
  (c'.session.store.calls = c.session.store.calls ∧ c'.session.manifest = c.session.manifest) ∨
    ∃ answer, c'.session.store.calls =
        .put u.bucket u.key u.buffer.data none answer :: c.session.store.calls ∧
      c'.session.manifest =
        answer.toOption.elim c.session.manifest (c.session.manifest.track u.key)

variable [Store σ]

/-- What an event of an upload does to the store, and what the manifest is told of it. -/
theorem stateOf_onUpload (c : Client (Watched σ)) {number : Nat} {u : Upload}
    (hu : c.uploads[number]? = some u) (event : Upload.Event) :
    let result := Upload.perform event ⟨c.session.toWorld, u⟩
    let c' := Act.stateOf (onUpload number id (Upload.perform event) c)
    c'.session.store.calls = (Act.stateOf result).store.calls ∧
      c'.session.manifest =
        (Upload.told result).foldr (fun version m => m.track u.key version) c.session.manifest := by
  dsimp only
  rw [onUpload, hu]
  dsimp only
  rw [Writing.onUpload]
  cases Upload.perform event ⟨c.session.toWorld, u⟩ with
  | error f w => exact ⟨rfl, rfl⟩
  | ok completion w => cases completion <;> exact ⟨rfl, rfl⟩

theorem goesOn_onUpload (c : Client (Watched σ)) {number : Nat} {u : Upload}
    (hu : c.uploads[number]? = some u) (event : Upload.Event) :
    GoesOn u c (Act.stateOf (onUpload number id (Upload.perform event) c)) := by
  obtain ⟨hcalls, hmanifest⟩ := stateOf_onUpload c hu event
  rw [GoesOn, hcalls, hmanifest]
  cases hended : u.ended with
  | true =>
    obtain ⟨hstate, htold⟩ := Upload.perform_of_ended
      (show (Uploading.mk c.session.toWorld u).upload.ended = true from hended) event
    rw [hstate, htold]
    exact .inl ⟨rfl, rfl⟩
  | false =>
    have hopen : (Uploading.mk c.session.toWorld u).upload.ended = false := hended
    cases hends : event.ends with
    | false =>
      obtain ⟨buffer, hstate, htold⟩ := Upload.perform_of_not_ends hopen hends
      rw [hstate, htold]
      exact .inl ⟨rfl, rfl⟩
    | true =>
      cases hstores : event.stores with
      | false =>
        obtain ⟨hstate, htold⟩ := Upload.perform_of_not_stores hopen hends hstores
        rw [hstate, htold]
        exact .inl ⟨rfl, rfl⟩
      | true =>
        obtain ⟨answer, -, hput, htold⟩ := Upload.exists_put hopen hstores
        rw [hput, htold]
        cases answer with
        | error f => exact .inr ⟨.error f, rfl, rfl⟩
        | ok version => exact .inr ⟨.ok version, rfl, rfl⟩

end Client

namespace Upload

open Life (begun)

/-- **An upload is stored at most once, as a whole or not at all.** Take an upload from its
beginning on, to any store, others doing to the store what they like. As long as no event has ended
it the store is not called and nobody is told of a version. If the first event that ends it closes
it, the store is called once in the whole life of the upload, to take what was written by then, and
whoever began it is told once, of the version that the store answered, if it answered one; if that
event is any other one, neither ever happens. So whenever a client goes on with an upload, its
manifest changes only if the store took the upload, and then tracks that version. -/
theorem calls_of_life [Store σ] :
    (∀ (bucket key : String) (w : World (Watched σ)) (turns : List (Turn σ)),
      (∀ turn ∈ turns, turn.event.ends = false) →
        ((begun bucket key w).lived turns).calls = w.store.calls ∧
          ((begun bucket key w).lived turns).told = []) ∧
    (∀ (bucket key : String) (w : World (Watched σ)) (earlier : List (Turn σ)) (turn : Turn σ)
      (later : List (Turn σ)),
      (∀ turn ∈ earlier, turn.event.ends = false) → turn.event.ends = true →
        let last := (begun bucket key w).lived (earlier ++ turn :: later)
        if turn.event.stores then
          ∃ data answer,
            Act.answerOf (contents ((begun bucket key w).lived earlier).now) = .ok data ∧
            (∀ pieces : List Bytes, earlier.map Turn.event = pieces.map Event.write →
              data = pieces.flatten) ∧
            last.calls = .put bucket key data none answer :: w.store.calls ∧
            last.told = answer.toOption.toList
        else last.calls = w.store.calls ∧ last.told = []) ∧
    (∀ (c : Client (Watched σ)) (number : Nat) (u : Upload), c.uploads[number]? = some u →
      ∀ event, c.GoesOn u (Act.stateOf (Client.onUpload number id (perform event) c))) := by
  refine ⟨fun bucket key w turns hturns => ?_, ?_, fun c number u hu event =>
    c.goesOn_onUpload hu event⟩
  · have h := (Life.Pending.begun bucket key w).lived hturns
    exact ⟨h.calls, h.told⟩
  · intro bucket key w earlier turn later hearlier hends
    have h := (Life.Pending.begun bucket key w).lived hearlier
    rw [Life.lived_append]
    split
    · next hs =>
      obtain ⟨answer, hended, hcalls, htold⟩ := h.after_of_stores hs
      obtain ⟨hcalls', htold'⟩ := Life.lived_of_ended hended later
      refine ⟨_, answer, h.contents_apply, fun pieces hpieces => ?_, hcalls'.trans hcalls,
        htold'.trans htold⟩
      exact (Life.Pending.begun bucket key w).data_lived rfl hpieces
    · next hs =>
      obtain ⟨hended, hcalls, htold⟩ := h.after_of_not_stores hends (by simpa using hs)
      obtain ⟨hcalls', htold'⟩ := Life.lived_of_ended hended later
      exact ⟨hcalls'.trans hcalls, htold'.trans htold⟩

/-- Two pieces are written, and someone else writes the blob in between. -/
def twoPieces : List (Turn Memory) :=
  [⟨id, .write [1]⟩, ⟨fun w => Act.stateOf (Store.put "b" "k" [9] none w), .write [2]⟩]

/-- An upload that is aborted and closed again after it was closed is stored once. -/
theorem calls_of_life_of_twoPieces :
    let w : World (Watched Memory) := ⟨⟨Memory.empty true 0, []⟩, []⟩
    let last := (begun "b" "k" w).lived (twoPieces ++ ⟨id, .close⟩ :: [⟨id, .abort⟩, ⟨id, .close⟩])
    ∃ answer, last.calls = [.put "b" "k" [1, 2] none answer] ∧
      last.told = answer.toOption.toList := by
  intro w last
  obtain ⟨data, answer, -, hdata, hcalls, htold⟩ := calls_of_life.2.1 "b" "k" w twoPieces
    ⟨id, .close⟩ [⟨id, .abort⟩, ⟨id, .close⟩] (by decide) rfl
  rw [hdata [[1], [2]] rfl] at hcalls
  exact ⟨answer, hcalls, htold⟩

end Upload

end BlobRemote

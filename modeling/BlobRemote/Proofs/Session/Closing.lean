import Mathlib
import BlobRemote.Http.Scripted
import BlobRemote.Proofs.Console.Program
import BlobRemote.Proofs.Manifest
import BlobRemote.Proofs.Property.RoundTrip
import BlobRemote.Proofs.Session.Command
import BlobRemote.Proofs.Session.Uploading

/-!
# Closing a session

A client may close its session at any time and as often as it likes, and go on afterwards. What it
does is a sequence of actions (`BlobRemote.Client.Action`), on a store of any kind that is watched.

Whatever an action does, it tells the manifest of one key at the most and leaves the repository as
it is (`BlobRemote.Session.Edited`). So the manifest is dirty at a point of a run exactly if some
action before it changed an entry (`BlobRemote.Client.dirty_acted_iff`), and closing the session
writes it back in that case, the first time, and makes no call of the store in any other case
(`BlobRemote.Client.calls_of_close`). A session that only reads never calls the store to change it.
-/

namespace BlobRemote

/-! ### What is told to the manifest -/

/-- **A session goes on** with the repository: it is closed if it was, and its manifest is told of
one key at the most. -/
structure Session.Edited {σ : Type} (s s' : Session σ) : Prop where
  /-- The repository is the same. -/
  remote : s'.remote = s.remote
  /-- It is closed if it was. -/
  closed : s'.closed = s.closed
  /-- What becomes of the manifest. -/
  edit : Manifest.Edit s.manifest s'.manifest

namespace Session.Edited

variable {σ : Type}

theorem refl (s : Session σ) : Edited s s := ⟨rfl, rfl, .idle _⟩

variable [Store σ] (d : Database) (path : String) (s : Session σ)

theorem write (data : Bytes) : Edited s (Act.stateOf (d.write path data s)) := by
  rw [Database.write_apply]
  cases Key.resolve d.objectsKey path with
  | error climb => exact refl s
  | ok key =>
    dsimp only
    cases Store.put s.remote.bucket key data none s.toWorld with
    | error f w => exact ⟨rfl, rfl, .idle _⟩
    | ok version w => exact ⟨rfl, rfl, .track s.manifest key version⟩

theorem delete : Edited s (Act.stateOf (d.delete path s)) := by
  rw [Database.delete_apply]
  cases Key.resolve d.objectsKey path with
  | error climb => exact refl s
  | ok key =>
    dsimp only
    cases Store.delete s.remote.bucket key s.toWorld with
    | error f w => exact ⟨rfl, rfl, .idle _⟩
    | ok _ w => exact ⟨rfl, rfl, .untrack s.manifest key⟩

end Session.Edited

namespace Client

variable {σ α β : Type}

section Edited

open Session (Edited)

theorem edited_onSession_bind {c : Client σ} {x : Act (Session σ) α} (g : α → β)
    (h : Edited c.session (Act.stateOf (x c.session))) :
    Edited c.session (Act.stateOf ((onSession x >>= fun a => pure (g a)) c)).session := by
  rw [Act.stateOf_bind_pure, stateOf_onSession]
  exact h

/-- **An operation on an upload** tells the manifest of the key of the upload, if of any. -/
theorem edited_onUpload (number : Nat) (completion : α → Completion) (x : Act (Uploading σ) α)
    (c : Client σ) :
    Edited c.session (Act.stateOf (onUpload number completion x c)).session := by
  rw [onUpload]
  cases c.uploads[number]? with
  | none => exact .refl _
  | some u =>
    dsimp only
    rw [Writing.onUpload]
    cases x ⟨c.session.toWorld, u⟩ with
    | error f w => exact ⟨rfl, rfl, .idle _⟩
    | ok a w =>
      refine ⟨rfl, rfl, ?_⟩
      change Manifest.Edit c.session.manifest (Writing.told c.session.manifest u.key (completion a))
      cases completion a with
      | nothing => exact .idle _
      | stored version => exact .track _ u.key version

/-- What only reads tells the manifest of nothing. -/
theorem edited_of_leaves {γ : Type} {part : World σ → γ} {x : Act (Client σ) α}
    (hx : Act.Leaves (around part) x) (c : Client σ) :
    Edited c.session (Act.stateOf (x c)).session := by
  have h := hx c
  simp only [around, Session.around, Prod.mk.injEq] at h
  obtain ⟨⟨-, hmanifest, hremote, hclosed⟩, -⟩ := h
  refine ⟨hremote, hclosed, ?_⟩
  rw [hmanifest]
  exact .idle _

variable [Store σ]

/-- **A command** tells the manifest of one key at the most, whatever fails in it. -/
theorem edited_obey (command : Command) (c : Client σ) :
    Edited c.session (Act.stateOf (obey command c)).session := by
  by_cases hr : command.reads = true
  · exact edited_of_leaves (leaves_obey .nothing hr) c
  cases command with
  | request request =>
    rw [obey, Act.stateOf_bind_pure]
    cases request with
    | write d path data => exact edited_onSession_bind _ (.write d path _ data)
    | delete d path => exact edited_onSession_bind _ (.delete d path _)
    | begin d path =>
      rw [begin_apply]
      cases Key.resolve d.objectsKey path <;> exact .refl _
    | feed number piece =>
      rw [perform, Act.stateOf_bind_pure]
      exact edited_onUpload ..
    | close number =>
      rw [perform, Act.stateOf_bind_pure]
      exact edited_onUpload ..
    | abort number =>
      rw [perform, Act.stateOf_bind_pure]
      exact edited_onUpload ..
    | _ => exact absurd rfl hr
  | track key version => exact edited_onSession_bind _ ⟨rfl, rfl, .track _ key version⟩
  | untrack key => exact edited_onSession_bind _ ⟨rfl, rfl, .untrack _ key⟩
  | writeRef d name objectId =>
    refine edited_onSession_bind _ ?_
    rw [Database.writeRef_apply]
    cases Utf8.decodeText name with
    | error fault => exact .refl _
    | ok text => exact .write d _ _ _
  | deleteRef d name =>
    refine edited_onSession_bind _ ?_
    rw [Database.deleteRef_apply]
    cases Utf8.decodeText name with
    | error fault => exact .refl _
    | ok text => exact .delete d _ _
  | writePackedRefs d objectIds peeled =>
    refine edited_onSession_bind _ ?_
    rw [Database.writePackedRefs_apply]
    exact .write d _ _ _
  | writeInfoPacks d names => exact edited_onSession_bind _ (.write d _ _ _)
  | _ => exact absurd rfl hr

end Edited

/-! ### Runs in which the session is closed -/

/-- What a client can do. -/
inductive Action where
  /-- It follows a command. -/
  | follow (command : Command)
  /-- Something happens to the upload with a number. -/
  | upload (number : Nat) (event : Upload.Event)
  /-- It closes the session, on a date. -/
  | close (stamp : Property.Stamp)

variable [Store σ]

/-- **What a client does** in an action. -/
def act : Action → Act (Client σ) Unit
  | .follow command => obey command
  | .upload number event => do
    let _ ← onUpload number id (Upload.perform event)
  | .close stamp => onSession (Session.close stamp)

/-- **A client after some actions**, whatever has failed in them. -/
def acted (c : Client σ) (actions : List Action) : Client σ :=
  actions.foldl (fun c action => Act.stateOf (act action c)) c

theorem acted_append_singleton (c : Client σ) (actions : List Action) (action : Action) :
    c.acted (actions ++ [action]) = Act.stateOf (act action (c.acted actions)) :=
  List.foldl_append

/-- **Closing the session** succeeds, and changes nothing but the store. -/
theorem exists_act_close_eq_ok (stamp : Property.Stamp) (c : Client σ) :
    ∃ w, act (.close stamp) c =
      .ok () { c with session := { c.session with toWorld := w, closed := true } } := by
  obtain ⟨w, hw⟩ := Session.exists_close_eq_ok stamp c.session
  rw [act, onSession_apply, hw]
  exact ⟨w, rfl⟩

/-- What an action can do to a session. -/
theorem stateOf_act (action : Action) (c : Client σ) :
    let s := (Act.stateOf (act action c)).session
    s.remote = c.session.remote ∧ Manifest.Edit c.session.manifest s.manifest ∧
      (s.closed = true ↔ c.session.closed = true ∨ ∃ stamp, action = .close stamp) := by
  cases action with
  | follow command =>
    have h := edited_obey command c
    exact ⟨h.remote, h.edit, by simp [act, h.closed]⟩
  | upload number event =>
    have h : c.session.Edited (Act.stateOf (act (.upload number event) c)).session := by
      rw [act, Act.stateOf_bind_pure]
      exact edited_onUpload ..
    exact ⟨h.remote, h.edit, by simp [h.closed]⟩
  | close stamp =>
    obtain ⟨w, hw⟩ := exists_act_close_eq_ok stamp c
    rw [hw]
    exact ⟨rfl, .idle _, by simp [Act.stateOf]⟩

/-- **Some action changed an entry** of the manifest. -/
def Changed (c : Client σ) (actions : List Action) : Prop :=
  ∃ earlier action key, earlier ++ [action] <+: actions ∧
    (c.acted (earlier ++ [action])).session.manifest.version? key ≠
      (c.acted earlier).session.manifest.version? key

theorem changed_append_singleton (c : Client σ) (actions : List Action) (action : Action) :
    c.Changed (actions ++ [action]) ↔ c.Changed actions ∨
      ∃ key, (c.acted (actions ++ [action])).session.manifest.version? key ≠
        (c.acted actions).session.manifest.version? key := by
  constructor
  · rintro ⟨earlier, last, key, hpre, hne⟩
    rcases List.prefix_concat_iff.1 hpre with heq | hpre
    · obtain ⟨rfl, -⟩ := List.append_singleton_inj.1 heq
      exact .inr ⟨key, heq ▸ hne⟩
    · exact .inl ⟨earlier, last, key, hpre, hne⟩
  · rintro (⟨earlier, last, key, hpre, hne⟩ | ⟨key, hne⟩)
    · exact ⟨earlier, last, key, hpre.trans (List.prefix_append _ _), hne⟩
    · exact ⟨actions, action, key, List.prefix_rfl, hne⟩

theorem remote_acted (c : Client σ) (actions : List Action) :
    (c.acted actions).session.remote = c.session.remote := by
  induction actions using List.reverseRecOn with
  | nil => rfl
  | append_singleton actions action ih =>
    rw [acted_append_singleton]
    exact (stateOf_act action _).1.trans ih

/-- **A session is closed** once it was closed for the first time. -/
theorem closed_acted_iff {c : Client σ} (h : c.session.closed = false) (actions : List Action) :
    (c.acted actions).session.closed = true ↔ ∃ stamp, .close stamp ∈ actions := by
  induction actions using List.reverseRecOn with
  | nil => simp [acted, h]
  | append_singleton actions action ih =>
    rw [acted_append_singleton, (stateOf_act action _).2.2, ih, ← exists_or]
    exact exists_congr fun stamp => by rw [List.mem_append, List.mem_singleton, eq_comm (a := action)]

/-- **A manifest is dirty** once an action has changed an entry. -/
theorem dirty_acted_iff {c : Client σ} (h : c.session.manifest.dirty = false)
    (actions : List Action) :
    (c.acted actions).session.manifest.dirty = true ↔ c.Changed actions := by
  induction actions using List.reverseRecOn with
  | nil =>
    rw [acted, List.foldl_nil, h]
    refine ⟨fun h => (by cases h), fun ⟨earlier, action, key, hpre, _⟩ => ?_⟩
    simp at hpre
  | append_singleton actions action ih =>
    rw [changed_append_singleton, ← ih, acted_append_singleton]
    exact (stateOf_act action _).2.1.dirty_iff

/-- **A manifest that is still clean** has the entries that it had. -/
theorem manifest_acted_of_clean {c : Client σ} {actions : List Action}
    (h : (c.acted actions).session.manifest.dirty = false) :
    (c.acted actions).session.manifest = c.session.manifest := by
  induction actions using List.reverseRecOn with
  | nil => rfl
  | append_singleton actions action ih =>
    rw [acted_append_singleton] at h ⊢
    have heq := (stateOf_act action _).2.1.eq_of_clean h
    rw [heq] at h ⊢
    exact ih h

/-! ### Runs that only read -/

/-- Whether an action only reads or closes the session. -/
def Action.reads : Action → Bool
  | .follow command => command.reads
  | .upload .. => false
  | .close _ => true

section Reading

variable {γ : Type} {part : World σ → γ} (h : ReadsLeave part)
include h

/-- **A run that only reads** leaves what reads and listings leave, also when the session is closed.
-/
theorem part_acted {c : Client σ} (hclean : c.session.manifest.dirty = false)
    {actions : List Action} (hr : ∀ action ∈ actions, action.reads = true) :
    part (c.acted actions).session.toWorld = part c.session.toWorld := by
  induction actions generalizing c with
  | nil => rfl
  | cons action rest ih =>
    rw [List.forall_mem_cons] at hr
    change part ((Act.stateOf (act action c)).acted rest).session.toWorld = _
    cases action with
    | follow command =>
      have hleft := leaves_obey h hr.1 c
      simp only [around, Session.around, Prod.mk.injEq] at hleft
      exact (ih (c := Act.stateOf (obey command c)) (hleft.1.2.1 ▸ hclean) hr.2).trans hleft.1.1
    | upload number event => cases hr.1
    | close stamp =>
      -- a manifest that is clean is not written back
      have hclose : act (.close stamp) c =
          .ok () { c with session := { c.session with closed := true } } := by
        rw [act, onSession_apply, Session.close_apply_of_not_flushed stamp (.inr hclean)]
      rw [hclose]
      exact ih (c := { c with session := { c.session with closed := true } }) hclean hr.2

end Reading

/-! ### What closing writes -/

/-- **The manifest is written back** on the way from one client to another: the store is asked once
to take bytes, and these are read as the entries of the manifest. -/
def Flushes (remote : Remote) (c c' : Client (Watched σ)) : Prop :=
  ∃ data answer versions,
    c'.session.store.calls =
        .put remote.bucket remote.manifestKey data remote.flushTimeout answer ::
          c.session.store.calls ∧
      Property.read data = .ok versions ∧
      ∀ key, versions.get? key = c.session.manifest.version? key

/-- **Closing an open session** whose manifest is dirty writes it back, whether the store takes it
or not. -/
theorem flushes_close (stamp : Property.Stamp) {c : Client (Watched σ)}
    (hclosed : c.session.closed = false) (hdirty : c.session.manifest.dirty = true) :
    c.Flushes c.session.remote (Act.stateOf (act (.close stamp) c)) := by
  have hput := Watched.calls_put c.session.remote.bucket c.session.remote.manifestKey
    c.session.toWorld (Property.write stamp none c.session.manifest.versions)
    c.session.remote.flushTimeout
  refine ⟨_, _, _, Eq.trans ?_ hput, Property.read_write stamp none c.session.manifest.versions,
    Dict.get?_ofList_sorted c.session.manifest.versions⟩
  rw [act, stateOf_onSession, Session.close_apply, if_neg (by rw [hclosed]; decide),
    if_pos hdirty, Tracking.flush_apply, if_pos hdirty]
  cases Store.put c.session.remote.bucket c.session.remote.manifestKey
    (Property.write stamp none c.session.manifest.versions) c.session.remote.flushTimeout
    c.session.toWorld <;> rfl

/-- Closing a session that is closed or whose manifest is clean makes no call. -/
theorem calls_close (stamp : Property.Stamp) {c : Client (Watched σ)}
    (h : c.session.closed = true ∨ c.session.manifest.dirty = false) :
    (Act.stateOf (act (.close stamp) c)).session.store.calls = c.session.store.calls := by
  rw [act, stateOf_onSession, Session.close_apply_of_not_flushed stamp h]
  rfl

/-- **The manifest is written back once, and only if it has changed.** Take any run of a session
from its opening on, on any store, with whatever failures. To close the session at any point of it,
on whatever date, does not fail, and leaves the manifest as it is. If the session was not closed
before and some action changed an entry, then the store is asked once to take the entries; otherwise
it is not called at all. Entries that differ from those that were loaded have been changed by some
action. A run that only reads, and every command of the program, never calls the store to change it,
and so the program asks its server for nothing but to get what is there. -/
theorem calls_of_close {π : Type} [Peer π] :
    (∀ (remote : Remote) (w w' : World (Watched σ)) (s : Session (Watched σ)),
      Session.openOn remote w = .ok s w' →
      ∀ actions : List Action,
        let c := (Client.mk s []).acted actions
        (∀ stamp, ∃ c', act (.close stamp) c = .ok () c' ∧
          c'.session.manifest = c.session.manifest ∧
          ((∀ earlier, .close earlier ∉ actions) → (Client.mk s []).Changed actions →
            c.Flushes remote c') ∧
          ((∃ earlier, .close earlier ∈ actions) ∨ ¬ (Client.mk s []).Changed actions →
            c'.session.store.calls = c.session.store.calls)) ∧
        ((∃ key, c.session.manifest.version? key ≠ s.manifest.version? key) →
          (Client.mk s []).Changed actions) ∧
        ((∀ action ∈ actions, action.reads = true) →
          Watched.changes c.session.toWorld = Watched.changes w)) ∧
    (∀ (remote : Remote) (stamp : Property.Stamp) (symrefs : Bool) (command : BlobRemote.Command),
      Act.Leaves Watched.changes
        (Session.during remote stamp (command.report symrefs) :
          Act (World (Watched σ)) Report)) ∧
    (∀ (surroundings : Surroundings) (peer : π) (args : List String),
      ∀ request ∈ (Program.run surroundings (Overheard.mk peer []) args).peer.requests,
        request.method = "GET") := by
  refine ⟨fun remote w w' s hopen actions => ?_, fun remote stamp symrefs command => ?_,
    fun surroundings peer args request hrequest => ?_⟩
  · obtain ⟨rfl, hclosed, hclean, rfl⟩ := Session.of_openOn hopen
    have hopened := (Session.leaves_openOn Watched.readsLeave_changes s.remote).of_ok hopen
    have hclosedIff := closed_acted_iff (c := ⟨s, []⟩) hclosed actions
    have hdirtyIff := dirty_acted_iff (c := ⟨s, []⟩) hclean actions
    have hremote := remote_acted ⟨s, []⟩ actions
    have hmanifest := @manifest_acted_of_clean _ _ ⟨s, []⟩ actions
    refine ⟨fun stamp => ?_, fun ⟨key, hne⟩ => ?_, fun hr => ?_⟩
    · obtain ⟨v, hv⟩ := exists_act_close_eq_ok stamp ((Client.mk s []).acted actions)
      refine ⟨_, hv, rfl, fun hnotin hchanged => ?_, fun hor => ?_⟩
      · have hflushes := flushes_close stamp (c := (Client.mk s []).acted actions)
          (by rw [← Bool.not_eq_true, hclosedIff, not_exists]; exact hnotin)
          (hdirtyIff.2 hchanged)
        rw [hv, hremote] at hflushes
        exact hflushes
      · have hcalls := calls_close stamp (c := (Client.mk s []).acted actions) (by
          rw [← Bool.not_eq_true (Manifest.dirty _), hclosedIff, hdirtyIff]
          exact hor)
        rw [hv] at hcalls
        exact hcalls
    · by_contra hunchanged
      rw [← hdirtyIff, Bool.not_eq_true] at hunchanged
      exact hne (by rw [hmanifest hunchanged])
    · exact (part_acted Watched.readsLeave_changes (c := ⟨s, []⟩) hclean hr).trans hopened
  · exact Session.leaves_during stamp Watched.readsLeave_changes remote
      (Command.leaves_report Watched.readsLeave_changes symrefs command)
  · have hchanges := Program.changes_run surroundings (Overheard.mk peer []) args
    by_contra hmethod
    have hmem : request ∈ (Program.run surroundings (Overheard.mk peer []) args).peer.changes :=
      List.mem_filter.2 ⟨hrequest, by simpa using hmethod⟩
    rw [hchanges] at hmem
    cases hmem

/-- A key that is tracked is written back at the first closing, and not at the second one. -/
theorem calls_of_close_of_track :
    let remote : Remote := ⟨"b", "p", none⟩
    let track : Action := .follow (.track "k" (some "v"))
    let close : Action := .close (.ofText "Fri Jan 02 15:04:05 UTC 2026")
    ∃ s w', Session.openOn (σ := Watched Memory) remote ⟨⟨Memory.empty true 0, []⟩, []⟩ = .ok s w' ∧
      (∃ c', act close ((Client.mk s []).acted [track]) = .ok () c' ∧
        ((Client.mk s []).acted [track]).Flushes remote c') ∧
      (∃ c', act close ((Client.mk s []).acted [track, close]) = .ok () c' ∧
        c'.session.store.calls = ((Client.mk s []).acted [track, close]).session.store.calls) := by
  intro remote track close
  refine ⟨_, _, rfl, ?_, ?_⟩
  · obtain ⟨hclosing, -, -⟩ :=
      (calls_of_close (σ := Memory) (π := Script)).1 remote ⟨⟨Memory.empty true 0, []⟩, []⟩ _ _ rfl
        [track]
    obtain ⟨c', hclose, -, hflushes, -⟩ := hclosing (.ofText "Fri Jan 02 15:04:05 UTC 2026")
    refine ⟨c', hclose, hflushes ?_ ⟨[], track, "k", List.prefix_rfl, ?_⟩⟩
    · intro earlier hclosed
      have heq : Action.close earlier = .follow (.track "k" (some "v")) :=
        List.mem_singleton.1 hclosed
      cases heq
    · exact Option.some_ne_none "v"
  · obtain ⟨hclosing, -, -⟩ :=
      (calls_of_close (σ := Memory) (π := Script)).1 remote ⟨⟨Memory.empty true 0, []⟩, []⟩ _ _ rfl
        [track, close]
    obtain ⟨c', hclose, -, -, hcalls⟩ := hclosing (.ofText "Fri Jan 02 15:04:05 UTC 2026")
    exact ⟨c', hclose, hcalls (.inl ⟨_, List.mem_cons_of_mem _ List.mem_cons_self⟩)⟩

end Client

end BlobRemote

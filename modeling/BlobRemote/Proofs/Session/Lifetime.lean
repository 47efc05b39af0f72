import Mathlib
import BlobRemote.Proofs.Session.Operation
import BlobRemote.Proofs.Session.Reading

/-!
# Opening and closing a session

What a session does with the manifest at its two ends, as equations: opening reads the blob of the
manifest once and overlays what it holds, closing writes it once if an entry has changed. So a
session that reads and does nothing else in between leaves what reads and listings leave.
-/

namespace BlobRemote

variable {σ : Type} [Store σ] (stamp : Property.Stamp)

namespace Tracking

/-- **Loading the manifest** is one read. -/
theorem load_apply (bucket key : String) (t : Tracking σ) :
    load bucket key t =
      match Store.get bucket key none t.toWorld with
      | .error f w =>
        if f.reason.isNotFound then
          .ok () { t with toWorld := ⟨w.store, .manifestAbsent key :: w.log⟩ }
        else
          .error (f.behind (.manifestLoad key))
            { t with toWorld := ⟨w.store, .manifestUnread key :: w.log⟩ }
      | .ok (stream, _) w =>
        match parse stream with
        | .error f =>
          .error (if isUnreadable f then f.behind (.manifestLoad key) else f)
            { t with toWorld := w }
        | .ok versions =>
          .ok ()
            { toWorld := ⟨w.store, .manifestLoaded versions.size key :: w.log⟩
              manifest := { t.manifest with
                versions := t.manifest.versions.overlay versions } } := by
  rw [load, Act.bind_apply, Act.attempt_apply, onWorld_apply]
  cases Store.get bucket key none t.toWorld with
  | error f w =>
    dsimp only
    by_cases hf : f.reason.isNotFound
    · rw [if_pos hf, if_pos hf]
      rfl
    · rw [if_neg hf, if_neg hf]
      rfl
  | ok answer w =>
    dsimp only
    cases parse answer.1 <;> rfl

/-- **Flushing the manifest** is at most one write, whose failure goes no further than the log. -/
theorem flush_apply (bucket key : String) (timeout : Option Binary64) (t : Tracking σ) :
    flush bucket key timeout stamp t =
      if t.manifest.dirty then
        match Store.put bucket key (Property.write stamp none t.manifest.versions) timeout
            t.toWorld with
        | .error _ w =>
          .ok false { t with toWorld := ⟨w.store, .manifestUnwritten key :: w.log⟩ }
        | .ok _ w =>
          .ok true { t with
            toWorld := ⟨w.store, .manifestWritten t.manifest.versions.size key :: w.log⟩ }
      else .ok false t := by
  rw [flush, Act.bind_apply_of_ok (Act.get_apply t)]
  cases hd : t.manifest.dirty with
  | false => rfl
  | true =>
    simp only [Bool.not_true, Bool.false_eq_true, if_false, if_true]
    rw [Act.bind_apply, Act.attempt_apply, onWorld_apply]
    cases Store.put bucket key (Property.write stamp none t.manifest.versions) timeout
      t.toWorld <;> rfl

end Tracking

namespace Session

theorem open_apply (s : Session σ) :
    Session.open s =
      match Tracking.load s.remote.bucket s.remote.manifestKey s.toTracking with
      | .ok () t => .ok () { s with toTracking := t }
      | .error f t => .error f { s with toTracking := t } := by
  rw [Session.open, Act.bind_apply_of_ok (Act.get_apply s), onTracking_apply]
  cases Tracking.load s.remote.bucket s.remote.manifestKey s.toTracking <;> rfl

/-- **Closing a session** flushes the manifest the first time, and does nothing else. -/
theorem close_apply (s : Session σ) :
    close stamp s =
      if s.closed then .ok () s
      else if s.manifest.dirty then
        match Tracking.flush s.remote.bucket s.remote.manifestKey s.remote.flushTimeout stamp
            s.toTracking with
        | .ok _ t => .ok () { s with toTracking := t, closed := true }
        | .error f t => .error f { s with toTracking := t, closed := true }
      else .ok () { s with closed := true } := by
  rw [close, Act.bind_apply_of_ok (Act.get_apply s)]
  by_cases hc : s.closed
  · rw [if_pos hc, if_pos hc]
    rfl
  · rw [if_neg hc, if_neg hc]
    refine (Act.bind_apply_of_ok (Act.set_apply { s with closed := true } s)).trans ?_
    by_cases hd : s.manifest.dirty
    · rw [if_pos hd, if_pos hd, Act.bind_apply, onTracking_apply]
      cases Tracking.flush s.remote.bucket s.remote.manifestKey s.remote.flushTimeout stamp
        s.toTracking <;> rfl
    · rw [if_neg hd, if_neg hd]
      rfl

/-- **Opening a session** on a store loads the manifest, which is empty before. -/
theorem openOn_apply (remote : Remote) (w : World σ) :
    openOn remote w =
      match Tracking.load remote.bucket remote.manifestKey ⟨w, Manifest.empty⟩ with
      | .ok () t => .ok ⟨t, remote, false⟩ t.toWorld
      | .error f t => .error f t.toWorld := by
  have h : Session.open (start w remote) =
      match Tracking.load remote.bucket remote.manifestKey ⟨w, Manifest.empty⟩ with
      | .ok () t => .ok () ⟨t, remote, false⟩
      | .error f t => .error f ⟨t, remote, false⟩ := open_apply (start w remote)
  rw [openOn, h]
  cases Tracking.load remote.bucket remote.manifestKey ⟨w, Manifest.empty⟩ <;> rfl

/-- **Closing a session does not fail**, and changes nothing but its store. -/
theorem exists_close_eq_ok (s : Session σ) :
    ∃ w, close stamp s = .ok () { s with toWorld := w, closed := true } := by
  rw [close_apply]
  by_cases hc : s.closed
  · rw [if_pos hc, ← hc]
    exact ⟨s.toWorld, rfl⟩
  · rw [if_neg hc]
    by_cases hd : s.manifest.dirty
    · rw [if_pos hd, Tracking.flush_apply, if_pos hd]
      cases Store.put s.remote.bucket s.remote.manifestKey
        (Property.write stamp none s.manifest.versions) s.remote.flushTimeout s.toWorld <;>
        exact ⟨_, rfl⟩
    · rw [if_neg hd]
      exact ⟨s.toWorld, rfl⟩

/-- **An operation in a session of its own** answers what it answers once the session is open:
closing the session does not fail. -/
theorem answerOf_during (remote : Remote) {α : Type} (x : Act (Session σ) α) (w : World σ) :
    Act.answerOf (during remote stamp x w) =
      match openOn remote w with
      | .ok s _ => Act.answerOf (x s)
      | .error f _ => .error f := by
  rw [during, openOn, Act.focus_apply, Act.bind_apply]
  cases Session.open (start w remote) with
  | error f s => rfl
  | ok _ s =>
    dsimp only
    rw [Act.bind_apply, Act.attempt_apply]
    cases x s with
    | ok a s' =>
      obtain ⟨w', hclose⟩ := exists_close_eq_ok stamp s'
      dsimp only
      rw [Act.bind_apply_of_ok hclose]
      rfl
    | error f s' =>
      obtain ⟨w', hclose⟩ := exists_close_eq_ok stamp s'
      dsimp only
      rw [Act.bind_apply_of_ok hclose]
      rfl

/-- **Closing a session again**, or one whose manifest is clean, leaves the store as it is. -/
theorem close_apply_of_not_flushed {s : Session σ}
    (h : s.closed = true ∨ s.manifest.dirty = false) :
    close stamp s = .ok () { s with closed := true } := by
  rw [close_apply]
  by_cases hc : s.closed
  · rw [if_pos hc, ← hc]
  · rw [if_neg hc, if_neg (by rw [h.resolve_left hc]; decide)]

end Session

/-! ### Sessions that only read -/

section Reading

variable {γ : Type} {part : World σ → γ} (h : ReadsLeave part)
include h

theorem Tracking.leaves_load (bucket key : String) :
    Act.Leaves (fun t : Tracking σ => (part t.toWorld, t.manifest.dirty)) (load bucket key) := by
  intro t
  rw [load_apply]
  cases hget : Store.get bucket key none t.toWorld with
  | error f w =>
    have hw : part w = part t.toWorld := (h.get bucket key none).of_error hget
    have hnote (e : Event) : part ⟨w.store, e :: w.log⟩ = part t.toWorld := (h.note e w).trans hw
    dsimp only
    split
    · exact congrArg (·, t.manifest.dirty) (hnote _)
    · exact congrArg (·, t.manifest.dirty) (hnote _)
  | ok answer w =>
    have hw : part w = part t.toWorld := (h.get bucket key none).of_ok hget
    have hnote (e : Event) : part ⟨w.store, e :: w.log⟩ = part t.toWorld := (h.note e w).trans hw
    dsimp only
    cases parse answer.1 with
    | error f => exact congrArg (·, t.manifest.dirty) hw
    | ok versions => exact congrArg (·, t.manifest.dirty) (hnote _)

namespace Session

theorem leaves_open :
    Act.Leaves (fun s : Session σ => (part s.toWorld, s.manifest.dirty)) Session.open :=
  Act.Leaves.get.bind fun _ => (Tracking.leaves_load h _ _).focus fun _ _ ht => ht

theorem leaves_openOn (remote : Remote) : Act.Leaves part (openOn (σ := σ) remote) := by
  intro w
  have hopen := leaves_open h (start w remote)
  rw [openOn]
  cases hr : Session.open (start w remote) <;> (rw [hr] at hopen; exact congrArg Prod.fst hopen)

omit h in
/-- **A session that has been opened** is open, and its manifest is clean. -/
theorem of_openOn {remote : Remote} {w w' : World σ} {s : Session σ}
    (hopen : openOn remote w = .ok s w') :
    s.remote = remote ∧ s.closed = false ∧ s.manifest.dirty = false ∧ s.toWorld = w' := by
  have hload := Tracking.leaves_load .nothing remote.bucket remote.manifestKey ⟨w, Manifest.empty⟩
  rw [openOn_apply] at hopen
  cases hr : Tracking.load remote.bucket remote.manifestKey ⟨w, Manifest.empty⟩ with
  | error f t =>
    rw [hr] at hopen
    cases hopen
  | ok _ t =>
    rw [hr] at hopen hload
    cases hopen
    exact ⟨rfl, rfl, congrArg Prod.snd hload, rfl⟩

/-- **A session of its own for an operation that only reads** writes nothing back. -/
theorem leaves_during (remote : Remote) {α : Type} {x : Act (Session σ) α}
    (hx : Act.Leaves (around part) x) : Act.Leaves part (during remote stamp x) := by
  intro w
  have hopen := leaves_open h (start w remote)
  rw [during, Act.focus_apply, Act.bind_apply]
  cases hr : Session.open (start w remote) with
  | error f s =>
    rw [hr] at hopen
    exact congrArg Prod.fst hopen
  | ok _ s =>
    rw [hr] at hopen
    obtain ⟨hpart, hclean⟩ := Prod.mk.inj hopen
    have hleft := hx s
    simp only [around, Prod.mk.injEq] at hleft
    obtain ⟨answer, hanswer⟩ := Act.exists_attempt_eq_ok x s
    -- the manifest is clean when the session is closed, whatever became of the operation
    have hclose := close_apply_of_not_flushed stamp (s := Act.stateOf (x s))
      (.inr (hleft.2.1 ▸ hclean))
    dsimp only
    rw [Act.bind_apply_of_ok hanswer, Act.bind_apply_of_ok hclose]
    cases answer <;> exact hleft.1.trans hpart

end Session

end Reading

end BlobRemote

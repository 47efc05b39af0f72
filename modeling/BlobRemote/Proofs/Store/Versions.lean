import Mathlib
import BlobRemote.Proofs.Store.Memory
import BlobRemote.Proofs.Store.Watched

/-!
# Versions of a store in memory

A store in memory counts its writes, whatever their keys are, and goes on counting when blobs are
deleted. What a run of calls amounts to is stated over the calls alone: under a key *stand* the
revisions that were stored there since it was last deleted (`BlobRemote.Demand.standing`). A read
that names a version looks for it among them, and one that names none takes the revision that lies
`lag` places before the last one, or the first one if there are fewer
(`BlobRemote.Demand.IsFaithful`). That a store in memory answers so is the invariant of a run
(`BlobRemote.Watched.Keeps`), and its histories are what stands under their keys. The rest is about
lists: versions are numbers of writes and thus unique, and what stands under a key only grows until
the key is deleted, so that reads do not go back (`BlobRemote.Watched.hasStableVersions_run`).
-/

namespace BlobRemote

namespace Demand

/-! ### What stands under a key -/

/-- The key under which a call stored a blob, and the revision that the blob has become. -/
def stored? : Demand → Option ((String × String) × Revision)
  | .put bucket key data _ (.ok (some version)) => some ((bucket, key), ⟨version, data⟩)
  | _ => none

/-- Whether a call was to delete the blob under a key. -/
def deletes (bucket key : String) : Demand → Bool
  | .delete b k _ => (b, k) = (bucket, key)
  | _ => false

/-- All that was stored, the latest first. -/
def allStored (calls : List Demand) : List ((String × String) × Revision) := calls.filterMap stored?

theorem allStored_cons_put (bucket key : String) (data : Bytes) (timeout : Option Binary64)
    (version : String) (calls : List Demand) :
    allStored (.put bucket key data timeout (.ok (some version)) :: calls) =
      ((bucket, key), ⟨version, data⟩) :: allStored calls := rfl

/-- **The revisions that stand under a key**, the oldest first: those that were stored there since
the key was last deleted. -/
def standing (bucket key : String) (calls : List Demand) : List Revision :=
  (((allStored (calls.takeWhile fun d => !d.deletes bucket key)).filter
    fun p => p.1 = (bucket, key)).map Prod.snd).reverse

variable {bucket key : String} {d : Demand} {calls later earlier : List Demand} {r : Revision}

theorem standing_cons_of_deletes (h : d.deletes bucket key = true) :
    standing bucket key (d :: calls) = [] := by
  rw [standing, List.takeWhile_cons_of_neg (by rw [h]; decide)]
  rfl

theorem standing_cons_of_stored (h : d.stored? = some ((bucket, key), r)) :
    standing bucket key (d :: calls) = standing bucket key calls ++ [r] := by
  have hd : d.deletes bucket key = false := by
    cases d with
    | delete => cases h
    | _ => rfl
  rw [standing, List.takeWhile_cons_of_pos (by rw [hd]; rfl), allStored, List.filterMap_cons_some h,
    List.filter_cons_of_pos (by simp), List.map_cons, List.reverse_cons]
  rfl

/-- A call that stores nothing under a key and does not delete it leaves what stands there. -/
theorem standing_cons_of_ne (hd : d.deletes bucket key = false)
    (h : ∀ p, d.stored? = some p → p.1 ≠ (bucket, key)) :
    standing bucket key (d :: calls) = standing bucket key calls := by
  rw [standing, List.takeWhile_cons_of_pos (by rw [hd]; rfl), allStored]
  cases hs : d.stored? with
  | none =>
    rw [List.filterMap_cons_none hs]
    rfl
  | some p =>
    rw [List.filterMap_cons_some hs, List.filter_cons_of_neg (by simpa using h p hs)]
    rfl

/-- **What stands under a key only grows** until the key is deleted. -/
theorem standing_append (h : ∀ d ∈ later, d.deletes bucket key = false) (earlier : List Demand) :
    standing bucket key (later ++ earlier) =
      standing bucket key earlier ++ standing bucket key later := by
  have hall : ∀ d ∈ later, (!d.deletes bucket key) = true := fun d hd => by rw [h d hd]; rfl
  rw [standing, standing, standing, List.takeWhile_append_of_pos hall,
    List.takeWhile_eq_self_iff.2 hall, allStored, allStored, allStored, List.filterMap_append,
    List.filter_append, List.map_append, List.reverse_append]

/-- **Whether a version was stored under a key** and the key has not been deleted since. -/
def IsStored (bucket key version : String) (data : Bytes) (calls : List Demand) : Prop :=
  ∃ later timeout earlier,
    calls = later ++ .put bucket key data timeout (.ok (some version)) :: earlier ∧
      ∀ d ∈ later, d.deletes bucket key = false

/-- **A revision stands under a key** exactly if it was stored there and the key has not been deleted
since. -/
theorem mem_standing_iff :
    r ∈ standing bucket key calls ↔ IsStored bucket key r.version r.data calls := by
  constructor
  · intro h
    rw [standing, List.mem_reverse, List.mem_map] at h
    obtain ⟨p, hp, rfl⟩ := h
    obtain ⟨hp, hkey⟩ := List.mem_filter.1 hp
    obtain ⟨d, hd, hs⟩ := List.mem_filterMap.1 hp
    obtain ⟨pre, post, hsplit⟩ := List.append_of_mem hd
    -- what comes before the call in the list comes after it in time, and deletes nothing
    have hpre : ∀ d' ∈ pre, d'.deletes bucket key = false := by
      intro d' hd'
      have hmem : d' ∈ calls.takeWhile fun d => !d.deletes bucket key := by
        rw [hsplit]
        exact List.mem_append_left _ hd'
      simpa using List.mem_takeWhile_imp hmem
    have hcalls := List.takeWhile_append_dropWhile (p := fun d => !d.deletes bucket key) (l := calls)
    rw [hsplit, List.append_assoc, List.cons_append] at hcalls
    rw [decide_eq_true_eq] at hkey
    cases d with
    | put b k data timeout answer =>
      cases answer with
      | error f => cases hs
      | ok version =>
        cases version with
        | none => cases hs
        | some v =>
          cases hs
          cases hkey
          exact ⟨pre, timeout, _, hcalls.symm, hpre⟩
    | get => cases hs
    | delete => cases hs
    | list => cases hs
  · rintro ⟨later, timeout, earlier, rfl, hlater⟩
    rw [standing_append hlater, standing_cons_of_stored (r := r) rfl]
    exact List.mem_append_left _ (List.mem_append_right _ List.mem_cons_self)

theorem mem_allStored_of_mem_standing (h : r ∈ standing bucket key calls) :
    ((bucket, key), r) ∈ allStored calls := by
  obtain ⟨later, timeout, earlier, rfl, -⟩ := mem_standing_iff.1 h
  exact List.mem_filterMap.2 ⟨_, List.mem_append_right _ List.mem_cons_self, rfl⟩

/-! ### Calls that are answered faithfully -/

/-- What a read answers that finds a revision or none. -/
def found (bucket key : String) : Option Revision → Except Failure (Stream × Option String)
  | some r => .ok (.buffered r.data, some r.version)
  | none => .error (Reason.notFound bucket key).alone

/-- **Whether a call is answered faithfully** after some earlier calls, by a store whose reads may
lag behind. -/
def IsFaithful (lag : Nat) (earlier : List Demand) : Demand → Prop
  | .get bucket key none answer =>
    let revisions := standing bucket key earlier
    answer = found bucket key revisions[revisions.length - 1 - lag]?
  | .get bucket key (some v) answer =>
    answer = found bucket key ((standing bucket key earlier).find? fun r => r.version == v)
  | .put _ _ _ _ answer =>
    answer = .ok (some (Memory.versionName ((allStored earlier).length + 1)))
  | .delete _ _ answer => answer = .ok ()
  | .list .. => True

/-- **Calls that are answered faithfully**, one after another. -/
inductive Faithful (lag : Nat) : List Demand → Prop where
  /-- Nothing was called yet. -/
  | nil : Faithful lag []
  /-- A call was answered. -/
  | cons {d : Demand} {earlier : List Demand} (h : Faithful lag earlier)
    (hd : d.IsFaithful lag earlier) : Faithful lag (d :: earlier)

namespace Faithful

variable {lag : Nat}

theorem of_append (h : Faithful lag (later ++ d :: earlier)) :
    d.IsFaithful lag earlier ∧ Faithful lag earlier := by
  induction later with
  | nil =>
    cases h with
    | cons h hd => exact ⟨hd, h⟩
  | cons d' later ih =>
    cases h with
    | cons h _ => exact ih h

/-- **Versions count the writes.** -/
theorem versions_allStored (h : Faithful lag calls) :
    (allStored calls).map (fun p => p.2.version) =
      ((List.range (allStored calls).length).map fun n => Memory.versionName (n + 1)).reverse := by
  induction h with
  | nil => rfl
  | @cons d earlier h hd ih =>
    cases d with
    | put bucket key data timeout answer =>
      obtain rfl : answer = _ := hd
      rw [allStored_cons_put, List.map_cons, ih, List.length_cons, List.range_succ, List.map_append,
        List.reverse_append]
      rfl
    | get => exact ih
    | delete => exact ih
    | list => exact ih

/-- **No version is told twice.** -/
theorem nodup_versions (h : Faithful lag calls) :
    ((allStored calls).map fun p => p.2.version).Nodup := by
  rw [h.versions_allStored, List.nodup_reverse]
  refine List.nodup_range.map fun m n hmn => ?_
  exact Nat.succ_injective (Memory.versionName_injective hmn)

/-- **A version tells the write**, its key included. -/
theorem eq_of_version_eq (h : Faithful lag calls) {bucket' key' : String} {r' : Revision}
    (hr : r ∈ standing bucket key calls) (hr' : r' ∈ standing bucket' key' calls)
    (hv : r.version = r'.version) : ((bucket, key), r) = ((bucket', key'), r') :=
  List.inj_on_of_nodup_map h.nodup_versions (mem_allStored_of_mem_standing hr)
    (mem_allStored_of_mem_standing hr') hv

theorem nodup_standing (h : Faithful lag calls) (bucket key : String) :
    ((standing bucket key calls).map Revision.version).Nodup := by
  rw [standing, List.map_reverse, List.nodup_reverse, List.map_map]
  have hsub : ((allStored (calls.takeWhile fun d => !d.deletes bucket key)).filter
      fun p => p.1 = (bucket, key)).Sublist (allStored calls) :=
    List.filter_sublist.trans ((List.takeWhile_sublist _).filterMap _)
  exact h.nodup_versions.sublist (hsub.map _)

/-! ### Reads -/

/-- **A read that names a version** finds what was stored in it, as long as that stands. -/
theorem pinned {version : String} {answer : Except Failure (Stream × Option String)}
    (h : Faithful lag (later ++ .get bucket key (some version) answer :: earlier)) :
    (∀ data, IsStored bucket key version data earlier →
        answer = .ok (.buffered data, some version)) ∧
      ((∀ data, ¬ IsStored bucket key version data earlier) →
        answer = .error (Reason.notFound bucket key).alone) := by
  obtain ⟨hanswer, hearlier⟩ := h.of_append
  obtain rfl : answer = found bucket key _ := hanswer
  constructor
  · intro data hstored
    have hmem : ⟨version, data⟩ ∈ standing bucket key earlier := mem_standing_iff.2 hstored
    cases hfind : (standing bucket key earlier).find? (fun r => r.version == version) with
    | none => exact absurd (beq_self_eq_true version) (List.find?_eq_none.1 hfind _ hmem)
    | some r =>
      have hv : r.version = version := by simpa using List.find?_some hfind
      have heq := hearlier.eq_of_version_eq (List.mem_of_find?_eq_some hfind) hmem hv
      obtain rfl : r = ⟨version, data⟩ := (Prod.mk.inj heq).2
      rfl
  · intro hnone
    have hfind : (standing bucket key earlier).find? (fun r => r.version == version) = none := by
      refine List.find?_eq_none.2 fun r hr hv => hnone r.data ?_
      rw [← beq_iff_eq.1 hv]
      exact mem_standing_iff.1 hr
    rw [hfind]
    rfl

/-- The place that a read without a version looks at is there, and no further from the end than the
lag. -/
theorem exists_lagging {revisions : List Revision} (h : revisions ≠ []) (lag : Nat) :
    ∃ r, revisions[revisions.length - 1 - lag]? = some r ∧
      revisions.length ≤ revisions.length - 1 - lag + 1 + lag := by
  have hlength := List.length_pos_iff.2 h
  exact ⟨_, List.getElem?_eq_getElem (by omega), by omega⟩

/-- **A read without a version** trails the last revision by no more than the lag. -/
theorem fresh {answer : Except Failure (Stream × Option String)}
    (h : Faithful lag (later ++ .get bucket key none answer :: earlier)) :
    standing bucket key earlier = [] ∧ answer = .error (Reason.notFound bucket key).alone ∨
      ∃ i r, (standing bucket key earlier)[i]? = some r ∧
        answer = .ok (.buffered r.data, some r.version) ∧
        (standing bucket key earlier).length ≤ i + 1 + lag := by
  have hanswer : answer = found bucket key _ := h.of_append.1
  by_cases hnil : standing bucket key earlier = []
  · rw [hnil] at hanswer
    exact .inl ⟨hnil, hanswer⟩
  · obtain ⟨r, hr, hlag⟩ := exists_lagging hnil lag
    rw [hr] at hanswer
    exact .inr ⟨_, r, hr, hanswer, hlag⟩

/-- **Reads without a version do not go back**, because what stands under a key only grows until the
key is deleted. -/
theorem monotone {between : List Demand} {first second : Except Failure (Stream × Option String)}
    (h : Faithful lag
      (later ++ .get bucket key none second :: (between ++ .get bucket key none first :: earlier)))
    (hbetween : ∀ d ∈ between, d.deletes bucket key = false) {data : Bytes} {version : String}
    (hfirst : first = .ok (.buffered data, some version)) :
    let revisions := standing bucket key (between ++ .get bucket key none first :: earlier)
    ∃ i j r, revisions[i]? = some ⟨version, data⟩ ∧ revisions[j]? = some r ∧ i ≤ j ∧
      second = .ok (.buffered r.data, some r.version) ∧ revisions.length ≤ j + 1 + lag := by
  obtain ⟨hsecond, hmiddle⟩ := h.of_append
  have hread : first = found bucket key _ := hmiddle.of_append.1
  have hgrown : standing bucket key (between ++ .get bucket key none first :: earlier) =
      standing bucket key earlier ++ standing bucket key between := by
    rw [standing_append hbetween, standing_cons_of_ne rfl (by rintro p hp; cases hp)]
  -- the place that the first read looked at is still there, and holds the same revision
  have hold : (standing bucket key earlier)[(standing bucket key earlier).length - 1 - lag]? =
      some ⟨version, data⟩ := by
    rw [hfirst] at hread
    cases hat : (standing bucket key earlier)[(standing bucket key earlier).length - 1 - lag]? with
    | none =>
      rw [hat] at hread
      cases hread
    | some r =>
      rw [hat] at hread
      cases hread
      rfl
  obtain ⟨hlt, hget⟩ := List.getElem?_eq_some_iff.1 hold
  have hi : (standing bucket key (between ++ .get bucket key none first :: earlier))[
      (standing bucket key earlier).length - 1 - lag]? = some ⟨version, data⟩ := by
    rw [hgrown, List.getElem?_append_left hlt, hold]
  have hlength : (standing bucket key earlier).length ≤
      (standing bucket key (between ++ .get bucket key none first :: earlier)).length := by
    rw [hgrown, List.length_append]
    omega
  have hne : standing bucket key (between ++ .get bucket key none first :: earlier) ≠ [] := by
    intro hnil
    rw [hnil] at hi
    cases hi
  obtain ⟨r, hr, hlag⟩ := exists_lagging hne lag
  have hanswer : second = found bucket key _ := hsecond
  rw [hr] at hanswer
  exact ⟨_, _, r, hi, hr, by omega, hanswer, hlag⟩

end Faithful

end Demand

/-! ### Runs -/

/-- A call to make of a store. -/
inductive Query where
  /-- Opening a blob, in a version if one is given. -/
  | get (bucket key : String) (version : Option String)
  /-- Storing a blob. -/
  | put (bucket key : String) (data : Bytes) (timeout : Option Binary64)
  /-- Deleting a blob. -/
  | delete (bucket key : String)
  /-- Listing the keys below a directory. -/
  | list (bucket directory : String)

/-- A store after a call. -/
def Query.after {σ : Type} [Store σ] (w : World σ) : Query → World σ
  | .get bucket key version => Act.stateOf (Store.get bucket key version w)
  | .put bucket key data timeout => Act.stateOf (Store.put bucket key data timeout w)
  | .delete bucket key => Act.stateOf (Store.delete bucket key w)
  | .list bucket directory => Act.stateOf (Store.list bucket directory w)

namespace Watched

variable {lag : Nat} {w : World (Watched Memory)}

/-- **A store in memory keeps what its calls amount to**: its histories are what stands under their
keys, and its calls were answered faithfully. -/
structure Keeps (lag : Nat) (w : World (Watched Memory)) : Prop where
  /-- The store tells versions. -/
  versioned : w.store.inner.versioned = true
  /-- Its reads may lag behind that far. -/
  lag_eq : w.store.inner.lag = lag
  /-- It has counted its writes. -/
  writes : w.store.inner.writes = (Demand.allStored w.store.calls).length
  /-- A history is what stands under its key. -/
  history : ∀ bucket key,
    w.store.inner.history bucket key = Demand.standing bucket key w.store.calls
  /-- No history is empty. -/
  ne_nil : ∀ key, w.store.inner.blobs.get? key ≠ some []
  /-- The calls were answered faithfully. -/
  faithful : Demand.Faithful lag w.store.calls

namespace Keeps

/-- A store without blobs of which nothing was asked. -/
theorem start (lag : Nat) (log : List Event) :
    Keeps lag ⟨⟨Memory.empty true lag, []⟩, log⟩ :=
  ⟨rfl, rfl, rfl, fun _ _ => rfl, (fun _ h => by cases h), .nil⟩

/-- A call that is answered faithfully, and neither stores nor deletes. -/
theorem of_idle (h : Keeps lag w) {d : Demand} (hs : d.stored? = none)
    (hd : ∀ bucket key, d.deletes bucket key = false) (hf : d.IsFaithful lag w.store.calls)
    (log : List Event) : Keeps lag ⟨⟨w.store.inner, d :: w.store.calls⟩, log⟩ where
  versioned := h.versioned
  lag_eq := h.lag_eq
  writes := by
    rw [Demand.allStored, List.filterMap_cons_none hs]
    exact h.writes
  history bucket key := by
    rw [Demand.standing_cons_of_ne (hd bucket key) (by simp [hs])]
    exact h.history bucket key
  ne_nil := h.ne_nil
  faithful := h.faithful.cons hf

theorem get (h : Keeps lag w) (bucket key : String) (version : Option String) :
    Keeps lag (Query.after w (.get bucket key version)) := by
  have hafter : Query.after w (.get bucket key version) =
      ⟨⟨w.store.inner, .get bucket key version
        (Demand.found bucket key (w.store.inner.find? bucket key version)) :: w.store.calls⟩,
        w.log⟩ := by
    change Act.stateOf (noting _ _ w) = _
    rw [noting, Memory.get_apply]
    cases w.store.inner.find? bucket key version with
    | none => rfl
    | some r =>
      dsimp only
      rw [Memory.told_of_versioned h.versioned]
      rfl
  rw [hafter]
  refine h.of_idle rfl (fun _ _ => rfl) ?_ _
  cases version with
  | none =>
    change Demand.found bucket key (w.store.inner.visible? bucket key) = _
    rw [Memory.visible?, h.lag_eq, h.history]
  | some v =>
    change _ = Demand.found bucket key _
    rw [Memory.find?, if_pos h.versioned, h.history]

theorem put (h : Keeps lag w) (bucket key : String) (data : Bytes) (timeout : Option Binary64) :
    Keeps lag (Query.after w (.put bucket key data timeout)) := by
  have hafter : Query.after w (.put bucket key data timeout) =
      ⟨⟨w.store.inner.put bucket key data,
        .put bucket key data timeout
          (.ok (some (Memory.versionName ((Demand.allStored w.store.calls).length + 1)))) ::
          w.store.calls⟩, w.log⟩ := by
    have hput : Query.after w (.put bucket key data timeout) =
      Act.stateOf (noting (.put bucket key data timeout) (Store.put bucket key data timeout) w) := rfl
    rw [hput, noting, Memory.put_apply, ← h.writes, Memory.told_of_versioned h.versioned]
    rfl
  have hrevision : w.store.inner.nextRevision data =
      ⟨Memory.versionName ((Demand.allStored w.store.calls).length + 1), data⟩ := by
    rw [Memory.nextRevision, h.writes]
  rw [hafter]
  refine ⟨h.versioned, h.lag_eq, ?_, fun b k => ?_, fun k => ?_, h.faithful.cons rfl⟩
  · rw [Memory.writes_put, h.writes, Demand.allStored_cons_put, List.length_cons]
  · rw [Memory.history_put, hrevision]
    by_cases hk : (bucket, key) = (b, k)
    · cases hk
      rw [if_pos rfl, h.history, Demand.standing_cons_of_stored rfl]
    · rw [if_neg hk, h.history, Demand.standing_cons_of_ne rfl]
      rintro p hp
      cases hp
      exact hk
  · exact Memory.blobs_put_ne_nil h.ne_nil bucket key data k

theorem delete (h : Keeps lag w) (bucket key : String) :
    Keeps lag (Query.after w (.delete bucket key)) := by
  change Keeps lag ⟨⟨w.store.inner.delete bucket key, .delete bucket key (.ok ()) :: w.store.calls⟩,
    w.log⟩
  refine ⟨h.versioned, h.lag_eq, h.writes, fun b k => ?_, fun k => ?_, h.faithful.cons rfl⟩
  · rw [Memory.history_delete]
    by_cases hk : (bucket, key) = (b, k)
    · rw [if_pos hk, Demand.standing_cons_of_deletes (by simpa [Demand.deletes] using hk)]
    · rw [if_neg hk, h.history, Demand.standing_cons_of_ne (by simpa [Demand.deletes] using hk)]
      rintro p hp
      cases hp
  · exact Memory.blobs_delete_ne_nil h.ne_nil bucket key k

theorem list (h : Keeps lag w) (bucket directory : String) :
    Keeps lag (Query.after w (.list bucket directory)) :=
  h.of_idle (d := .list bucket directory (.ok (w.store.inner.list bucket directory))) rfl
    (fun _ _ => rfl) trivial w.log

/-- **Every call** keeps what the calls amount to. -/
theorem after (h : Keeps lag w) (query : Query) : Keeps lag (query.after w) := by
  cases query with
  | get bucket key version => exact h.get bucket key version
  | put bucket key data timeout => exact h.put bucket key data timeout
  | delete bucket key => exact h.delete bucket key
  | list bucket directory => exact h.list bucket directory

/-- **Every run** keeps what the calls amount to. -/
theorem run (h : Keeps lag w) (queries : List Query) : Keeps lag (queries.foldl Query.after w) := by
  induction queries generalizing w with
  | nil => exact h
  | cons query queries ih => exact ih (h.after query)

/-! ### What follows of a run -/

theorem mem_entries_iff (h : Keeps lag w) {p : (String × String) × List Revision} :
    p ∈ w.store.inner.blobs.entries ↔
      p.2 ≠ [] ∧ p.2 = Demand.standing p.1.1 p.1.2 w.store.calls := by
  obtain ⟨⟨bucket, key⟩, revisions⟩ := p
  rw [← Dict.find_eq_some_iff w.store.inner.blobs.nodup]
  change w.store.inner.blobs.get? (bucket, key) = some revisions ↔ _
  rw [← h.history, Memory.history]
  cases hg : w.store.inner.blobs.get? (bucket, key) with
  | none => simp
  | some revisions' =>
    have hne : revisions' ≠ [] := fun he => h.ne_nil (bucket, key) (he ▸ hg)
    rw [Option.getD_some, Option.some.injEq]
    exact ⟨fun he => ⟨he ▸ hne, he.symm⟩, fun he => he.2.symm⟩

/-- **No two revisions of a store have the same version**, be it under one key or under two. -/
theorem nodup_versions (h : Keeps lag w) :
    ((w.store.inner.blobs.entries.flatMap Prod.snd).map Revision.version).Nodup := by
  rw [List.map_flatMap, List.nodup_flatMap]
  constructor
  · intro p hp
    rw [(h.mem_entries_iff.1 hp).2]
    exact h.faithful.nodup_standing _ _
  · have hkeys := List.pairwise_map.1 w.store.inner.blobs.nodup
    refine hkeys.imp_of_mem fun {p q} hp hq hne v hv hv' => ?_
    obtain ⟨r, hr, rfl⟩ := List.mem_map.1 hv
    obtain ⟨r', hr', he⟩ := List.mem_map.1 hv'
    rw [(h.mem_entries_iff.1 hp).2] at hr
    rw [(h.mem_entries_iff.1 hq).2] at hr'
    exact hne (Prod.mk.inj (h.faithful.eq_of_version_eq hr hr' he.symm)).1

end Keeps

/-- **The versions of a store are unique and stable**, and reads without a version are no staler than
the lag and never go back. -/
structure HasStableVersions (lag : Nat) (w : World (Watched Memory)) : Prop where
  /-- Every write is told a version. -/
  told : ∀ bucket key data timeout answer,
    .put bucket key data timeout answer ∈ w.store.calls → ∃ version, answer = .ok (some version)
  /-- No version is told twice, whatever was deleted in between. -/
  nodup_told : ((Demand.allStored w.store.calls).map fun p => p.2.version).Nodup
  /-- No two revisions in the store have the same version. -/
  nodup_held : ((w.store.inner.blobs.entries.flatMap Prod.snd).map Revision.version).Nodup
  /-- No history is empty. -/
  ne_nil : ∀ p ∈ w.store.inner.blobs.entries, p.2 ≠ []
  /-- A history holds what was stored under its key since the key was last deleted, in the order in
  which it was stored. -/
  history : ∀ bucket key,
    w.store.inner.history bucket key = Demand.standing bucket key w.store.calls
  /-- A read that names a version finds what was stored under the key in that version, if it was and
  the key has not been deleted since, and nothing else. -/
  pinned : ∀ later bucket key version answer earlier,
    w.store.calls = later ++ .get bucket key (some version) answer :: earlier →
      (∀ data, Demand.IsStored bucket key version data earlier →
        answer = .ok (.buffered data, some version)) ∧
      ((∀ data, ¬ Demand.IsStored bucket key version data earlier) →
        answer = .error (Reason.notFound bucket key).alone)
  /-- A read that names no version finds a revision that stands under the key and trails the last one
  by no more than the lag, unless nothing stands there. -/
  fresh : ∀ later bucket key answer earlier,
    w.store.calls = later ++ .get bucket key none answer :: earlier →
      Demand.standing bucket key earlier = [] ∧
          answer = .error (Reason.notFound bucket key).alone ∨
        ∃ i r, (Demand.standing bucket key earlier)[i]? = some r ∧
          answer = .ok (.buffered r.data, some r.version) ∧
          (Demand.standing bucket key earlier).length ≤ i + 1 + lag
  /-- Of two reads that name no version, with no deletion of the key between them, the later one does
  not find a revision that was stored before that of the first. -/
  monotone : ∀ later bucket key second between first earlier,
    w.store.calls =
        later ++ .get bucket key none second :: (between ++ .get bucket key none first :: earlier) →
      (∀ d ∈ between, d.deletes bucket key = false) →
      ∀ data version, first = .ok (.buffered data, some version) →
        let revisions :=
          Demand.standing bucket key (between ++ .get bucket key none first :: earlier)
        ∃ i j r, revisions[i]? = some ⟨version, data⟩ ∧ revisions[j]? = some r ∧ i ≤ j ∧
          second = .ok (.buffered r.data, some r.version) ∧ revisions.length ≤ j + 1 + lag

/-- **A store in memory has unique and stable versions** after every run of calls, over any buckets
and keys and however far reads lag behind. -/
theorem hasStableVersions_run (lag : Nat) (log : List Event) (queries : List Query) :
    HasStableVersions lag
      (queries.foldl Query.after
        (⟨⟨Memory.empty true lag, []⟩, log⟩ : World (Watched Memory))) := by
  have h := (Keeps.start lag log).run queries
  generalize queries.foldl Query.after
    (⟨⟨Memory.empty true lag, []⟩, log⟩ : World (Watched Memory)) = w at h
  constructor
  · intro bucket key data timeout answer hput
    obtain ⟨later, earlier, hcalls⟩ := List.append_of_mem hput
    have hfaithful := h.faithful
    rw [hcalls] at hfaithful
    exact ⟨_, hfaithful.of_append.1⟩
  · exact h.faithful.nodup_versions
  · exact h.nodup_versions
  · exact fun p hp => (h.mem_entries_iff.1 hp).1
  · exact h.history
  · intro later bucket key version answer earlier hcalls
    have hfaithful := h.faithful
    rw [hcalls] at hfaithful
    exact hfaithful.pinned
  · intro later bucket key answer earlier hcalls
    have hfaithful := h.faithful
    rw [hcalls] at hfaithful
    exact hfaithful.fresh
  · intro later bucket key second between first earlier hcalls hbetween data version hfirst
    have hfaithful := h.faithful
    rw [hcalls] at hfaithful
    exact hfaithful.monotone hbetween hfirst

end Watched

end BlobRemote

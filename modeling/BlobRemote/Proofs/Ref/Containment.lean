import Mathlib
import BlobRemote.Proofs.Ref.Ending
import BlobRemote.Proofs.Store.Watched

/-!
# Where references are read

All keys of a repository lie below one key (`BlobRemote.Remote.Holds`). Reading its references
touches the file of packed references, the directory of loose ones, and the blob of each name that
is listed, and all of these lie in the repository. What a symbolic reference names may lie anywhere:
a name is also a path, which may climb with markers `../` like any other.

What is proved is how far this goes: every call is at a key of the repository, or it follows a call
that was answered with a symbolic reference, and is at the key of the reference that this one names
(`BlobRemote.Trail`). So the references are read inside of the repository exactly if no symbolic
reference that is followed leads out of it (`BlobRemote.Database.holds_calls_of_advertised_iff`).
-/

namespace BlobRemote

/-! ### Keys of a repository -/

namespace Remote

/-- **The keys of a repository**: all that lie below its own. -/
def Holds (r : Remote) (key : String) : Prop := (r.keyPrefix ++ "/").toList <+: key.toList

instance (r : Remote) : DecidablePred r.Holds := fun key =>
  inferInstanceAs (Decidable ((r.keyPrefix ++ "/").toList <+: key.toList))

/-- The directory of objects is the last segment of its key. -/
theorem toList_objectsKey (r : Remote) :
    r.objectsKey.toList = r.keyPrefix.toList ++ '/' :: "objects".toList := by
  rw [objectsKey, String.toList_append]
  rfl

variable {r : Remote}

theorem holds_below (path : List Char) :
    r.Holds (String.ofList (r.keyPrefix.toList ++ '/' :: path)) := by
  rw [Holds, String.toList_append, String.toList_ofList]
  exact ⟨path, by simp⟩

/-- **A path with one marker at the most** leads to a key of the repository. -/
theorem holds_of_resolve (hr : r.keyPrefix ≠ "") {path key : String}
    (h : Key.resolve r.objectsKey path = .ok key)
    (hclimbs : Key.climbs (Key.dropEndSlash path.toList) ≤ 1) : r.Holds key := by
  obtain ⟨-, hkey⟩ := Key.eq_of_climb (Key.resolve_eq_ok_iff.1 h)
  rw [← String.ofList_toList (s := key), hkey]
  interval_cases hn : Key.climbs (Key.dropEndSlash path.toList)
  · rw [Function.iterate_zero_apply, toList_objectsKey, Key.below, if_neg (by simp),
      List.append_assoc, List.cons_append]
    exact holds_below _
  · have hne : r.keyPrefix.toList ≠ [] := fun hnil => hr (String.toList_inj.1 hnil)
    rw [Function.iterate_one, toList_objectsKey, Key.parent_append_cons (by decide), Key.below,
      if_neg hne]
    exact holds_below _

/-- **A reference whose name begins with no marker** has its blob in the repository. -/
theorem holds_of_refPath (hr : r.keyPrefix ≠ "") {text key : String}
    (h : Key.resolve r.objectsKey (Database.refPath text) = .ok key)
    (htext : ¬ ['.', '.', '/'] <+: text.toList) : r.Holds key := by
  refine holds_of_resolve hr h ?_
  rw [Database.refPath, String.toList_append]
  cases hchars : text.toList with
  | nil => decide
  | cons c rest =>
    have hpath : "../".toList ++ c :: rest = '.' :: '.' :: '/' :: c :: rest := rfl
    rw [hpath, Key.dropEndSlash_marker, Key.climbs, Key.climbs_eq_zero]
    rw [hchars] at htext
    exact fun hpre => htext (hpre.trans (Key.dropEndSlash_prefix _))

end Remote

/-! ### Calls that follow a symbolic reference -/

/-- The reference that the blob names with which a call was answered, if it is symbolic. -/
def Demand.target? : Demand → Option Bytes
  | .get _ _ _ (.ok (stream, _)) =>
    match stream.content with
    | .ok data =>
      match Ref.contentOf data with
      | .symbolic target => some target
      | _ => none
    | .error _ => none
  | _ => none

/-- **A call follows a symbolic reference** that another call was answered with: it is at the key of
the reference that this one names. -/
def Demand.Follows (r : Remote) (q q' : Demand) : Prop :=
  q.target?.bind (Scan.keyOf ⟨r.objectsKey⟩) = some q'.key

instance (r : Remote) (q q' : Demand) : Decidable (q.Follows r q') :=
  inferInstanceAs (Decidable (_ = _))

/-- **Calls that leave a repository only after a symbolic reference**, the latest first. -/
inductive Trail (r : Remote) : List Demand → Prop where
  /-- No call. -/
  | nil : Trail r []
  /-- A call inside of the repository. -/
  | inside {calls : List Demand} {q : Demand} (h : Trail r calls) (hq : r.Holds q.key) :
    Trail r (q :: calls)
  /-- A call that follows a symbolic reference. -/
  | follow {calls : List Demand} {q q' : Demand} (h : Trail r (q :: calls))
    (hq : q.Follows r q') : Trail r (q' :: q :: calls)

namespace Trail

variable {r : Remote} {calls : List Demand}

/-- **When calls stay inside of the repository**: when no symbolic reference that one of them
follows leads out of it. -/
theorem holds_iff (h : Trail r calls) :
    (∀ q ∈ calls, r.Holds q.key) ↔
      calls.IsChain fun q' q => q.Follows r q' → r.Holds q'.key := by
  induction h with
  | nil => simp
  | @inside calls q h hq ih =>
    rw [List.forall_mem_cons, ih]
    cases calls with
    | nil => simp [hq]
    | cons q₀ rest => rw [List.isChain_cons_cons]; simp [hq]
  | @follow calls q q' h hq ih =>
    rw [List.forall_mem_cons, ih, List.isChain_cons_cons]
    simp [hq]

/-- A key that the next call may be at. -/
def Admits (r : Remote) (calls : List Demand) (key : String) : Prop :=
  r.Holds key ∨ ∃ q ∈ calls.head?, q.target?.bind (Scan.keyOf ⟨r.objectsKey⟩) = some key

theorem cons (h : Trail r calls) {q : Demand} (hq : Admits r calls q.key) :
    Trail r (q :: calls) := by
  rcases hq with hq | ⟨q₀, hq₀, hq⟩
  · exact h.inside hq
  · obtain ⟨rest, rfl⟩ := List.head?_eq_some_iff.1 hq₀
    exact h.follow hq

end Trail

/-! ### What reading does -/

/-- **A session on a repository** that since some calls has made others, which leave the repository
only after a symbolic reference, and of which more may be said. -/
def Session.Trails {σ : Type} (r : Remote) (before : List Demand) (more : List Demand → Prop)
    (s : Session (Watched σ)) : Prop :=
  s.remote = r ∧ ∃ calls, s.store.calls = calls ++ before ∧ Trail r calls ∧ more calls

/-- **A session on a repository** of whose calls since some others no more is said. -/
abbrev Session.Kept {σ : Type} (r : Remote) (before : List Demand) (s : Session (Watched σ)) :
    Prop :=
  s.Trails r before fun _ => True

theorem Session.Trails.imp {σ : Type} {r : Remote} {before : List Demand}
    {more more' : List Demand → Prop} {s : Session (Watched σ)} (h : s.Trails r before more)
    (himp : ∀ calls, more calls → more' calls) : s.Trails r before more' := by
  obtain ⟨hremote, calls, hcalls, htrail, hmore⟩ := h
  exact ⟨hremote, calls, hcalls, htrail, himp calls hmore⟩

open Session (Trails Kept)
open Trail (Admits)

variable {σ α : Type} [Store σ] {r : Remote} {before : List Demand}

/-- The last call was answered with a symbolic reference, if some contents are one. -/
def Tells (data : Bytes) (calls : List Demand) : Prop :=
  ∀ target, Ref.contentOf data = .symbolic target → ∃ q ∈ calls.head?, q.target? = some target

namespace Database

/-- **Opening a file** is a call at the key of its path. -/
theorem ensures_open (path : String) :
    Act.Ensures (Kept (σ := σ) r before)
      (Trails r before fun calls => ∀ key, Key.resolve r.objectsKey path = .ok key →
        Admits r calls key)
      (Database.open ⟨r.objectsKey⟩ path)
      fun stream => Trails r before fun calls => ∀ data, stream.content = .ok data →
        Tells data calls := by
  rintro s ⟨hremote, calls, hcalls, htrail, hadmits⟩
  rw [open_apply]
  cases hkey : Key.resolve r.objectsKey path with
  | error climb => exact ⟨hremote, calls, hcalls, htrail, trivial⟩
  | ok key =>
    have hget := Watched.calls_get s.remote.bucket key s.toWorld (s.manifest.version? key)
    dsimp only
    cases hr : Store.get s.remote.bucket key (s.manifest.version? key) s.toWorld with
    | error f w =>
      rw [hr] at hget
      refine ⟨hremote, _ :: calls, hget.trans (congrArg _ hcalls), ?_, trivial⟩
      exact htrail.cons (hadmits key hkey)
    | ok answer w =>
      obtain ⟨stream, told⟩ := answer
      rw [hr] at hget
      refine ⟨hremote, _ :: calls, hget.trans (congrArg _ hcalls), ?_, ?_⟩
      · exact htrail.cons (hadmits key hkey)
      · intro data hdata target htarget
        exact ⟨_, rfl, by simp only [Demand.target?, Act.answerOf, hdata, htarget]⟩

/-- **Reading a file** is a call at the key of its path. -/
theorem ensures_read (path : String) :
    Act.Ensures (Kept (σ := σ) r before)
      (Trails r before fun calls => ∀ key, Key.resolve r.objectsKey path = .ok key →
        Admits r calls key)
      (Database.read ⟨r.objectsKey⟩ path) fun data => Trails r before (Tells data) := by
  refine (ensures_open path).bind fun stream => ?_
  unfold Stream.read
  cases hcontent : stream.content with
  | error f => exact .fail fun _ hs => hs.imp fun _ _ => trivial
  | ok data => exact .pure fun _ hs => hs.imp fun _ htells => htells data rfl

/-- **Listing a directory** is a call at the key of its path. -/
theorem keeps_list {path : String}
    (hpath : ∀ key, Key.resolve r.objectsKey path = .ok key → r.Holds key) :
    Act.Keeps (Kept (σ := σ) r before) (Database.list ⟨r.objectsKey⟩ path) := by
  rintro s ⟨hremote, calls, hcalls, htrail, -⟩
  rw [list_apply]
  cases hkey : Key.resolve r.objectsKey path with
  | error climb => exact ⟨hremote, calls, hcalls, htrail, trivial⟩
  | ok key =>
    have hlist := Watched.calls_list s.remote.bucket s.toWorld key
    dsimp only
    cases hr : Store.list s.remote.bucket key s.toWorld <;>
      (rw [hr] at hlist
       refine ⟨hremote, _ :: calls, hlist.trans (congrArg _ hcalls), ?_, trivial⟩
       exact htrail.inside (hpath key hkey))

end Database

namespace Scan

/-- A scan whose session has made such calls. -/
def Trails (r : Remote) (before : List Demand) (more : List Demand → Prop)
    (t : Scan (Watched σ)) : Prop := t.toSession.Trails r before more

/-- A scan of whose calls no more is said. -/
abbrev Kept (r : Remote) (before : List Demand) (t : Scan (Watched σ)) : Prop :=
  Trails r before (fun _ => True) t

omit [Store σ] in
theorem ensures_onSession {failed before : Session (Watched σ) → Prop}
    {after : α → Session (Watched σ) → Prop} {x : Act (Session (Watched σ)) α}
    (hx : Act.Ensures failed before x after) :
    Act.Ensures (fun t : Scan (Watched σ) => failed t.toSession) (fun t => before t.toSession)
      (onSession x) fun a t => after a t.toSession := by
  intro t ht
  rw [onSession_apply]
  cases h : x t.toSession with
  | ok a s => exact hx.of_ok ht h
  | error f s => exact hx.of_error ht h

omit [Store σ] in
/-- Filing a reference makes no call. -/
theorem keeps_file (ref : Ref) :
    Act.Keeps (Kept (σ := σ) r before) (file ref) := fun _ ht => ht

omit [Store σ] in
theorem keeps_fileSymbolic (name target : Bytes) (found : Option Ref) :
    Act.Keeps (Kept (σ := σ) r before) (fileSymbolic name target found) := fun _ ht => ht

/-- **Reading a blob** is a call at its key. -/
theorem ensures_blob (name : Bytes) :
    Act.Ensures (Kept (σ := σ) r before)
      (Trails r before fun calls => ∀ key, keyOf ⟨r.objectsKey⟩ name = some key →
        Admits r calls key)
      (blob ⟨r.objectsKey⟩ name)
      fun found => Trails r before fun calls => ∀ data, found = some data → Tells data calls := by
  intro t ht
  rw [blob, Database.pathOfRef_bind_apply]
  cases hname : Utf8.decodeText name with
  | error fault => exact ht.imp fun _ _ => trivial
  | ok text =>
    have hread : Act.Ensures (Kept (σ := σ) r before) _ _ _ :=
      (ensures_onSession (@Database.ensures_read σ _ r before (Database.refPath text))).attempt
    refine Act.Ensures.bind (.get fun _ ht => ht)
      (fun s => (hread.of_imp ?_).bind fun answer => ?_) t ht
    · exact fun t ht => ht.imp fun calls hadmits key hkey => hadmits key
        (keyOf_eq_some_iff.2 ⟨text, (Utf8.encodeText_decodeText hname).symm, hkey⟩)
    · cases answer with
      | ok data =>
        refine .pure fun t ht => Session.Trails.imp ht fun calls htells data' hdata => ?_
        exact Option.some.inj hdata ▸ htells
      | error f =>
        dsimp only
        split
        · exact .pure fun t ht => Session.Trails.imp ht fun calls _ data hdata => by cases hdata
        · exact .fail fun t ht => ht

/-- **Reading a reference** whose blob may be touched follows no other references than those that
symbolic ones name. -/
theorem ensures_readWithin (fuel : Nat) (resolving : List Bytes) (name : Bytes) :
    Act.Ensures (Kept (σ := σ) r before)
      (Trails r before fun calls => ∀ key, keyOf ⟨r.objectsKey⟩ name = some key →
        Admits r calls key)
      (readWithin ⟨r.objectsKey⟩ fuel resolving name) fun _ => Kept r before := by
  induction fuel generalizing resolving name with
  | zero => exact .refuse fun _ ht => ht.imp fun _ _ => trivial
  | succ fuel ih =>
    rw [readWithin]
    split
    · exact .refuse fun _ ht => ht.imp fun _ _ => trivial
    · refine (ensures_blob name).bind fun found => ?_
      cases found with
      | none => exact .pure fun _ ht => ht.imp fun _ _ => trivial
      | some data =>
        dsimp only
        cases hcontent : Ref.contentOf data with
        | malformed line => exact .refuse fun _ ht => ht.imp fun _ _ => trivial
        | object objectId => exact fun _ ht => ht.imp fun _ _ => trivial
        | symbolic target =>
          refine Act.Ensures.bind (.get fun _ ht => ht) fun t => ?_
          cases t.refs.get? target with
          | some ref =>
            exact (keeps_fileSymbolic _ _ _).of_imp fun _ ht => ht.imp fun _ _ => trivial
          | none =>
            -- the blob that was read last names the target, whose blob is read next
            refine ((ih _ target).of_imp fun _ ht => ht.imp ?_).bind fun found =>
              keeps_fileSymbolic _ _ _
            intro calls htells key hkey
            obtain ⟨q, hq, htarget⟩ := htells data rfl target hcontent
            exact .inr ⟨q, hq, by rw [htarget, Option.bind_some, hkey]⟩

variable (hr : r.keyPrefix ≠ "")
include hr

/-- **Reading the packed references** touches their file. -/
theorem keeps_readPacked :
    Act.Keeps (Kept (σ := σ) r before) (readPacked ⟨r.objectsKey⟩) := by
  have hpath : ∀ key, Key.resolve r.objectsKey Database.packedRefsPath = .ok key → r.Holds key :=
    fun key hkey => Remote.holds_of_resolve hr hkey (by decide)
  have hopen : Act.Ensures (Kept (σ := σ) r before) _ _ _ :=
    (ensures_onSession (@Database.ensures_open σ _ r before Database.packedRefsPath)).attempt
  refine Act.Ensures.bind (.get fun _ ht => ht) fun s => (hopen.of_imp ?_).bind fun answer => ?_
  · exact fun t ht => Session.Trails.imp ht fun _ _ key hkey => .inl (hpath key hkey)
  · cases answer with
    | error f =>
      dsimp only
      split
      · exact .pure fun _ ht => ht
      · exact .fail fun _ ht => ht
    | ok stream =>
      dsimp only
      cases stream.content with
      | error f => exact .fail fun _ ht => ht.imp fun _ _ => trivial
      | ok data =>
        refine Act.Ensures.bind ((Act.Ensures.each (fun _ => keeps_file _) _).of_imp
          fun _ ht => ht.imp fun _ _ => trivial) fun _ => ?_
        cases (Packed.read data).fault with
        | none => exact .pure fun _ ht => ht
        | some fault => exact .fail fun _ ht => ht

/-- **Reading a reference** whose name begins with no marker begins in the repository. -/
theorem keeps_read {text : String} (htext : ¬ ['.', '.', '/'] <+: text.toList) :
    Act.Keeps (Kept (σ := σ) r before) (read ⟨r.objectsKey⟩ (Utf8.encodeText text)) := by
  refine Act.Ensures.bind (.get fun _ ht => ht) fun t => (ensures_readWithin _ _ _).of_imp ?_
  refine fun _ ht => ht.imp fun calls _ key hkey => .inl ?_
  obtain ⟨text', hname, hkey⟩ := keyOf_eq_some_iff.1 hkey
  rw [← Utf8.encodeText_injective hname] at hkey
  exact Remote.holds_of_refPath hr hkey htext

/-- **Reading the loose references** touches their directory and the blobs of what is listed. -/
theorem keeps_readLoose :
    Act.Keeps (Kept (σ := σ) r before) (readLoose ⟨r.objectsKey⟩) := by
  have hpath : ∀ key, Key.resolve r.objectsKey refsPath = .ok key → r.Holds key :=
    fun key hkey => Remote.holds_of_resolve hr hkey (by decide)
  have hlist : Act.Ensures (Kept (σ := σ) r before) _ _ _ :=
    (ensures_onSession (@Database.keeps_list σ _ r before _ hpath)).attempt
  refine Act.Ensures.bind (.get fun _ ht => ht) fun s => Act.Ensures.bind hlist fun answer => ?_
  cases answer with
  | error f => exact .fail fun _ ht => ht
  | ok names =>
    refine Act.Ensures.bind (.each (fun n => keeps_read hr ?_) _) fun _ => .pure fun _ ht => ht
    rw [String.toList_append]
    exact fun hpre => absurd (hpre.getElem (i := 0) (by decide)) (by simp)

/-- **Reading all references.** -/
theorem keeps_readAll :
    Act.Keeps (Kept (σ := σ) r before) (readAll ⟨r.objectsKey⟩) :=
  (keeps_readPacked hr).bind fun _ => (keeps_readLoose hr).bind fun _ =>
    (keeps_read hr (by decide)).bind fun _ => .pure fun _ ht => ht

end Scan

namespace Database

/-- **Reading the references that a repository advertises.** -/
theorem keeps_advertised (hr : r.keyPrefix ≠ "") :
    Act.Keeps (Kept (σ := σ) r before) (advertised ⟨r.objectsKey⟩) := by
  intro s hs
  have hall := @Scan.keeps_readAll σ _ r before hr ⟨s, Dict.empty⟩ hs
  rw [advertised]
  cases hrun : Scan.readAll ⟨r.objectsKey⟩ ⟨s, Dict.empty⟩ <;> (rw [hrun] at hall; exact hall)

/-- **Where the references of a repository are read.** On any store, whatever its blobs hold, all
calls are at keys of the repository if and only if each call that follows a symbolic reference is;
and it is, if the name of the reference that is followed does not begin with a marker `../`. -/
theorem holds_calls_of_advertised_iff (s : Session (Watched σ)) (hr : s.remote.keyPrefix ≠ "") :
    (∃ calls,
      (Act.stateOf (advertised ⟨s.remote.objectsKey⟩ s)).store.calls = calls ++ s.store.calls ∧
      (Act.stateOf (connect s)).store.calls = calls ++ s.store.calls ∧
      ((∀ q ∈ calls, s.remote.Holds q.key) ↔
        calls.IsChain fun q' q => q.Follows s.remote q' → s.remote.Holds q'.key)) ∧
    ∀ name key, Scan.keyOf ⟨s.remote.objectsKey⟩ (Utf8.encodeText name) = some key →
      ¬ ['.', '.', '/'] <+: name.toList → s.remote.Holds key := by
  constructor
  · obtain ⟨-, calls, hcalls, htrail, -⟩ : (Act.stateOf (advertised ⟨s.remote.objectsKey⟩ s)).Kept
        s.remote s.store.calls := by
      have hkept := keeps_advertised hr s ⟨rfl, [], rfl, .nil, trivial⟩
      cases hrun : advertised ⟨s.remote.objectsKey⟩ s <;> (rw [hrun] at hkept; exact hkept)
    refine ⟨calls, hcalls, ?_, htrail.holds_iff⟩
    rw [connect, Act.bind_apply_of_ok (Act.get_apply s)]
    exact (congrArg (·.store.calls) (Act.stateOf_bind_pure _ _ s)).trans hcalls
  · intro name key hkey hname
    obtain ⟨name', heq, hkey⟩ := Scan.keyOf_eq_some_iff.1 hkey
    rw [← Utf8.encodeText_injective heq] at hkey
    exact Remote.holds_of_refPath hr hkey hname

/-- A session on a repository whose current branch is a symbolic reference. -/
def pointing (target : String) : Session (Watched Memory) :=
  { store := ⟨(Memory.empty true 0).put "b" "p/HEAD" (Utf8.encodeText ("ref: " ++ target)), []⟩
    log := []
    manifest := Manifest.empty
    remote := ⟨"b", "p", none⟩
    closed := false }

/-- The calls that are made for the references of a repository whose current branch is symbolic. -/
def callsOn (target : String) : List Demand :=
  (Act.stateOf (advertised ⟨"p/objects"⟩ (pointing target))).store.calls

/-- The current branch is followed to a name of which there is no blob yet, in the repository. -/
theorem holds_calls_of_advertised_iff_of_branch :
    (callsOn "refs/heads/main").map Demand.key =
        ["p/refs/heads/main", "p/HEAD", "p/refs", "p/packed-refs"] ∧
      ∀ q ∈ callsOn "refs/heads/main", Remote.Holds ⟨"b", "p", none⟩ q.key := by
  refine ⟨by decide +kernel, ?_⟩
  obtain ⟨⟨calls, hcalls, -, hiff⟩, -⟩ :=
    holds_calls_of_advertised_iff (pointing "refs/heads/main") (by decide)
  have heq : callsOn "refs/heads/main" = calls := hcalls.trans (List.append_nil calls)
  have hchain : (callsOn "refs/heads/main").IsChain fun q' q =>
      q.Follows ⟨"b", "p", none⟩ q' → Remote.Holds ⟨"b", "p", none⟩ q'.key := by
    decide +kernel
  rw [heq] at hchain ⊢
  exact hiff.2 hchain

/-- **Not all references are read in the repository**: a current branch that names `../secret` is
read next to it. -/
theorem not_holds_of_secret :
    ¬ ∀ q ∈ callsOn "../secret", Remote.Holds ⟨"b", "p", none⟩ q.key := by
  decide +kernel

end Database

end BlobRemote

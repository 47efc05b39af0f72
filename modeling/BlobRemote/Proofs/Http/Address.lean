import Mathlib
import BlobRemote.Proofs.Http.Overheard
import BlobRemote.Proofs.Text.Percent

/-!
# Different blobs have different addresses

The URL of a blob is made of three parts under three encodings: a bucket in which no slash stays, a
key in which slashes stay, and a version in a query. A key that is empty and a version that is not
asked for are left out together with their delimiters. The parts are found again all the same
(`BlobRemote.Address.readBack_blobUrl`): the first question mark begins the query and the first slash
before it begins the key, because neither stands in the parts before it.

So the request that fetches a blob, or a version of it, fetches no other one
(`BlobRemote.HttpStore.url_injective_of_get`).
-/

namespace BlobRemote

namespace Address

/-! ### Cutting at delimiters -/

/-- What stands before the first mark, and what stands behind it if there is one. -/
def cutAt (mark : Char) (s : List Char) : List Char × Option (List Char) :=
  (Cut.atFirst mark s).elim (s, none) fun p => (p.1, some p.2)

/-- A part that may be left out, behind its mark. -/
def behind (mark : Char) (part : Option (List Char)) : List Char := part.elim [] (mark :: ·)

/-- **A part is found behind its mark**, or found missing. -/
theorem cutAt_append_behind {mark : Char} {s : List Char} (h : mark ∉ s)
    (part : Option (List Char)) : cutAt mark (s ++ behind mark part) = (s, part) := by
  cases part with
  | none =>
    rw [cutAt, behind, Option.elim_none, List.append_nil, Cut.atFirst_eq_none_iff.2 h]
    rfl
  | some part =>
    rw [cutAt, behind, Option.elim_some, Cut.atFirst_append_cons h]
    rfl

/-! ### Reading an address -/

/-- The URL of a blob, or of a version of it. -/
def blobUrl (endpoint bucket key : String) (version : Option String) : String :=
  url endpoint bucket key (HttpStore.versionFields version)

/-- What stands between the bucket and the query, without the slash in front of it. -/
def pathBehindBucket (s : List Char) : List Char := (cutAt '/' (cutAt '?' s).1).2.getD []

/-- The bucket, the key and the version that a URL names, given what follows its endpoint and a
slash. -/
def readBack (s : List Char) : String × String × Option String :=
  (String.ofList (Percent.decode (cutAt '/' (cutAt '?' s).1).1),
    String.ofList (Percent.decode (pathBehindBucket s)),
    (cutAt '?' s).2.map fun query =>
      String.ofList (Percent.decodeQuery ((cutAt '=' query).2.getD [])))

/-- The part of the URL that names the key. -/
def keyPart? (key : String) : Option (List Char) :=
  if key = "" then none else some (Percent.encodePath key.toList)

/-- The part of the URL that names the version. -/
def versionPart (version : String) : List Char :=
  Percent.encodeQuery "versionId".toList ++ behind '=' (some (Percent.encodeQuery version.toList))

/-- What a URL has behind its endpoint. -/
def tail (bucket key : String) (version : Option String) : List Char :=
  Percent.encodePart bucket.toList ++ behind '/' (keyPart? key) ++
    behind '?' (version.map versionPart)

theorem query_versionFields (version : Option String) :
    query (HttpStore.versionFields version) = behind '?' (version.map versionPart) := by
  cases version with
  | none => rfl
  | some v =>
    rw [HttpStore.versionFields, Option.elim_some, query, if_neg (List.cons_ne_nil _ _),
      List.map_singleton, List.intercalate_singleton, queryField, Option.map_some, behind,
      Option.elim_some, versionPart, behind, Option.elim_some]

theorem toList_blobUrl (endpoint bucket key : String) (version : Option String) :
    (blobUrl endpoint bucket key version).toList =
      endpoint.toList ++ '/' :: tail bucket key version := by
  have hkey : keyPart key = behind '/' (keyPart? key) := by
    rw [keyPart, keyPart?]
    split <;> rfl
  rw [blobUrl, url, String.toList_ofList, hkey, query_versionFields, tail, List.append_assoc,
    List.append_assoc, List.append_assoc, List.cons_append]

/-- **The bucket and the key** stand before the first question mark, the bucket before the first
slash. -/
theorem cutAt_tail (bucket key : String) (version : Option String) :
    cutAt '?' (tail bucket key version) =
        (Percent.encodePart bucket.toList ++ behind '/' (keyPart? key), version.map versionPart) ∧
      cutAt '/' (Percent.encodePart bucket.toList ++ behind '/' (keyPart? key)) =
        (Percent.encodePart bucket.toList, keyPart? key) := by
  have hslash : '/' ∉ Percent.encodePart bucket.toList :=
    Percent.notMem_encode (d := 0x2F) (by decide) rfl (by decide) _
  have hbucket : '?' ∉ Percent.encodePart bucket.toList :=
    Percent.notMem_encode (d := 0x3F) (by decide) rfl (by decide) _
  have hpath : '?' ∉ Percent.encodePath key.toList :=
    Percent.notMem_encode (d := 0x3F) (by decide) rfl (by decide) _
  have hkey : '?' ∉ behind '/' (keyPart? key) := by
    rw [keyPart?]
    split
    · simp [behind]
    · simpa [behind] using hpath
  exact ⟨cutAt_append_behind (by simp [hbucket, hkey]) _, cutAt_append_behind hslash _⟩

theorem decode_pathBehindBucket (bucket key : String) (version : Option String) :
    Percent.decode (pathBehindBucket (tail bucket key version)) = key.toList := by
  obtain ⟨hquery, hbucket⟩ := cutAt_tail bucket key version
  rw [pathBehindBucket, hquery, hbucket, keyPart?]
  split
  · next hempty =>
    subst hempty
    rfl
  · exact Percent.decode_encodePath _

/-- **A URL tells its blob**: bucket, key and version are read back from it. -/
theorem readBack_blobUrl (bucket key : String) (version : Option String) :
    readBack (tail bucket key version) = (bucket, key, version) := by
  obtain ⟨hquery, hbucket⟩ := cutAt_tail bucket key version
  have hversion : ∀ v : String,
      Percent.decodeQuery ((cutAt '=' (versionPart v)).2.getD []) = v.toList := by
    intro v
    have hname : '=' ∉ Percent.encodeQuery "versionId".toList := by decide +kernel
    rw [versionPart, cutAt_append_behind hname, Option.getD_some, Percent.decodeQuery_encodeQuery]
  rw [readBack, decode_pathBehindBucket, hquery, hbucket, Percent.decode_encodePart,
    String.ofList_toList, String.ofList_toList, Option.map_map]
  cases version with
  | none => rfl
  | some v =>
    rw [Option.map_some, Function.comp_apply, hversion, String.ofList_toList]

end Address

namespace HttpStore

variable {π : Type} [Peer π]

/-- The requests that a store has sent, the latest first. -/
def requests (w : World (HttpStore (Overheard π))) : List Request := w.store.peer.requests

/-- **Fetching a blob takes one request**, whatever it is answered. -/
theorem requests_fetch (bucket key : String) (version : Option String)
    (w : World (HttpStore (Overheard π))) :
    requests (Act.stateOf (fetch bucket key version w)) =
      w.store.request "GET"
        (Address.blobUrl w.store.access.endpoint bucket key version) none none :: requests w := by
  have hrest : ∀ a : Answer, Act.Leaves (requests (π := π)) (do
      if a.status = 404 then Act.refuse (.notFound bucket key)
      ensureSuccess "GET" (Address.blobUrl w.store.access.endpoint bucket key version) a
      return (Stream.buffered a.body, a.header? versionHeader)) := by
    intro a
    split
    · exact (Act.Leaves.refuse _).bind fun _ =>
        (leaves_ensureSuccess _ _ _).bind fun _ => Act.Leaves.pure _
    · exact (leaves_ensureSuccess _ _ _).bind fun _ => Act.Leaves.pure _
  rw [fetch, Act.bind_apply_of_ok (Act.get_apply w)]
  dsimp only
  rw [Act.bind_apply, ask_apply]
  cases hsent : Peer.send (w.store.request "GET"
      (Address.blobUrl w.store.access.endpoint bucket key version) none none) w.store.peer with
  | mk reply peer =>
    have hpeer : peer.requests = w.store.request "GET"
        (Address.blobUrl w.store.access.endpoint bucket key version) none none :: requests w :=
      (congrArg (fun sent => sent.2.requests) hsent).symm
    rw [Address.blobUrl] at hsent
    rw [url, hsent]
    cases reply with
    | answered a => exact (hrest a _).trans hpeer
    | broken text => exact hpeer

/-- **Different blobs never share a URL.** Fetching a blob, or a version of it, asks a store for one
URL, and at stores with one endpoint these URLs are equal only for the same bucket, the same key and
the same version, a version with an empty name being another thing than none. What stands in the URL
behind the bucket, up to the query, is decoded to the key. -/
theorem url_injective_of_get (endpoint : String) :
    (∀ (w : World (HttpStore (Overheard π))) (bucket key : String) (version : Option String),
      w.store.access.endpoint = endpoint →
        ∃ request : Request, request.method = "GET" ∧
          request.url = Address.blobUrl endpoint bucket key version ∧
          requests (Act.stateOf (Store.get bucket key version w)) = request :: requests w) ∧
      (∀ bucket key version bucket' key' version',
        Address.blobUrl endpoint bucket key version =
            Address.blobUrl endpoint bucket' key' version' →
          bucket = bucket' ∧ key = key' ∧ version = version') ∧
      ∀ bucket key version, ∃ rest,
        (Address.blobUrl endpoint bucket key version).toList = endpoint.toList ++ '/' :: rest ∧
          Percent.decode (Address.pathBehindBucket rest) = key.toList := by
  refine ⟨?_, ?_, fun bucket key version => ?_⟩
  · rintro w bucket key version rfl
    exact ⟨_, rfl, rfl, requests_fetch bucket key version w⟩
  · intro bucket key version bucket' key' version' h
    have htail := congrArg String.toList h
    rw [Address.toList_blobUrl, Address.toList_blobUrl] at htail
    have hparts := congrArg Address.readBack (List.cons_injective (List.append_cancel_left htail))
    rw [Address.readBack_blobUrl, Address.readBack_blobUrl, Prod.mk.injEq, Prod.mk.injEq] at hparts
    exact hparts
  · exact ⟨_, Address.toList_blobUrl .., Address.decode_pathBehindBucket ..⟩

end HttpStore

end BlobRemote

import Mathlib
import BlobRemote.Proofs.Remote.Url
import BlobRemote.Proofs.Session.Lifetime

/-!
# Which URLs name a namespace

A namespace is named in full by a user, a bucket and a key in normal form, so that a session works
below the key that the location has (`BlobRemote.Location.IsNamespace`). Of an accepted URL it is
certain that bucket and key are not empty, but no more. The user information is looked at before the
password is taken off it, so that a password alone passes for a user; and one slash is taken off on
either side of the key, in the URL and again in the session, so that the two keys differ if there
were more. These are the only ways in which an accepted URL falls short of a namespace
(`BlobRemote.Location.isNamespace_iff_of_parse`).
-/

namespace BlobRemote

namespace Location

/-- **A location that names a namespace in full.** -/
structure IsNamespace (l : Location) : Prop where
  /-- There is a user. -/
  user_ne : l.user ≠ ""
  /-- There is a bucket. -/
  bucket_ne : l.bucket ≠ ""
  /-- There is a key. -/
  keyPrefix_ne : l.keyPrefix ≠ ""
  /-- The key neither starts nor ends with a slash. -/
  isNormal : Key.IsNormal l.keyPrefix
  /-- A session that is opened on the location, on any store, works below its key. -/
  keyPrefix_opened : ∀ (σ : Type) [Store σ] (timeout : Option Binary64) (w w' : World σ)
    (s : Session σ), Session.openOn (Remote.make l.bucket l.keyPrefix timeout) w = .ok s w' →
      s.remote.keyPrefix = l.keyPrefix

/-! ### The user -/

theorem ofList_decode_eq_empty_iff {s : List Char} :
    String.ofList (Percent.decode s) = "" ↔ s = [] := by
  rw [← String.toList_eq_nil_iff, String.toList_ofList, Percent.decode_eq_nil_iff]

/-- **The user is empty** if the user information begins with the colon in front of a password. -/
theorem user_eq_empty_iff {userInfo : List Char} (h : userInfo ≠ []) :
    (credentials userInfo).1 = "" ↔ userInfo.head? = some ':' := by
  rw [credentials]
  cases hcut : Cut.atFirst ':' userInfo with
  | none =>
    have hcolon : ':' ∉ userInfo := Cut.atFirst_eq_none_iff.1 hcut
    dsimp only
    rw [ofList_decode_eq_empty_iff, iff_false_left h]
    exact fun hhead => hcolon (List.mem_of_mem_head? hhead)
  | some p =>
    obtain ⟨user, password⟩ := p
    obtain ⟨rfl, hcolon⟩ := Cut.eq_of_atFirst hcut
    dsimp only
    rw [ofList_decode_eq_empty_iff]
    cases user with
    | nil => simp
    | cons c user =>
      have hc : c ≠ ':' := fun hc => hcolon (hc ▸ List.mem_cons_self)
      simp [hc]

/-! ### The key -/

/-- **A session works below the normal form** of the key that it is opened on. -/
theorem keyPrefix_of_openOn {σ : Type} [Store σ] {bucket key : String} {timeout : Option Binary64}
    {w w' : World σ} {s : Session σ}
    (hopen : Session.openOn (Remote.make bucket key timeout) w = .ok s w') :
    s.remote.keyPrefix = Key.normalize key := by
  rw [(Session.of_openOn hopen).1, Remote.make]

variable {url : String} {userInfo bucket path : List Char} {l : Location}

theorem bucket_madeOf_ne (h : IsMadeOf url userInfo bucket path) :
    (madeOf userInfo bucket path).bucket ≠ "" := by
  intro hbucket
  refine h.bucket_ne ?_
  rw [← String.toList_ofList (l := bucket)]
  exact String.toList_eq_nil_iff.2 hbucket

/-- **An accepted URL names a namespace** if a user stands in front of the password, and the decoded
path has no two slashes on either side. -/
theorem isNamespace_madeOf_iff (h : IsMadeOf url userInfo bucket path) :
    (madeOf userInfo bucket path).IsNamespace ↔ userInfo.head? ≠ some ':' ∧
      ¬ ['/', '/'] <+: Percent.decode path ∧ ¬ ['/', '/'] <:+ Percent.decode path := by
  have huser := user_eq_empty_iff h.userInfo_ne
  have hkey := Key.isNormal_normalize_iff h.keyPrefix_ne
  rw [String.toList_ofList] at hkey
  rw [← hkey, ne_eq, ← huser]
  constructor
  · exact fun hnamespace => ⟨hnamespace.user_ne, hnamespace.isNormal⟩
  · rintro ⟨huser, hnormal⟩
    refine ⟨huser, bucket_madeOf_ne h, h.keyPrefix_ne, hnormal, ?_⟩
    intro σ _ timeout w w' s hopen
    rw [keyPrefix_of_openOn hopen]
    exact Key.normalize_eq_self_iff.2 hnormal

/-- **When an accepted URL names a namespace in full.** Bucket and key are never empty. The rest
holds exactly if the authority does not begin with a colon, and the decoded path neither begins nor
ends with two slashes. -/
theorem isNamespace_iff_of_parse (h : parse url = .ok l) :
    l.bucket ≠ "" ∧ l.keyPrefix ≠ "" ∧ ∃ p, parts url.toList = .ok p ∧
      (l.IsNamespace ↔ p.authority.head? ≠ some ':' ∧
        ¬ ['/', '/'] <+: Percent.decode p.path ∧ ¬ ['/', '/'] <:+ Percent.decode p.path) := by
  obtain ⟨userInfo, bucket, path, hmade, rfl⟩ := parse_eq_ok_iff.1 h
  refine ⟨bucket_madeOf_ne hmade, hmade.keyPrefix_ne, _, hmade.parts_eq, ?_⟩
  rw [isNamespace_madeOf_iff hmade]
  dsimp only
  rw [List.head?_append_of_ne_nil _ hmade.userInfo_ne]

/-- Slashes inside the key do not count, nor does one on either side. -/
theorem isNamespace_iff_of_parse_of_slashes :
    parse "amazon-s3://u:p@b/a//r.git/" = .ok ⟨"u", some "p", "b", "a//r.git"⟩ ∧
      IsNamespace ⟨"u", some "p", "b", "a//r.git"⟩ := by
  have hparse : parse "amazon-s3://u:p@b/a//r.git/" = .ok ⟨"u", some "p", "b", "a//r.git"⟩ := by
    decide +kernel
  have hparts : parts "amazon-s3://u:p@b/a//r.git/".toList =
      .ok ⟨scheme.toList, "u:p@b".toList, "/a//r.git/".toList⟩ := rfl
  obtain ⟨-, -, p, hp, hiff⟩ := isNamespace_iff_of_parse hparse
  obtain rfl := Except.ok.inj (hparts.symm.trans hp)
  exact ⟨hparse, hiff.2 (by decide +kernel)⟩

/-- **Not every accepted URL names a namespace**: a password alone passes for a user, and of three
slashes one is left for the location and none for the session. -/
theorem not_isNamespace_of_accepted :
    (parse "amazon-s3://:pw@b/p" = .ok ⟨"", some "pw", "b", "p"⟩ ∧
        ¬ IsNamespace ⟨"", some "pw", "b", "p"⟩) ∧
      parse "amazon-s3://u@b///" = .ok ⟨"u", none, "b", "/"⟩ ∧
        (Remote.make "b" "/" none).keyPrefix = "" ∧ ¬ IsNamespace ⟨"u", none, "b", "/"⟩ :=
  ⟨⟨by decide +kernel, fun h => h.user_ne rfl⟩, by decide +kernel, by decide +kernel,
    fun h => h.isNormal.1 rfl⟩

end Location

end BlobRemote

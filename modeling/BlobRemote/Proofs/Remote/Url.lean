import Mathlib
import BlobRemote.Remote.Location
import BlobRemote.Proofs.Key.Normal
import BlobRemote.Proofs.Text.Percent

/-!
# The URL of a location names the location

A location is written as a URL and read from it again (`BlobRemote.Location.parse_url`). User,
password and key may hold any text, delimiters of a URL among it. They are encoded, so that nothing
is left of them at which a URL is cut (`BlobRemote.Location.IsInert`): the scheme ends at the first
colon, the authority at the first slash behind two slashes
(`BlobRemote.Location.parts_of_inert`), the user information at the last `@` of the authority and
the user at the first colon. Each part is decoded once, after the cuts.

The bucket is not encoded. Any text in which nothing is cut would do; the letters, digits and marks
that buckets are named with are such texts.
-/

namespace BlobRemote

/-! ### Authorities without brackets -/

namespace Host

theorem bracketsFault?_of_notMem {authority : List Char} (hopening : '[' ∉ authority)
    (hclosing : ']' ∉ authority) : bracketsFault? authority = none := by
  have hopening : authority.contains '[' = false := by simpa using hopening
  have hclosing : authority.contains ']' = false := by simpa using hclosing
  rw [bracketsFault?, hopening, hclosing]

/-- **No delimiter is hidden** in ASCII. -/
theorem charactersFault?_of_ascii {authority : List Char} (h : ∀ c ∈ authority, c.toNat < 0x80) :
    charactersFault? authority = none := by
  refine if_neg fun hany => ?_
  obtain ⟨c, hc, hhidden⟩ := List.any_eq_true.1 hany
  have hascii := h c hc
  rw [hidden, Text.Ranges.contains, if_pos (by omega)] at hhidden
  cases hhidden

end Host

namespace Location

/-! ### Characters at which nothing is cut -/

/-- **A character at which a URL is not cut**, and that is not dropped from it: it is ASCII and
neither a tab, a line end, a delimiter behind the authority nor a bracket. -/
def IsInert (c : Char) : Prop :=
  c.toNat < 0x80 ∧ c ∉ ['\t', '\n', '\r', '/', '?', '#', '[', ']']

instance (c : Char) : Decidable (IsInert c) := inferInstanceAs (Decidable (_ ∧ _))

theorem IsInert.ne_of_mem {c d : Char} (h : IsInert c)
    (hd : d ∈ ['\t', '\n', '\r', '/', '?', '#', '[', ']']) : c ≠ d := by
  rintro rfl
  exact h.2 hd

/-- **A character of a path**: a slash, or one at which nothing is cut. -/
def IsInPath (c : Char) : Prop := c = '/' ∨ IsInert c

theorem IsInPath.ne_of_mem {c d : Char} (h : IsInPath c) (hd : d ∈ ['\t', '\n', '\r', '?', '#']) :
    c ≠ d := by
  have hsub : ['\t', '\n', '\r', '?', '#'] ⊆ ['\t', '\n', '\r', '/', '?', '#', '[', ']'] := by
    decide
  rcases h with rfl | h
  · rintro rfl
    exact absurd hd (by decide)
  · exact h.ne_of_mem (hsub hd)

/-- **The characters that a bucket is named with**: letters, digits and three marks of ASCII. -/
def isBucketChar (c : Char) : Bool := c.isAlphanum || c == '.' || c == '-' || c == '_'

theorem lt_of_isBucketChar {c : Char} (h : isBucketChar c = true) : c.toNat < 0x80 := by
  simp only [isBucketChar, Bool.or_eq_true, beq_iff_eq] at h
  rcases h with ((h | rfl) | rfl) | rfl
  · simp only [Char.isAlphanum, Char.isAlpha, Char.isUpper, Char.isLower, Char.isDigit,
      Bool.or_eq_true, Bool.and_eq_true, decide_eq_true_eq, UInt32.le_iff_toNat_le, ge_iff_le] at h
    have hZ : ('Z' : Char).val.toNat = 0x5A := rfl
    have hz : ('z' : Char).val.toNat = 0x7A := rfl
    have h9 : ('9' : Char).val.toNat = 0x39 := rfl
    change c.val.toNat < 0x80
    omega
  all_goals decide

theorem inert_of_isBucketChar {c : Char} (h : isBucketChar c = true) : IsInert c ∧ c ≠ '@' := by
  have key : ∀ n < 0x80, isBucketChar (Char.ofNat n) = true →
      IsInert (Char.ofNat n) ∧ Char.ofNat n ≠ '@' := by
    decide +kernel
  have := key c.toNat (lt_of_isBucketChar h)
  rw [Char.ofNat_toNat] at this
  exact this h

/-- An unreserved byte stands for a character at which nothing is cut, not even the user
information. -/
theorem inert_of_isUnreserved {b : UInt8} (h : Percent.isUnreserved b = true) :
    IsInert (Char.ofNat b.toNat) ∧ Char.ofNat b.toNat ≠ ':' ∧ Char.ofNat b.toNat ≠ '@' := by
  have key : ∀ n < 0x100, Percent.isUnreserved (UInt8.ofNat n) = true →
      IsInert (Char.ofNat n) ∧ Char.ofNat n ≠ ':' ∧ Char.ofNat n ≠ '@' := by
    decide +kernel
  exact key b.toNat b.toNat_lt (by rwa [UInt8.ofNat_toNat])

/-- **Nothing is cut** in an encoded user or password. -/
theorem inert_of_mem_encodePart {s : List Char} :
    ∀ c ∈ Percent.encodePart s, IsInert c ∧ c ≠ ':' ∧ c ≠ '@' :=
  Percent.forall_mem_encode (by decide)
    (fun b hb => inert_of_isUnreserved (by rwa [Bool.or_false] at hb)) s

/-- **Nothing is cut** in an encoded key, but for its slashes. -/
theorem inert_of_mem_encodePath {s : List Char} :
    ∀ c ∈ Percent.encodePath s, IsInPath c := by
  refine Percent.forall_mem_encode (.inr (by decide)) (fun b hb => ?_) s
  rcases Bool.or_eq_true_iff.1 hb with hb | hb
  · exact .inr (inert_of_isUnreserved hb).1
  · obtain rfl := beq_iff_eq.1 hb
    exact .inl rfl

/-! ### The parts of a URL -/

section Parts

variable {url authority path : List Char}

/-- A URL that begins with its scheme counts as a whole, if it holds no tab and no line end. -/
theorem significant_eq_self (hstart : ∀ c ∈ url.head?, isControlOrSpace c = false)
    (h : ∀ c ∈ url, IsInPath c) : significant url = url := by
  have hdrop : url.dropWhile isControlOrSpace = url := by
    cases url with
    | nil => rfl
    | cons c rest => rw [List.dropWhile_cons, hstart c rfl, if_neg Bool.false_ne_true]
  rw [significant, hdrop, List.filter_eq_self]
  intro c hc
  simp [(h c hc).ne_of_mem]

/-- **The scheme** ends at the first colon. -/
theorem splitScheme_append (rest : List Char) :
    splitScheme (scheme.toList ++ ':' :: rest) = (scheme.toList, rest) := by
  have hcolon : ':' ∉ scheme.toList := by decide +kernel
  have hscheme :
      ((scheme.toList.head?.any Char.isAlpha) && scheme.toList.all isSchemeChar) = true := by
    decide +kernel
  have hlower : scheme.toList.map Char.toLower = scheme.toList := by decide +kernel
  rw [splitScheme, Cut.atFirst_append_cons hcolon]
  simp only [hscheme, hlower, if_true]

/-- **The authority** ends at the first slash behind it. -/
theorem splitAuthority_append (h : ∀ c ∈ authority, IsInert c) :
    splitAuthority ('/' :: '/' :: (authority ++ '/' :: path)) = (authority, '/' :: path) := by
  have hall : ∀ c ∈ authority, (!endsAuthority c) = true := by
    intro c hc
    simp [endsAuthority, (h c hc).ne_of_mem]
  rw [splitAuthority, List.span_eq_takeWhile_dropWhile, List.takeWhile_append_of_pos hall,
    List.dropWhile_append_of_pos hall, List.takeWhile_cons, List.dropWhile_cons]
  simp [endsAuthority]

/-- **The path** has neither a query nor a fragment behind it. -/
theorem barePath_eq_self (h : ∀ c ∈ path, IsInPath c) : barePath path = path := by
  have hfragment : path.takeWhile (· != '#') = path :=
    List.takeWhile_eq_self_iff.2 fun c hc => by simp [(h c hc).ne_of_mem]
  rw [barePath, hfragment]
  exact List.takeWhile_eq_self_iff.2 fun c hc => by simp [(h c hc).ne_of_mem]

/-- **A URL is cut where it was put together**, if nothing in its parts is a place to cut. -/
theorem parts_of_inert (hauthority : ∀ c ∈ authority, IsInert c) (hpath : ∀ c ∈ path, IsInPath c) :
    parts (scheme.toList ++ ':' :: '/' :: '/' :: (authority ++ '/' :: path)) =
      .ok ⟨scheme.toList, authority, '/' :: path⟩ := by
  have hscheme : scheme.toList.all isBucketChar = true := by decide +kernel
  have hstart : ∀ c ∈ (scheme.toList ++ ':' :: '/' :: '/' :: (authority ++ '/' :: path)).head?,
      isControlOrSpace c = false := by
    intro c hc
    obtain rfl : 'a' = c := Option.some.inj hc
    decide
  have hall : ∀ c ∈ scheme.toList ++ ':' :: '/' :: '/' :: (authority ++ '/' :: path),
      IsInPath c := by
    intro c hc
    simp only [List.mem_append, List.mem_cons] at hc
    rcases hc with hc | rfl | rfl | rfl | hc | rfl | hc
    · exact .inr (inert_of_isBucketChar (List.all_eq_true.1 hscheme c hc)).1
    · exact .inr (by decide)
    · exact .inl rfl
    · exact .inl rfl
    · exact .inr (hauthority c hc)
    · exact .inl rfl
    · exact hpath c hc
  have hslash : ∀ c ∈ '/' :: path, IsInPath c := List.forall_mem_cons.2 ⟨.inl rfl, hpath⟩
  have hbrackets : Host.bracketsFault? authority = none :=
    Host.bracketsFault?_of_notMem (fun hmem => (hauthority _ hmem).2 (by decide))
      fun hmem => (hauthority _ hmem).2 (by decide)
  have hcharacters : Host.charactersFault? authority = none :=
    Host.charactersFault?_of_ascii fun c hc => (hauthority c hc).1
  simp only [parts, significant_eq_self hstart hall, splitScheme_append,
    splitAuthority_append hauthority, hbrackets, hcharacters, Option.or_none, barePath_eq_self hslash]

end Parts

/-! ### Accepted URLs -/

/-- **What an accepted URL is made of**: a user information and a bucket, which are not empty, with
the last `@` of the authority between them, and a path of which a key is left. -/
structure IsMadeOf (url : String) (userInfo bucket path : List Char) : Prop where
  /-- These are its parts. -/
  parts_eq : parts url.toList = .ok ⟨scheme.toList, userInfo ++ '@' :: bucket, path⟩
  /-- The `@` between them is the last one. -/
  notMem_bucket : '@' ∉ bucket
  /-- There is a user information. -/
  userInfo_ne : userInfo ≠ []
  /-- There is a bucket. -/
  bucket_ne : bucket ≠ []
  /-- There is a key. -/
  keyPrefix_ne : Key.normalize (String.ofList (Percent.decode path)) ≠ ""

/-- The location that an accepted URL names. -/
def madeOf (userInfo bucket path : List Char) : Location :=
  ⟨(credentials userInfo).1, (credentials userInfo).2, String.ofList bucket,
    Key.normalize (String.ofList (Percent.decode path))⟩

/-- **Which URLs are accepted**, and which locations they name. -/
theorem parse_eq_ok_iff {url : String} {l : Location} :
    parse url = .ok l ↔ ∃ userInfo bucket path,
      IsMadeOf url userInfo bucket path ∧ l = madeOf userInfo bucket path := by
  constructor
  · intro h
    rw [parse] at h
    split at h
    · cases h
    · next p hparts =>
      obtain ⟨schemePart, authority, path⟩ := p
      dsimp only at h
      by_cases hscheme : schemePart = scheme.toList
      · rw [if_neg (not_not_intro hscheme)] at h
        split at h
        · cases h
        · next userInfo bucket hcut =>
          obtain ⟨rfl, hbucket⟩ := Cut.eq_of_atLast hcut
          split at h
          · cases h
          · next huser =>
            split at h
            · cases h
            · next hne =>
              split at h
              · cases h
              · next hkey =>
                cases h
                exact ⟨userInfo, bucket, path, ⟨hscheme ▸ hparts, hbucket, huser, hne, hkey⟩, rfl⟩
      · rw [if_pos hscheme] at h
        cases h
  · rintro ⟨userInfo, bucket, path, h, rfl⟩
    simp only [parse, h.parts_eq, Cut.atLast_append_cons h.notMem_bucket, ne_eq, not_true_eq_false,
      if_false, h.userInfo_ne, h.bucket_ne, h.keyPrefix_ne, madeOf]

/-! ### Written URLs -/

/-- The user and the password of a location, as they are written. -/
def userInfoOf (l : Location) : List Char :=
  Percent.encodePart l.user.toList ++
    l.password.elim [] fun p => ':' :: Percent.encodePart p.toList

theorem toList_url (l : Location) :
    l.url.toList = scheme.toList ++ ':' :: '/' :: '/' ::
      (userInfoOf l ++ '@' :: l.bucket.toList ++ '/' :: Percent.encodePath l.keyPrefix.toList) := by
  rw [url, userInfoOf, String.toList_ofList]
  simp only [List.append_assoc, List.cons_append]
  rfl

/-- **User and password are read back**, and a password that is missing is told from an empty
one. -/
theorem credentials_userInfoOf (l : Location) :
    credentials (userInfoOf l) = (l.user, l.password) := by
  have hcolon : ':' ∉ Percent.encodePart l.user.toList := fun hmem =>
    (inert_of_mem_encodePart _ hmem).2.1 rfl
  rw [credentials, userInfoOf]
  cases l.password with
  | none =>
    rw [Option.elim_none, List.append_nil, Cut.atFirst_eq_none_iff.2 hcolon]
    simp only [Percent.decode_encodePart, String.ofList_toList]
  | some password =>
    rw [Option.elim_some, Cut.atFirst_append_cons hcolon]
    simp only [Percent.decode_encodePart, String.ofList_toList]

theorem inert_of_mem_userInfoOf {l : Location} : ∀ c ∈ userInfoOf l, IsInert c := by
  intro c hc
  rcases List.mem_append.1 hc with hc | hc
  · exact (inert_of_mem_encodePart c hc).1
  · cases hpassword : l.password with
    | none =>
      rw [hpassword] at hc
      cases hc
    | some password =>
      rw [hpassword] at hc
      rcases List.mem_cons.1 hc with rfl | hc
      · decide
      · exact (inert_of_mem_encodePart c hc).1

/-- **A URL names the location that it was written for**: user and password are any texts, but the
user is not empty; the bucket is named with letters, digits and the three marks; the key is any text
in normal form. -/
theorem parse_url (l : Location) (huser : l.user ≠ "") (hbucket : l.bucket ≠ "")
    (hname : ∀ c ∈ l.bucket.toList, isBucketChar c = true) (hkey : l.keyPrefix ≠ "")
    (hnormal : Key.IsNormal l.keyPrefix) : parse l.url = .ok l := by
  have hpath : Key.normalize (String.ofList
      (Percent.decode ('/' :: Percent.encodePath l.keyPrefix.toList))) = l.keyPrefix := by
    rw [← Percent.encodePath_slash, Percent.decode_encodePath, Key.normalize_slash hnormal]
  have hauthority : ∀ c ∈ userInfoOf l ++ '@' :: l.bucket.toList, IsInert c := by
    intro c hc
    simp only [List.mem_append, List.mem_cons] at hc
    rcases hc with hc | rfl | hc
    · exact inert_of_mem_userInfoOf c hc
    · decide
    · exact (inert_of_isBucketChar (hname c hc)).1
  have huserInfo : userInfoOf l ≠ [] := fun hnil => by
    have hencoded : Percent.decode (Percent.encodePart l.user.toList) = [] :=
      Percent.decode_eq_nil_iff.2 (List.append_eq_nil_iff.1 hnil).1
    rw [Percent.decode_encodePart] at hencoded
    exact huser (String.toList_eq_nil_iff.1 hencoded)
  refine parse_eq_ok_iff.2 ⟨userInfoOf l, l.bucket.toList,
    '/' :: Percent.encodePath l.keyPrefix.toList, ⟨?_, ?_, huserInfo, ?_, ?_⟩, ?_⟩
  · rw [toList_url, parts_of_inert hauthority inert_of_mem_encodePath]
  · exact fun hmem => (inert_of_isBucketChar (hname _ hmem)).2 rfl
  · exact fun hnil => hbucket (String.toList_eq_nil_iff.1 hnil)
  · rwa [hpath]
  · rw [madeOf, credentials_userInfoOf, hpath, String.ofList_toList]

/-- Delimiters in the user and the key, an empty password, and a key that looks like an encoded
one. -/
theorem parse_url_of_delimiters :
    parse "amazon-s3://%40%3A%2F%C3%A9:@b-1.c/x%3Fy//%23%252F%5B" =
      .ok ⟨"@:/é", some "", "b-1.c", "x?y//#%2F["⟩ := by
  have hurl : url ⟨"@:/é", some "", "b-1.c", "x?y//#%2F["⟩ =
      "amazon-s3://%40%3A%2F%C3%A9:@b-1.c/x%3Fy//%23%252F%5B" := by decide +kernel
  rw [← hurl]
  have hname : "b-1.c".toList.all isBucketChar = true := by decide +kernel
  exact parse_url _ (by decide) (by decide) (List.all_eq_true.1 hname) (by decide) (by decide)

end Location

end BlobRemote

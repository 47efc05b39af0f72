import Mathlib
import BlobRemote.Http.Scripted
import BlobRemote.Proofs.Http.Overheard
import BlobRemote.Proofs.Store.Memory
import BlobRemote.Xml.Document

/-!
# Listings that arrive in pages

A service tells the keys of a bucket page by page. What a page lists and which page comes next is a
matter of its element tree: of the entries below the root, of the key in each of them, and of two
elements that say whether more follows (`BlobRemote.Xml.Element.Lists`,
`BlobRemote.Xml.Element.Continues`). In a well-formed page none of these occurs twice where it is
expected once (`BlobRemote.Xml.Element.IsListing`), and then it does not matter that entries are
looked for at any depth, that the first key of an entry counts, that all names are looked for in the
namespace of the root, and that a search in the namespace `*` stops at names in every namespace
(`BlobRemote.Page.mem_keysOf_iff`, `BlobRemote.Page.nextOf_eq_some_iff`).

How bytes become trees is up to the parser. Nothing is known of it but that it makes a tree of a
document, finds it malformed, or fails for another reason.

A listing is followed from one page to the next, and what has to be shown of the loop is that it asks
for each page once, with the token of the page before it, and keeps all keys on the way
(`BlobRemote.HttpStore.pagesFrom_apply`). How it ends is up to the last reply
(`BlobRemote.HttpStore.LastReply`): a page after which none follows, or one of the five ways in which
a page can fail to arrive.
-/

namespace BlobRemote

/-! ### Pages as trees -/

namespace Xml

/-- The tree that a parser makes of a document, if it makes one. -/
def Parsed.root? : Parsed → Option Element
  | tree root => some root
  | _ => none

theorem Parsed.root?_eq_some_iff {p : Parsed} {root : Element} :
    p.root? = some root ↔ p = tree root := by
  cases p <;> simp [root?]

namespace Element

/-- The children with a tag. -/
def named (e : Element) (tag : Tag) : List Element := e.children.filter fun c => c.tag = tag

/-- **What is expected at most once** among the children of an element: one child at most has the tag,
and a search for the tag stops at no other child, as it might in the namespace `*`. -/
structure Single (e : Element) (tag : Tag) : Prop where
  /-- At most one child has the tag. -/
  length_le : (e.named tag).length ≤ 1
  /-- A search stops at no other child. -/
  eq_of_finds : ∀ c ∈ e.children, tag.finds c.tag → c.tag = tag

instance (e : Element) (tag : Tag) : Decidable (e.Single tag) :=
  decidable_of_iff
    ((e.named tag).length ≤ 1 ∧ ∀ c ∈ e.children, tag.finds c.tag → c.tag = tag)
    ⟨fun ⟨h, h'⟩ => ⟨h, h'⟩, fun h => ⟨h.length_le, h.eq_of_finds⟩⟩

/-- **A well-formed page of a listing**, with a namespace or without one. -/
structure IsListing (root : Element) : Prop where
  /-- The root has its name. -/
  name : root.tag.name = "ListBucketResult"
  /-- All entries are children of the root. -/
  flat : ∀ child ∈ root.children, ∀ e ∈ allOf child.children, e.tag ≠ root.tag.beside "Contents"
  /-- No entry has two keys. -/
  key : ∀ entry ∈ root.named (root.tag.beside "Contents"), entry.Single (root.tag.beside "Key")
  /-- The page does not say twice whether it is the last one. -/
  truncated : root.Single (root.tag.beside "IsTruncated")
  /-- The page does not name two other ones. -/
  token : root.Single (root.tag.beside "NextContinuationToken")

instance (root : Element) : Decidable root.IsListing :=
  decidable_of_iff
    (root.tag.name = "ListBucketResult" ∧
      (∀ child ∈ root.children, ∀ e ∈ allOf child.children,
        e.tag ≠ root.tag.beside "Contents") ∧
      (∀ entry ∈ root.named (root.tag.beside "Contents"),
        entry.Single (root.tag.beside "Key")) ∧
      root.Single (root.tag.beside "IsTruncated") ∧
      root.Single (root.tag.beside "NextContinuationToken"))
    ⟨fun ⟨h, h', h'', ht, ht'⟩ => ⟨h, h', h'', ht, ht'⟩,
      fun h => ⟨h.name, h.flat, h.key, h.truncated, h.token⟩⟩

/-- **A page lists a key** if the key stands in one of its entries. -/
def Lists (root : Element) (key : String) : Prop :=
  ∃ entry ∈ root.named (root.tag.beside "Contents"),
    ∃ e ∈ entry.named (root.tag.beside "Key"), e.text = key

/-- **A page names the next one** by a token, if it says that it is not the last one. -/
def Continues (root : Element) (token : String) : Prop :=
  (∃ e ∈ root.named (root.tag.beside "IsTruncated"), e.text = "true") ∧
    token ≠ "" ∧ ∃ e ∈ root.named (root.tag.beside "NextContinuationToken"), e.text = token

theorem mem_allOf_iff {e : Element} {l : List Element} :
    e ∈ allOf l ↔ ∃ c ∈ l, e = c ∨ e ∈ allOf c.children := by
  induction l with
  | nil => simp [allOf]
  | cons c rest ih =>
    cases c with
    | node tag text children =>
      rw [allOf, all, List.mem_append, List.mem_cons, ih]
      simp [Element.children]

/-- A search for what is expected at most once stops at what has the tag. -/
theorem Single.finds_iff {e : Element} {tag : Tag} (h : e.Single tag) {c : Element}
    (hc : c ∈ e.children) : tag.finds c.tag = true ↔ c.tag = tag := by
  refine ⟨h.eq_of_finds c hc, fun htag => ?_⟩
  rw [htag, Tag.finds]
  split <;> exact decide_eq_true rfl

/-- **What is expected at most once** is what a search for it comes to. -/
theorem Single.childText?_eq_some_iff {e : Element} {tag : Tag} (h : e.Single tag)
    {text : String} : e.childText? tag = some text ↔ ∃ c ∈ e.named tag, c.text = text := by
  have hnamed : e.children.filter (fun c => tag.finds c.tag) = e.named tag :=
    List.filter_congr fun c hc => by rw [Bool.eq_iff_iff, h.finds_iff hc, decide_eq_true_eq]
  rw [childText?, Option.map_eq_some_iff, ← List.head?_filter, hnamed]
  have hlength := h.length_le
  cases hn : e.named tag with
  | nil => simp
  | cons c rest =>
    rw [hn] at hlength
    obtain rfl : rest = [] :=
      List.length_eq_zero_iff.1 (Nat.le_zero.1 (Nat.le_of_succ_le_succ hlength))
    simp

end Element

end Xml

namespace Page

open Xml

/-- **The keys of a well-formed page** are those that it lists, but for an empty one. -/
theorem mem_keysOf_iff {root : Element} (h : root.IsListing) (key : String) :
    key ∈ keysOf root ↔ key ≠ "" ∧ root.Lists key := by
  -- the root is no entry itself, and below the entries there are none
  have hentry : ∀ e : Element, e ∈ root.all ∧ e.tag = root.tag.beside "Contents" ↔
      e ∈ root.named (root.tag.beside "Contents") := by
    intro e
    have hall : root.all = root :: Element.allOf root.children := by
      cases root
      rfl
    rw [hall, List.mem_cons, Element.mem_allOf_iff, Element.named, List.mem_filter,
      decide_eq_true_eq]
    refine and_congr_left fun htag => ⟨fun he => ?_, fun he => .inr ⟨e, he, .inl rfl⟩⟩
    rcases he with rfl | ⟨c, hc, rfl | he⟩
    · have hname : "ListBucketResult" = "Contents" := h.name.symm.trans (congrArg Tag.name htag)
      exact absurd hname (by decide)
    · exact hc
    · exact absurd htag (h.flat c hc e he)
  rw [keysOf, List.mem_filterMap]
  constructor
  · rintro ⟨e, he, hkey⟩
    have hmem := (hentry e).1 (by simpa using he)
    rw [key?, Option.filter_eq_some_iff] at hkey
    exact ⟨by simpa using hkey.2, e, hmem, (h.key e hmem).childText?_eq_some_iff.1 hkey.1⟩
  · rintro ⟨hne, e, hmem, hkey⟩
    refine ⟨e, by simpa using (hentry e).2 hmem, ?_⟩
    rw [key?, Option.filter_eq_some_iff]
    exact ⟨(h.key e hmem).childText?_eq_some_iff.2 hkey, by simpa using hne⟩

/-- **The page after a well-formed one** is the one that it names. -/
theorem nextOf_eq_some_iff {root : Element} (h : root.IsListing) {token : String} :
    nextOf root = some token ↔ root.Continues token := by
  rw [nextOf, Element.Continues, ← h.truncated.childText?_eq_some_iff,
    ← h.token.childText?_eq_some_iff]
  split
  · next ht => rw [Option.filter_eq_some_iff, and_comm]; simp [ht]
  · next ht => simp [ht]

/-- **A well-formed page after which none follows** names no other one. -/
theorem nextOf_eq_none_iff {root : Element} (h : root.IsListing) :
    nextOf root = none ↔ ∀ token, ¬ root.Continues token := by
  rw [Option.eq_none_iff_forall_ne_some]
  exact forall_congr' fun token => not_congr (nextOf_eq_some_iff h)

end Page

namespace HttpStore

open Xml

/-! ### Replies -/

/-- **A page that arrives**: an answer that tells success and in which a parser finds a well-formed
page. -/
structure Sheet (parser : Parser) where
  /-- The answer. -/
  answer : Answer
  /-- The tree that it holds. -/
  root : Element
  /-- The answer tells success. -/
  isSuccess : answer.isSuccess = true
  /-- The tree is what the parser makes of the answer. -/
  parse : parser answer.body = .tree root
  /-- The page is well-formed. -/
  isListing : root.IsListing

/-- A page that arrives and names the next one. -/
structure Continued (parser : Parser) extends Sheet parser where
  /-- The token of the next page. -/
  token : String
  /-- The page names it. -/
  continues : root.Continues token

/-- **The last reply** to a listing. -/
inductive LastReply (parser : Parser) where
  /-- A page that names no other one. -/
  | complete (sheet : Sheet parser) (h : ∀ token, ¬ sheet.root.Continues token)
  /-- There is no such bucket. -/
  | missing (answer : Answer) (h : answer.status = 404)
  /-- The request is refused. -/
  | refused (answer : Answer) (hmissing : answer.status ≠ 404) (h : answer.isSuccess = false)
  /-- The exchange breaks off. -/
  | broken (text : String)
  /-- What arrives is not well-formed. -/
  | malformed (answer : Answer) (hsuccess : answer.isSuccess = true)
    (h : parser answer.body = .malformed)
  /-- The parser fails on what arrives for another reason. -/
  | unread (answer : Answer) (hsuccess : answer.isSuccess = true) (f : Failure)
    (h : parser answer.body = .failed f)

variable {parser : Parser}

namespace LastReply

/-- The reply. -/
def reply : LastReply parser → Reply
  | complete sheet _ => .answered sheet.answer
  | missing answer _ => .answered answer
  | refused answer _ _ => .answered answer
  | broken text => .broken text
  | malformed answer _ _ => .answered answer
  | unread answer _ _ _ => .answered answer

/-- Why a listing fails, if it does: a reply to the request that went to `url`. -/
def failure? (bucket directory url : String) : LastReply parser → Option Failure
  | complete .. => none
  | missing .. => some (Reason.notFound bucket (directory ++ "/")).alone
  | refused a .. => some (Reason.transport (some url) (.status "GET" a.status)).alone
  | broken text =>
    some ((Reason.exchange text).alone.behind (.transport (some url) (.unanswered "GET" text)))
  | malformed .. => some (Reason.listing.alone.behind (.transport (some url) .malformedListing))
  | unread _ _ f _ => some f

/-- The pages that arrive. -/
def sheets (pages : List (Continued parser)) : LastReply parser → List (Sheet parser)
  | complete sheet _ => pages.map Continued.toSheet ++ [sheet]
  | _ => pages.map Continued.toSheet

end LastReply

/-! ### Requests -/

section Requests

variable (access : Access) (bucket directory : String)

/-- The URL of a page: the first one, or the one with a token. -/
def pageUrl (token : Option String) : String :=
  Address.url access.endpoint bucket ""
    ([("list-type", "2"), ("prefix", directory ++ "/")] ++
      token.elim [] fun t => [("continuation-token", t)])

/-- The request for a page. -/
def pageRequest (token : Option String) : Request :=
  ⟨"GET", pageUrl access bucket directory token, access.pool.headers.entries, none, access.timeout⟩

/-- **The requests of a listing**: for the page with a token, and after each page for the one that it
names. -/
def pageRequests (token : Option String) (pages : List (Continued parser)) : List Request :=
  (token :: pages.map fun p => some p.token).map (pageRequest access bucket directory)

/-- The URL of the last request of a listing. -/
def lastUrl (token : Option String) (pages : List (Continued parser)) : String :=
  pageUrl access bucket directory ((pages.getLast?.map Continued.token).or token)

theorem lastUrl_cons (token : Option String) (p : Continued parser)
    (pages : List (Continued parser)) :
    lastUrl access bucket directory token (p :: pages) =
      lastUrl access bucket directory (some p.token) pages := by
  rw [lastUrl, lastUrl, List.getLast?_cons]
  cases pages.getLast? <;> rfl

end Requests

/-! ### One page after another -/

variable {access : Access} {bucket directory : String} {seen : List Request} {log : List Event}
  {rest : List Reply}

/-- **Asking for a page** is one request, and what becomes of it depends on the reply alone. -/
theorem page_apply {π : Type} [Peer π] (token : Option String) (w : World (HttpStore π)) :
    page bucket (directory ++ "/") token w =
      let url := pageUrl w.store.access bucket directory token
      let (reply, peer) :=
        Peer.send (pageRequest w.store.access bucket directory token) w.store.peer
      let w' : World (HttpStore π) := ⟨{ w.store with peer := peer }, .request "GET" url :: w.log⟩
      match reply with
      | .broken text =>
        .error ((Reason.exchange text).alone.behind
          (.transport (some url) (.unanswered "GET" text))) w'
      | .answered a =>
        if a.status = 404 then .error (Reason.notFound bucket (directory ++ "/")).alone w'
        else if a.isSuccess then readPage url (w.store.parser a.body) w'
        else .error (Reason.transport (some url) (.status "GET" a.status)).alone w' := by
  have hurl : w.store.url bucket "" (pageFields (directory ++ "/") token) =
      pageUrl w.store.access bucket directory token := rfl
  have hrequest : w.store.request "GET" (pageUrl w.store.access bucket directory token) none none =
      pageRequest w.store.access bucket directory token := rfl
  rw [page, Act.bind_apply_of_ok (Act.get_apply w), Act.bind_apply, ask_apply, hurl, hrequest]
  cases Peer.send (pageRequest w.store.access bucket directory token) w.store.peer with
  | mk reply peer =>
    cases reply with
    | broken text => rfl
    | answered a =>
      dsimp only
      by_cases hmissing : a.status = 404
      · rw [if_pos hmissing, if_pos hmissing]
        rfl
      · rw [if_neg hmissing, if_neg hmissing, Act.bind_apply, ensureSuccess]
        by_cases hsuccess : a.isSuccess = true
        · rw [if_pos hsuccess, if_pos hsuccess]
          rfl
        · rw [if_neg hsuccess, if_neg hsuccess]
          rfl

/-- An answer that tells success does not tell that something is missing. -/
theorem ne_of_isSuccess {a : Answer} (h : a.isSuccess = true) : a.status ≠ 404 := by
  intro hstatus
  rw [Answer.isSuccess, hstatus] at h
  exact absurd h (by decide)

/-- **An answer that tells success** is left to the parser. -/
theorem page_of_isSuccess {a : Answer} (h : a.isSuccess = true) (token : Option String) :
    page bucket (directory ++ "/") token
        ⟨⟨access, parser, (⟨.answered a :: rest, seen⟩ : Script)⟩, log⟩ =
      readPage (pageUrl access bucket directory token) (parser a.body)
        ⟨⟨access, parser, ⟨rest, pageRequest access bucket directory token :: seen⟩⟩,
          .request "GET" (pageUrl access bucket directory token) :: log⟩ := by
  rw [page_apply]
  exact (if_neg (ne_of_isSuccess h)).trans (if_pos h)

/-- **A page that arrives** is read. -/
theorem page_sheet (sheet : Sheet parser) (token : Option String) :
    page bucket (directory ++ "/") token
        ⟨⟨access, parser, (⟨.answered sheet.answer :: rest, seen⟩ : Script)⟩, log⟩ =
      .ok (Page.ofElement sheet.root)
        ⟨⟨access, parser, ⟨rest, pageRequest access bucket directory token :: seen⟩⟩,
          .request "GET" (pageUrl access bucket directory token) :: log⟩ := by
  rw [page_of_isSuccess sheet.isSuccess, sheet.parse]
  rfl

/-- **A page that does not arrive** ends a listing. -/
theorem page_failure {last : LastReply parser} {token : Option String} {f : Failure}
    (hf : last.failure? bucket directory (pageUrl access bucket directory token) = some f) :
    page bucket (directory ++ "/") token
        ⟨⟨access, parser, (⟨last.reply :: rest, seen⟩ : Script)⟩, log⟩ =
      .error f
        ⟨⟨access, parser, ⟨rest, pageRequest access bucket directory token :: seen⟩⟩,
          .request "GET" (pageUrl access bucket directory token) :: log⟩ := by
  cases last with
  | complete sheet h => cases hf
  | missing a h =>
    cases hf
    rw [page_apply]
    exact if_pos h
  | refused a hmissing h =>
    cases hf
    rw [page_apply]
    change (if a.status = 404 then _ else if a.isSuccess then _ else _) = _
    rw [if_neg hmissing, if_neg (by rw [h]; decide)]
  | broken text =>
    cases hf
    rw [page_apply]
    rfl
  | malformed a hsuccess h =>
    cases hf
    rw [LastReply.reply, page_of_isSuccess hsuccess, h]
    rfl
  | unread a hsuccess f' h =>
    cases hf
    rw [LastReply.reply, page_of_isSuccess hsuccess, h]
    rfl

variable (access bucket directory) in
/-- **The pages are followed** one after another: each is asked for once, by the token of the page
before it, and the keys of all of them are kept. -/
theorem pagesFrom_apply (last : LastReply parser) (rest : List Reply)
    (pages : List (Continued parser)) (token : Option String) (fuel : Nat)
    (hfuel : pages.length < fuel) (seen : List Request) (log : List Event) :
    ∃ log', pagesFrom bucket (directory ++ "/") fuel token
        ⟨⟨access, parser,
          (⟨pages.map (fun p => .answered p.answer) ++ last.reply :: rest, seen⟩ : Script)⟩, log⟩ =
      let w' : World (HttpStore Script) :=
        ⟨⟨access, parser,
          ⟨rest, (pageRequests access bucket directory token pages).reverse ++ seen⟩⟩, log'⟩
      match last.failure? bucket directory (lastUrl access bucket directory token pages) with
      | some f => .error f w'
      | none => .ok ((last.sheets pages).flatMap fun s => Page.keysOf s.root) w' := by
  induction pages generalizing token fuel seen log with
  | nil =>
    obtain ⟨fuel, rfl⟩ := Nat.exists_eq_succ_of_ne_zero (Nat.ne_of_gt hfuel)
    refine ⟨.request "GET" (pageUrl access bucket directory token) :: log, ?_⟩
    rw [pagesFrom, Act.bind_apply]
    change _ = match last.failure? bucket directory (pageUrl access bucket directory token) with
      | some f => _
      | none => _
    cases hf : last.failure? bucket directory (pageUrl access bucket directory token) with
    | some f =>
      rw [List.map_nil, List.nil_append, page_failure hf]
      rfl
    | none =>
      cases last with
      | complete sheet h =>
        have hnext : (Page.ofElement sheet.root).next = none :=
          (Page.nextOf_eq_none_iff sheet.isListing).2 h
        rw [List.map_nil, List.nil_append, LastReply.reply, page_sheet]
        dsimp only
        rw [hnext]
        exact congrArg₂ _ (List.append_nil _).symm rfl
      | _ => cases hf
  | cons p pages ih =>
    obtain ⟨fuel, rfl⟩ := Nat.exists_eq_succ_of_ne_zero (Nat.ne_of_gt (Nat.zero_lt_of_lt hfuel))
    obtain ⟨log', hrest⟩ := ih (some p.token) fuel (Nat.lt_of_succ_lt_succ hfuel)
      (pageRequest access bucket directory token :: seen)
      (.request "GET" (pageUrl access bucket directory token) :: log)
    have hnext : (Page.ofElement p.root).next = some p.token :=
      (Page.nextOf_eq_some_iff p.isListing).2 p.continues
    have hrequests : (pageRequests access bucket directory token (p :: pages)).reverse ++ seen =
        (pageRequests access bucket directory (some p.token) pages).reverse ++
          pageRequest access bucket directory token :: seen := by
      simp [pageRequests]
    refine ⟨log', ?_⟩
    rw [pagesFrom, List.map_cons, List.cons_append, Act.bind_apply_of_ok (page_sheet p.toSheet token)]
    dsimp only
    rw [hnext, lastUrl_cons, hrequests]
    dsimp only
    rw [Act.bind_apply, hrest]
    cases last.failure? bucket directory (lastUrl access bucket directory (some p.token) pages) with
    | some f => rfl
    | none => cases last <;> rfl

/-! ### Listings -/

/-- No key below a directory is empty. -/
theorem below_ne_empty (directory n : String) : directory ++ "/" ++ n ≠ "" := by
  intro h
  have hslash : directory ++ "/" = "" := (String.append_eq_empty_iff.1 h).1
  exact absurd (String.append_eq_empty_iff.1 hslash).2 (by decide)

/-- The names below a directory, if some pages list its keys. -/
theorem mem_below_keys_iff {sheets : List (Sheet parser)} {n : String} :
    n ∈ Names.below directory (sheets.flatMap fun s => Page.keysOf s.root) ↔
      ∃ s ∈ sheets, s.root.Lists (directory ++ "/" ++ n) := by
  rw [Names.mem_below_iff, List.mem_flatMap]
  refine exists_congr fun s => and_congr_right fun _ => ?_
  rw [Page.mem_keysOf_iff s.isListing]
  exact and_iff_right (below_ne_empty directory n)

/-- **A listing loses nothing.** However many pages there are and however keys are split among them or
repeated, each page is asked for once, by the token of the page before it. If all of them arrive, the
names are those that the pages list below the directory, each of them once, and thus those that a
store in memory lists which holds the same keys. If one does not arrive, the listing fails after the
request for it, and answers with no names. All of this holds whatever parser there is. -/
theorem list_pages (parser : Parser) (access : Access) (bucket directory : String)
    (pages : List (Continued parser)) (last : LastReply parser) (rest : List Reply)
    (seen : List Request) (log : List Event) :
    let w : World (HttpStore Script) :=
      ⟨⟨access, parser, ⟨pages.map (fun p => .answered p.answer) ++ last.reply :: rest, seen⟩⟩, log⟩
    let result := Store.list bucket directory w
    (Act.stateOf result).store =
        ⟨access, parser,
          ⟨rest, (pageRequests access bucket directory none pages).reverse ++ seen⟩⟩ ∧
      match last.failure? bucket directory (lastUrl access bucket directory none pages) with
      | some f => Act.answerOf result = .error f
      | none =>
        let listed (key : String) : Prop := ∃ s ∈ last.sheets pages, s.root.Lists key
        ∃ names, Act.answerOf result = .ok names ∧ names.Nodup ∧
          (∀ n, n ∈ names ↔ listed (directory ++ "/" ++ n)) ∧
          ∀ (m : World Memory) (bucket' : String),
            (∀ key, m.store.blobs.get? (bucket', key) ≠ none ↔ key ≠ "" ∧ listed key) →
              ∃ names', Act.answerOf (Store.list bucket' directory m) = .ok names' ∧
                names.Perm names' := by
  intro w result
  -- the script bounds the pages that are asked for, and has a reply for each of them
  have hfuel : pages.length < Peer.extent w.store.peer + 1 := by
    change pages.length < (pages.map _ ++ last.reply :: rest).length + 1
    rw [List.length_append, List.length_map]
    omega
  obtain ⟨log', hpages⟩ :=
    pagesFrom_apply access bucket directory last rest pages none _ hfuel seen log
  have hresult : result = (pagesFrom bucket (directory ++ "/") (Peer.extent w.store.peer + 1) none
      >>= fun keys => pure (Names.below directory keys)) w := rfl
  rw [hresult, Act.stateOf_bind_pure, Act.bind_apply, hpages]
  cases last.failure? bucket directory (lastUrl access bucket directory none pages) with
  | some f => exact ⟨rfl, rfl⟩
  | none =>
    refine ⟨rfl, _, rfl, Names.nodup_below _ _, fun n => mem_below_keys_iff, ?_⟩
    intro m bucket' hkeys
    refine ⟨_, rfl, (List.perm_ext_iff_of_nodup (Names.nodup_below _ _)
      (Names.nodup_below _ _)).2 fun n => ?_⟩
    rw [mem_below_keys_iff]
    change _ ↔ n ∈ m.store.list bucket' directory
    rw [Memory.mem_list_iff, hkeys]
    exact (and_iff_right (below_ne_empty directory n)).symm

/-- What an answer holds is a page if it can be checked to be one. -/
theorem exists_sheet (parser : Parser) (body : Bytes) (page : Page)
    (h : (parser body).root?.any (fun root => root.IsListing ∧ Page.ofElement root = page) = true) :
    ∃ sheet : Sheet parser, sheet.answer.body = body ∧ Page.ofElement sheet.root = page := by
  obtain ⟨root, hroot, hcheck⟩ := (Option.any_eq_true ..).1 h
  obtain ⟨hlisting, hpage⟩ := of_decide_eq_true hcheck
  exact ⟨⟨⟨200, [], body⟩, root, rfl, Parsed.root?_eq_some_iff.1 hroot, hlisting⟩, rfl, hpage⟩

/-- A key that two pages list, one of them with a namespace, is one name. -/
theorem list_pages_of_repeated :
    ∃ (first : Continued Xml.parse) (second : Sheet Xml.parse)
      (h : ∀ token, ¬ second.root.Continues token),
      first.answer.body = Utf8.encodeText
        ("<ListBucketResult xmlns='u'><Contents><Key>r/a</Key></Contents><IsTruncated>true" ++
          "</IsTruncated><NextContinuationToken>t</NextContinuationToken></ListBucketResult>") ∧
      second.answer.body = Utf8.encodeText
        "<ListBucketResult><Contents><Key>r/a</Key></Contents></ListBucketResult>" ∧
      Act.answerOf (Store.list "b" "r" (⟨⟨⟨"https://s3.example.com", none, Pool.bare⟩, Xml.parse,
        ⟨[.answered first.answer, (LastReply.complete second h).reply], []⟩⟩, []⟩ :
          World (HttpStore Script))) = .ok ["a"] := by
  obtain ⟨first, hfirst, hfirstPage⟩ := exists_sheet Xml.parse
    (Utf8.encodeText
      ("<ListBucketResult xmlns='u'><Contents><Key>r/a</Key></Contents><IsTruncated>true" ++
        "</IsTruncated><NextContinuationToken>t</NextContinuationToken></ListBucketResult>"))
    ⟨["r/a"], some "t"⟩ (by decide +kernel)
  obtain ⟨second, hsecond, hsecondPage⟩ := exists_sheet Xml.parse
    (Utf8.encodeText "<ListBucketResult><Contents><Key>r/a</Key></Contents></ListBucketResult>")
    ⟨["r/a"], none⟩ (by decide +kernel)
  have hcontinues : first.root.Continues "t" :=
    (Page.nextOf_eq_some_iff first.isListing).1 (congrArg Page.next hfirstPage)
  have hlast : ∀ token, ¬ second.root.Continues token :=
    (Page.nextOf_eq_none_iff second.isListing).1 (congrArg Page.next hsecondPage)
  refine ⟨⟨first, "t", hcontinues⟩, second, hlast, hfirst, hsecond, ?_⟩
  obtain ⟨names, hnames, hnodup, hmem, -⟩ :=
    (list_pages Xml.parse _ "b" "r" [⟨first, "t", hcontinues⟩] (.complete second hlast) [] [] []).2
  have ha : ∀ n, n ∈ names ↔ n ∈ ["a"] := by
    intro n
    have hlists : ∀ sheet : Sheet Xml.parse, (Page.ofElement sheet.root).keys = ["r/a"] →
        (sheet.root.Lists ("r" ++ "/" ++ n) ↔ n = "a") := by
      intro sheet hkeys
      have hiff := Page.mem_keysOf_iff sheet.isListing ("r" ++ "/" ++ n)
      change _ ∈ (Page.ofElement sheet.root).keys ↔ _ at hiff
      have hkey : "r/a" = "r" ++ "/" ++ "a" := by decide
      rw [hkeys, List.mem_singleton, and_iff_right (below_ne_empty "r" n), hkey,
        String.append_right_inj] at hiff
      exact hiff.symm
    rw [hmem, List.mem_singleton]
    constructor
    · rintro ⟨sheet, hsheet, hlisted⟩
      rcases List.mem_pair.1 hsheet with hs | hs
      · exact (hlists sheet (hs ▸ congrArg Page.keys hfirstPage)).1 hlisted
      · exact (hlists sheet (hs ▸ congrArg Page.keys hsecondPage)).1 hlisted
    · intro hn
      exact ⟨first, List.mem_cons_self, (hlists first (congrArg Page.keys hfirstPage)).2 hn⟩
  have hperm : names.Perm ["a"] :=
    (List.perm_ext_iff_of_nodup hnodup (List.nodup_singleton "a")).2 ha
  rw [← List.perm_singleton.1 hperm]
  exact hnames

end HttpStore

end BlobRemote

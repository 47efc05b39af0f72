import Mathlib
import BlobRemote.Proofs.Ref.Scanning
import BlobRemote.Proofs.Store.History

/-!
# When advertised references agree with each other

A symbolic reference is filed together with the reference that it names as it is filed at that time.
A loose reference may take the place of a packed one later, and then the symbolic reference still
has the packed one. The references that are advertised are therefore not always coherent, and this
module says when they are (`BlobRemote.Database.advertised_coherent_iff`): exactly if no name that
is read before a packed name that has a blob as well, or is that name itself, leads to it.

A name *leads* to a packed one (`BlobRemote.Scan.Leads`) by a chain of symbolic references in which
the packed one is the first that is packed. One direction is an invariant of the scan
(`BlobRemote.Scan.Agreed`): what a symbolic reference has is what is filed, and it is not about to
be replaced. For the other direction, a name that leads to a packed reference is filed with it at
the end of its chain for as long as it is there (`BlobRemote.Scan.Stale`), and coherence would make
it what is filed at the end of the scan.
-/

namespace BlobRemote

/-- **References are coherent**: the reference that a symbolic one has is the one that is filed
under its name, if there is one. -/
def Refs.Coherent (refs : Refs) : Prop :=
  ∀ name r target, refs.get? name = some r → r.target? = some target →
    ∀ e, refs.get? target.name = some e → target = e

/-- **References that nobody has written yet** are all that symbolic references have besides those
that are filed. -/
def Refs.Grounded (refs : Refs) : Prop :=
  ∀ name r target, refs.get? name = some r → r.target? = some target →
    refs.get? target.name = none → target = Scan.unborn target.name

namespace Scan

/-- **A name leads to a packed reference** by a chain of symbolic references between which nothing
is packed. -/
inductive Leads (content : Bytes → Option Ref.Content) (packed : Refs) : Bytes → Bytes → Prop where
  /-- The reference names the packed one. -/
  | last {name p : Bytes} (h : content name = some (.symbolic p)) (hp : packed.get? p ≠ none) :
    Leads content packed name p
  /-- The reference names one that leads there and is not packed. -/
  | step {name target p : Bytes} (h : content name = some (.symbolic target))
    (htarget : packed.get? target = none) (hlead : Leads content packed target p) :
    Leads content packed name p

variable {content : Bytes → Option Ref.Content} {packed refs refs' : Refs} {name : Bytes}
  {found : Option Ref}

theorem Leads.content_eq {p : Bytes} (h : Leads content packed name p) :
    ∃ target, content name = some (.symbolic target) := by
  cases h with
  | last h hp => exact ⟨_, h⟩
  | step h htarget hlead => exact ⟨_, h⟩

theorem Leads.packed_ne_none {p : Bytes} (h : Leads content packed name p) :
    packed.get? p ≠ none := by
  induction h with
  | last h hp => exact hp
  | step h htarget hlead ih => exact ih

/-! ### What every scan keeps -/

/-- **What is filed under a name** has that name, and what it names is filed or nobody has written
it. -/
structure Sound (refs : Refs) : Prop where
  /-- References are filed under their names. -/
  name_eq : ∀ name r, refs.get? name = some r → r.name = name
  /-- What a symbolic reference has and is not filed is unwritten. -/
  grounded : refs.Grounded

theorem Sound.insert (h : Sound refs) {r : Ref} (hname : r.name = name)
    (htarget : ∀ target, r.target? = some target →
      refs.get? target.name = none → target = unborn target.name) :
    Sound (refs.insert name r) where
  name_eq k e he := by
    rw [Dict.get?_insert] at he
    split at he
    · next hk =>
      cases he
      rw [hname, hk]
    · exact h.name_eq k e he
  grounded k e target he hetarget hnone := by
    rw [Dict.get?_insert] at he hnone
    split at hnone
    · cases hnone
    · split at he
      · cases he
        exact htarget target hetarget hnone
      · exact h.grounded k e target he hetarget hnone

theorem Reads.sound (hread : Reads content refs name found refs') (h : Sound refs) :
    Sound refs' := by
  induction hread with
  | absent hc => exact h
  | object hc => exact h.insert rfl fun target htarget => by cases htarget
  | filed hc hr =>
    refine h.insert rfl fun target htarget hnone => ?_
    cases htarget
    rw [h.name_eq _ _ hr, hr] at hnone
    cases hnone
  | @followed refs' name target found hc hnone hread ih =>
    refine ih.insert rfl fun target htarget hn => ?_
    cases htarget
    cases found with
    | none => rfl
    | some r =>
      rw [Option.getD_some, hread.name_found, hread.get?_found] at hn
      cases hn

theorem ReadsAll.sound {names : List Bytes} (h : ReadsAll content refs names refs')
    (hs : Sound refs) : Sound refs' := by
  induction h with
  | nil => exact hs
  | cons hread _ ih => exact ih (hread.sound hs)

/-! ### If no name leads to a reference that is replaced later -/

/-- What a symbolic reference has is filed, or cannot be. -/
def Current (content : Bytes → Option Ref.Content) (refs : Refs) (target : Ref) : Prop :=
  refs.get? target.name = some target ∨
    refs.get? target.name = none ∧ content target.name = none ∧ target = unborn target.name

/-- There is only one reference of a name that a symbolic one can have. -/
theorem Current.eq_of_name_eq {r r' : Ref} (h : Current content refs r)
    (h' : Current content refs r') (hname : r.name = r'.name) : r = r' := by
  rw [Current, ← hname] at h'
  rcases h with hf | ⟨hf, -, hu⟩
  · rcases h' with hf' | ⟨hf', -, -⟩
    · rw [hf] at hf'
      exact Option.some.inj hf'
    · rw [hf] at hf'
      cases hf'
  · rcases h' with hf' | ⟨-, -, hu'⟩
    · rw [hf] at hf'
      cases hf'
    · rw [hu, hu']

/-- What a symbolic reference has is not about to be replaced: it is not packed under a name of
`pending` that has a blob. -/
def Settled (content : Bytes → Option Ref.Content) (packed : Refs) (pending : List Bytes)
    (target : Ref) : Prop :=
  packed.get? target.name ≠ none → target.name ∈ pending → content target.name = none

/-- A reference that is not packed is what reading its name gives. -/
inductive AsRead (content : Bytes → Option Ref.Content) (name : Bytes) : Ref → Prop where
  /-- The blob holds an object identifier. -/
  | object {objectId : Bytes} (h : content name = some (.object objectId)) :
    AsRead content name (looseRef name objectId none)
  /-- The blob names another reference. -/
  | symbolic {target : Ref} (h : content name = some (.symbolic target.name)) :
    AsRead content name (.symbolic name target)

theorem AsRead.content_ne_none {r : Ref} (h : AsRead content name r) : content name ≠ none := by
  cases h with
  | object h => exact h ▸ Option.some_ne_none _
  | symbolic h => exact h ▸ Option.some_ne_none _

/-- **What symbolic references have is what is filed**, and it is not about to be replaced in a turn
that is still to come. -/
structure Agreed (content : Bytes → Option Ref.Content) (packed : Refs) (pending : List Bytes)
    (refs : Refs) : Prop where
  /-- References are filed under their names. -/
  name_eq : ∀ name r, refs.get? name = some r → r.name = name
  /-- Nothing that is packed is missing. -/
  packed_le : ∀ p, refs.get? p = none → packed.get? p = none
  /-- Symbolic references have what is filed, for good. -/
  target : ∀ name r target, refs.get? name = some r → r.target? = some target →
    Current content refs target ∧ Settled content packed pending target
  /-- What is not packed is filed as it is read. -/
  asRead : ∀ name r, refs.get? name = some r → packed.get? name = none → AsRead content name r

namespace Agreed

variable {pending : List Bytes} {r : Ref}

/-- **A reference may be filed** if what it has is filed for good, and if it takes the place of
nothing, of itself, or of a packed reference in the turn of its name. -/
theorem insert (h : Agreed content packed pending refs) (hname : r.name = name)
    (htarget : ∀ target, r.target? = some target →
      Current content refs target ∧ Settled content packed pending target)
    (hread : packed.get? name = none → AsRead content name r) (hcontent : content name ≠ none)
    (hold : refs.get? name = none ∨ refs.get? name = some r ∨
      packed.get? name ≠ none ∧ name ∈ pending) :
    Agreed content packed pending (refs.insert name r) := by
  constructor
  case name_eq =>
    intro k e he
    rw [Dict.get?_insert] at he
    split at he
    · next hk =>
      cases he
      rw [hname, hk]
    · exact h.name_eq k e he
  case packed_le =>
    intro p hp
    rw [Dict.get?_insert] at hp
    split at hp
    · cases hp
    · exact h.packed_le p hp
  case target =>
    intro k e target he hetarget
    have hbefore : Current content refs target ∧ Settled content packed pending target := by
      rw [Dict.get?_insert] at he
      split at he
      · cases he
        exact htarget target hetarget
      · exact h.target k e target he hetarget
    obtain ⟨hcurrent, hsettled⟩ := hbefore
    refine ⟨?_, hsettled⟩
    rw [Current, Dict.get?_insert]
    by_cases hk : name = target.name
    · -- what is replaced is nothing that a symbolic reference has
      subst hk
      rw [if_pos rfl]
      rcases hcurrent with hfiled | ⟨-, hnone, -⟩
      · rcases hold with hold | hold | ⟨hp, hpending⟩
        · rw [hold] at hfiled
          cases hfiled
        · exact Or.inl (hold ▸ hfiled)
        · exact absurd (hsettled hp hpending) hcontent
      · exact absurd hnone hcontent
    · rw [if_neg hk]
      exact hcurrent
  case asRead =>
    intro k e he hk
    rw [Dict.get?_insert] at he
    split at he
    · next hn =>
      cases he
      subst hn
      exact hread hk
    · exact h.asRead k e he hk

/-- A name whose turn is over need not be looked at any more. -/
theorem mono (h : Agreed content packed pending refs) {rest : List Bytes} (hsub : rest ⊆ pending) :
    Agreed content packed rest refs where
  name_eq := h.name_eq
  packed_le := h.packed_le
  target name r target hr htarget := by
    obtain ⟨hcurrent, hsettled⟩ := h.target name r target hr htarget
    exact ⟨hcurrent, fun hp hmem => hsettled hp (hsub hmem)⟩
  asRead := h.asRead

/-- A direct reference that is read again is the one that is filed. -/
theorem looseRef_eq (h : Agreed content packed pending refs) {objectId : Bytes}
    (hc : content name = some (.object objectId)) (hp : packed.get? name = none) :
    looseRef name objectId (refs.get? name) = looseRef name objectId none ∧
      (refs.get? name = none ∨ refs.get? name = some (looseRef name objectId none)) := by
  cases hold : refs.get? name with
  | none => exact ⟨rfl, Or.inl rfl⟩
  | some old =>
    cases h.asRead name old hold hp with
    | object hc' =>
      rw [hc] at hc'
      cases hc'
      exact ⟨rfl, Or.inr rfl⟩
    | symbolic hc' =>
      rw [hc] at hc'
      cases hc'

/-- A symbolic reference that is read again is the one that is filed. -/
theorem symbolic_eq (h : Agreed content packed pending refs) {target : Ref}
    (hc : content name = some (.symbolic target.name)) (hcurrent : Current content refs target)
    (hp : packed.get? name = none) :
    refs.get? name = none ∨ refs.get? name = some (.symbolic name target) := by
  cases hold : refs.get? name with
  | none => exact Or.inl rfl
  | some old =>
    cases h.asRead name old hold hp with
    | object hc' =>
      rw [hc] at hc'
      cases hc'
    | @symbolic target' hc' =>
      rw [hc] at hc'
      have hname : target'.name = target.name := by simpa using hc'.symm
      rw [(h.target name _ target' hold rfl).1.eq_of_name_eq hcurrent hname]
      exact Or.inr rfl

/-- What reading a direct reference files. -/
theorem insert_object (h : Agreed content packed pending refs) {objectId : Bytes}
    (hc : content name = some (.object objectId))
    (hturn : packed.get? name ≠ none → name ∈ pending) :
    Agreed content packed pending
      (refs.insert name (looseRef name objectId (refs.get? name))) := by
  have hcontent := (AsRead.object hc).content_ne_none
  by_cases hp : packed.get? name = none
  · obtain ⟨hsame, hold⟩ := h.looseRef_eq hc hp
    rw [hsame]
    exact h.insert rfl (fun target htarget => by cases htarget) (fun _ => .object hc) hcontent
      (hold.imp_right Or.inl)
  · exact h.insert rfl (fun target htarget => by cases htarget) (fun hnone => absurd hnone hp)
      hcontent (Or.inr (Or.inr ⟨hp, hturn hp⟩))

/-- What reading a symbolic reference files. -/
theorem insert_symbolic (h : Agreed content packed pending refs) (target : Ref)
    (hc : content name = some (.symbolic target.name))
    (hturn : packed.get? name ≠ none → name ∈ pending) (hcurrent : Current content refs target)
    (hsettled : Settled content packed pending target) :
    Agreed content packed pending (refs.insert name (.symbolic name target)) := by
  have hread : AsRead content name (.symbolic name target) := .symbolic hc
  refine h.insert rfl ?_ (fun _ => hread) hread.content_ne_none ?_
  · intro target' htarget'
    cases htarget'
    exact ⟨hcurrent, hsettled⟩
  · by_cases hp : packed.get? name = none
    · exact (h.symbolic_eq hc hcurrent hp).imp_right Or.inl
    · exact Or.inr (Or.inr ⟨hp, hturn hp⟩)

end Agreed

/-- **Reading a reference keeps the agreement**, if the name whose turn it is does not lead to a
packed reference that is about to be replaced, and leads to wherever the name that is read does. -/
theorem Reads.agreed {pending : List Bytes} {turn : Bytes}
    (hread : Reads content refs name found refs') (h : Agreed content packed pending refs)
    (hno : ∀ p ∈ pending, Leads content packed turn p → content p = none)
    (hlead : ∀ p, Leads content packed name p → Leads content packed turn p)
    (hturn : packed.get? name ≠ none → name ∈ pending) :
    Agreed content packed pending refs' := by
  induction hread with
  | absent hc => exact h
  | object hc => exact h.insert_object hc hturn
  | @filed name target r hc hr =>
    obtain rfl := h.name_eq _ _ hr
    exact h.insert_symbolic r hc hturn (Or.inl hr)
      fun hp hpending => hno _ hpending (hlead _ (.last hc hp))
  | @followed refs' name target found hc hnone hread ih =>
    -- a name that is read on the way is not packed, for nothing is filed under it
    have hp := h.packed_le target hnone
    have h' := ih (fun p hlead' => hlead p (.step hc hp hlead')) (fun hne => absurd hp hne)
    cases found with
    | none =>
      obtain ⟨hcontent, rfl⟩ := hread.of_none
      exact h'.insert_symbolic (unborn target) hc hturn
        (Or.inr ⟨hnone, hcontent, rfl⟩) (fun hne => absurd hp hne)
    | some r =>
      obtain rfl := hread.name_found
      exact h'.insert_symbolic r hc hturn (Or.inl hread.get?_found) (fun hne => absurd hp hne)

/-- **No turn comes too early**: no name leads to itself, and none leads to a name with a blob whose
turn is later. -/
def Timely (content : Bytes → Option Ref.Content) (packed : Refs) (names : List Bytes) : Prop :=
  (∀ name ∈ names, ¬ Leads content packed name name) ∧
    names.Pairwise fun name p => Leads content packed name p → content p = none

theorem ReadsAll.agreed {names : List Bytes} (hreads : ReadsAll content refs names refs')
    (h : Agreed content packed names refs) (htimely : Timely content packed names) :
    Agreed content packed [] refs' := by
  induction hreads with
  | nil => exact h
  | @cons _ _ _ name rest _ hread _ ih =>
    obtain ⟨hself, hpairs⟩ := htimely
    rw [List.pairwise_cons] at hpairs
    have hno : ∀ p ∈ name :: rest, Leads content packed name p → content p = none := by
      intro p hp hlead
      rcases List.mem_cons.1 hp with rfl | hp
      · exact absurd hlead (hself p List.mem_cons_self)
      · exact hpairs.1 p hp hlead
    have h' := hread.agreed h hno (fun p hlead => hlead) (fun _ => List.mem_cons_self)
    exact ih (h'.mono (List.subset_cons_self _ _))
      ⟨fun n hn => hself n (List.mem_cons_of_mem _ hn), hpairs.2⟩

/-- **Packed references agree** with each other, for none of them is symbolic. -/
theorem agreed_packed {names : List Bytes} (hpacked : ∀ p r, packed.get? p = some r →
      ∃ objectId peeled, r = .direct p .packed (some objectId) peeled) :
    Agreed content packed names packed where
  name_eq p r hr := by
    obtain ⟨objectId, peeled, rfl⟩ := hpacked p r hr
    rfl
  packed_le p hp := hp
  target p r target hr htarget := by
    obtain ⟨objectId, peeled, rfl⟩ := hpacked p r hr
    cases htarget
  asRead p r hr hnone := by
    rw [hnone] at hr
    cases hr

/-! ### If a name leads to a reference that is replaced later -/

/-- **What leads to a packed reference ends in it** as long as it is filed. -/
structure Stale (content : Bytes → Option Ref.Content) (packed : Refs) (p : Bytes) (rp : Ref)
    (refs : Refs) : Prop where
  /-- The packed reference is filed. -/
  filed : refs.get? p = some rp
  /-- It is at the end of every chain that has been followed. -/
  leaf_eq : ∀ name r, refs.get? name = some r → packed.get? name ≠ some r →
    Leads content packed name p → r.leaf = rp

theorem Stale.insert {p : Bytes} {rp r : Ref} (h : Stale content packed p rp refs) (hp : name ≠ p)
    (hr : Leads content packed name p → r.leaf = rp) :
    Stale content packed p rp (refs.insert name r) where
  filed := by
    rw [Dict.get?_insert, if_neg hp]
    exact h.filed
  leaf_eq k e he hne hlead := by
    rw [Dict.get?_insert] at he
    split at he
    · next hk =>
      cases he
      exact hr (hk ▸ hlead)
    · exact h.leaf_eq k e he hne hlead

/-- **Reading a name that leads to a packed reference** ends in it. -/
theorem Reads.leaf_found {p : Bytes} {rp : Ref} (hread : Reads content refs name found refs')
    (h : Stale content packed p rp refs) (hleaf : rp.leaf = rp) :
    (Leads content packed name p → ∀ r, found = some r → r.leaf = rp) ∧
      (name ≠ p → Stale content packed p rp refs') := by
  induction hread with
  | absent hc => exact ⟨fun _ r hr => (by cases hr), fun _ => h⟩
  | @object name objectId hc =>
    have hnot : ¬ Leads content packed name p := by
      intro hlead
      obtain ⟨target, htarget⟩ := hlead.content_eq
      rw [hc] at htarget
      cases htarget
    exact ⟨fun hlead => absurd hlead hnot, fun hp => h.insert hp fun hlead => absurd hlead hnot⟩
  | @filed name target r hc hr =>
    have hr' : Leads content packed name p → (Ref.symbolic name r).leaf = rp := by
      intro hlead
      cases hlead with
      | last hc' hp =>
        rw [hc] at hc'
        cases hc'
        rw [h.filed] at hr
        cases hr
        exact hleaf
      | step hc' htarget hlead =>
        rw [hc] at hc'
        cases hc'
        refine h.leaf_eq target r hr ?_ hlead
        rw [htarget]
        exact (Option.some_ne_none r).symm
    exact ⟨fun hlead e he => by cases he; exact hr' hlead, fun hp => h.insert hp hr'⟩
  | @followed refs' name target found hc hnone hread ih =>
    -- the packed reference is filed, so a chain that ends in it does not read its name
    have htarget : target ≠ p := by
      rintro rfl
      rw [h.filed] at hnone
      cases hnone
    have hr' : Leads content packed name p → (symbolicTo name target found).leaf = rp := by
      intro hlead
      cases hlead with
      | last hc' hp =>
        rw [hc] at hc'
        cases hc'
        exact absurd rfl htarget
      | step hc' _ hlead =>
        rw [hc] at hc'
        cases hc'
        obtain ⟨target', htarget'⟩ := hlead.content_eq
        obtain ⟨r, rfl⟩ := hread.exists_found (by rw [htarget']; exact Option.some_ne_none _)
        exact ih.1 hlead r rfl
    exact ⟨fun hlead e he => by cases he; exact hr' hlead, fun hp => (ih.2 htarget).insert hp hr'⟩

/-- **A name with a blob is not packed any more** after its turn. -/
theorem ReadsAll.storage_of_mem {names : List Bytes} (h : ReadsAll content refs names refs')
    (hnodup : names.Nodup) {p : Bytes} (hp : p ∈ names) (hc : content p ≠ none) :
    ∃ e, refs'.get? p = some e ∧ e.storage ≠ .packed := by
  induction h with
  | nil => cases hp
  | @cons _ _ _ name rest found hread hrest ih =>
    obtain ⟨hname, hnodup⟩ := List.nodup_cons.1 hnodup
    rcases List.mem_cons.1 hp with rfl | hp
    · obtain ⟨r, rfl⟩ := hread.exists_found hc
      exact ⟨r, hrest.get?_of_notMem hname hread.get?_found, hread.storage_found⟩
    · exact ih hnodup hp

/-- What a reference ends in is filed, or nobody has written it, if references are coherent. -/
theorem Sound.leaf_filed (h : Sound refs) (hcoherent : refs.Coherent) {r : Ref}
    (hr : refs.get? name = some r) :
    refs.get? r.leaf.name = some r.leaf ∨ r.leaf = unborn r.leaf.name := by
  induction r generalizing name with
  | direct n storage objectId peeled =>
    have hname := h.name_eq _ _ hr
    change n = name at hname
    subst hname
    exact Or.inl hr
  | symbolic n target ih =>
    cases hfiled : refs.get? target.name with
    | none =>
      have htarget := h.grounded _ _ target hr rfl hfiled
      refine Or.inr ?_
      change target.leaf = unborn target.leaf.name
      rw [htarget]
      rfl
    | some e =>
      have he := hcoherent _ _ target hr rfl e hfiled
      subst he
      exact ih hfiled

/-- **If the references of a scan are coherent, no turn comes too early.** -/
theorem ReadsAll.timely {names : List Bytes} (h : ReadsAll content refs names refs')
    (hnodup : names.Nodup) (hsound : Sound refs') (hcoherent : refs'.Coherent)
    (hpacked : ∀ p r, packed.get? p = some r →
      ∃ objectId peeled, r = .direct p .packed (some objectId) peeled)
    (hstale : ∀ p ∈ names, ∀ rp, packed.get? p = some rp → Stale content packed p rp refs) :
    Timely content packed names := by
  induction h with
  | nil => exact ⟨fun name hname => (by cases hname), List.Pairwise.nil⟩
  | @cons _ _ _ name rest found hread hrest ih =>
    have hleaf : ∀ p rp, packed.get? p = some rp → rp.leaf = rp := by
      intro p rp hrp
      obtain ⟨objectId, peeled, rfl⟩ := hpacked p rp hrp
      rfl
    obtain ⟨hname, hrestnodup⟩ := List.nodup_cons.1 hnodup
    -- the name whose turn it is ends in the packed reference, which is not filed at the end
    have hfirst : ∀ p ∈ name :: rest, Leads content packed name p → content p = none := by
      intro p hp hlead
      by_contra hc
      obtain ⟨rp, hrp⟩ := Option.ne_none_iff_exists'.1 hlead.packed_ne_none
      obtain ⟨target, htarget⟩ := hlead.content_eq
      obtain ⟨r, rfl⟩ := hread.exists_found (by rw [htarget]; exact Option.some_ne_none _)
      have hr := (hread.leaf_found (hstale p hp rp hrp) (hleaf p rp hrp)).1 hlead r rfl
      obtain ⟨e, he, hstorage⟩ := (ReadsAll.cons hread hrest).storage_of_mem hnodup hp hc
      have hfiled := hsound.leaf_filed hcoherent
        (hrest.get?_of_notMem hname hread.get?_found)
      obtain ⟨objectId, peeled, rfl⟩ := hpacked p rp hrp
      rw [hr] at hfiled
      rcases hfiled with hfiled | hfiled
      · rw [Ref.name, he] at hfiled
        cases hfiled
        exact hstorage rfl
      · cases hfiled
    have hlater := ih hrestnodup hsound hcoherent fun p hp rp hrp =>
      (hread.leaf_found (hstale p (List.mem_cons_of_mem _ hp) rp hrp) (hleaf p rp hrp)).2
        fun he => hname (he ▸ hp)
    refine ⟨?_, List.pairwise_cons.2 ⟨?_, hlater.2⟩⟩
    · intro n hn hlead
      rcases List.mem_cons.1 hn with rfl | hn
      · obtain ⟨target, htarget⟩ := hlead.content_eq
        rw [hfirst n List.mem_cons_self hlead] at htarget
        cases htarget
      · exact hlater.1 n hn hlead
    · exact fun p hp hlead => hfirst p (List.mem_cons_of_mem _ hp) hlead

/-! ### Whole scans -/

/-- **A scan is coherent exactly if no turn comes too early**, when it begins with packed
references. -/
theorem ReadsAll.coherent_iff {names : List Bytes} (h : ReadsAll content packed names refs')
    (hnodup : names.Nodup)
    (hpacked : ∀ p r, packed.get? p = some r →
      ∃ objectId peeled, r = .direct p .packed (some objectId) peeled) :
    refs'.Grounded ∧ (refs'.Coherent ↔ Timely content packed names) := by
  have hagreed : Agreed content packed names packed := agreed_packed hpacked
  have hsound : Sound refs' := h.sound
    { name_eq := hagreed.name_eq
      grounded := fun p r target hr htarget hnone => by
        obtain ⟨objectId, peeled, rfl⟩ := hpacked p r hr
        cases htarget }
  refine ⟨hsound.grounded, ?_, ?_⟩
  · intro hcoherent
    refine h.timely hnodup hsound hcoherent hpacked fun p hp rp hrp => ⟨hrp, ?_⟩
    exact fun name r hr hne => absurd hr hne
  · intro htimely name r target hr htarget e he
    rcases ((h.agreed hagreed htimely).target name r target hr htarget).1 with
      hc | ⟨hnone, -, -⟩
    · rw [he] at hc
      cases hc
      rfl
    · rw [he] at hnone
      cases hnone

end Scan

namespace Database

/-- **When the references that a repository advertises are coherent.** What a symbolic reference has
besides references that are filed has not been written yet. That it has what is filed holds exactly
if no name leads to itself and none leads to a packed name with a blob of its own whose turn is
later. -/
theorem advertised_coherent_iff {d : Database} {s s' : Session Memory} {refs : Refs}
    (h : d.advertised s = .ok refs s') :
    refs.Grounded ∧
      (refs.Coherent ↔ Scan.Timely (Scan.content d s) (Scan.packedRefs d s) (Scan.turns d s)) := by
  obtain ⟨filed, hreads, rfl⟩ := readsAll_of_advertised h
  have hiff := hreads.coherent_iff (Scan.nodup_turns d s) fun p r hr => Scan.get?_packedRefs hr
  simpa only [Refs.Grounded, Refs.Coherent, Dict.get?_sort] using hiff

/-- A session on a repository with some blobs, by path. -/
def sessionOn (blobs : List (String × String)) : Session Memory :=
  { store := blobs.foldl (fun m b => m.put "b" ("p/" ++ b.1) (Utf8.encodeText b.2))
      (Memory.empty true 0)
    log := []
    manifest := Manifest.empty
    remote := ⟨"b", "p", none⟩
    closed := false }

/-- A repository with some blobs came about by writes. -/
theorem made_sessionOn (blobs : List (String × String)) :
    Memory.Made true 0 (sessionOn blobs).store := by
  have hput : ∀ m, Memory.Made true 0 m → Memory.Made true 0
      (blobs.foldl (fun m b => m.put "b" ("p/" ++ b.1) (Utf8.encodeText b.2)) m) := by
    induction blobs with
    | nil => exact fun m hm => hm
    | cons b rest ih => exact fun m hm => ih _ (hm.put _ _ _)
  exact hput _ .empty

/-- What is advertised of a repository with some blobs passes a check if what is filed after a scan
with the names that are listed does. -/
theorem advertised_sessionOn (blobs : List (String × String)) (names : List String)
    (check : Refs → Bool) (hlist : (sessionOn blobs).store.list "b" "p/refs" = names)
    (hsorted : names.Pairwise fun n n' => decide (¬ n' < n) = true)
    (hcheck : Act.passes (fun t => check t.refs)
      ((do
        Scan.readPacked ⟨"p/objects"⟩
        let _ ← Act.each (fun n => Scan.read ⟨"p/objects"⟩ (Scan.listedName n)) names
        let _ ← Scan.read ⟨"p/objects"⟩ Scan.headName : Act (Scan Memory) Unit)
          ⟨sessionOn blobs, Dict.empty⟩) = true) :
    ∃ filed s', (Database.mk "p/objects").advertised (sessionOn blobs) = .ok filed.sort s' ∧
      check filed = true := by
  have hnames : Names.sorted ((sessionOn blobs).store.list "b" "p/refs") = names := by
    rw [hlist]
    exact List.mergeSort_of_pairwise hsorted
  have hkey : Key.resolve "p/objects" Scan.refsPath = .ok "p/refs" := by decide +kernel
  obtain ⟨_, t, hrun, ht⟩ := Act.exists_of_passes hcheck
  refine ⟨t.refs, t.toSession, ?_, ht⟩
  rw [advertised, Scan.readAll_apply hkey hnames, hrun]

/-- A repository in which a loose reference hides a packed one, and the current branch is that
reference. -/
def shadowing : List (String × String) :=
  [("packed-refs", "1111111111111111111111111111111111111111 refs/heads/b\n"),
    ("refs/heads/b", "2222222222222222222222222222222222222222\n"),
    ("HEAD", "ref: refs/heads/b\n")]

/-- The current branch, which is read last, has the loose reference. -/
theorem advertised_coherent_iff_of_head :
    ∃ refs s', (Database.mk "p/objects").advertised (sessionOn shadowing) = .ok refs s' ∧
      refs.Coherent := by
  have hlist : (sessionOn shadowing).store.list "b" "p/refs" = ["heads/b"] := by decide +kernel
  obtain ⟨filed, s', hrun, -⟩ := advertised_sessionOn shadowing ["heads/b"] (fun _ => true) hlist
    (by decide +kernel) (by decide +kernel)
  refine ⟨filed.sort, s', hrun, (advertised_coherent_iff hrun).2.2 ?_⟩
  have hkey : Key.resolve "p/objects" Scan.refsPath = .ok "p/refs" := by decide +kernel
  have hturns : Scan.turns ⟨"p/objects"⟩ (sessionOn shadowing) =
      [Scan.listedName "heads/b", Scan.headName] := by
    rw [Scan.turns, Scan.listedNames, hkey]
    dsimp only
    rw [show (sessionOn shadowing).remote.bucket = "b" from rfl, hlist, Names.sorted,
      List.mergeSort_singleton]
    rfl
  have hb : ∀ p, ¬ Scan.Leads (Scan.content ⟨"p/objects"⟩ (sessionOn shadowing))
      (Scan.packedRefs ⟨"p/objects"⟩ (sessionOn shadowing)) (Scan.listedName "heads/b") p := by
    intro p hlead
    have hc : Scan.content ⟨"p/objects"⟩ (sessionOn shadowing) (Scan.listedName "heads/b") =
        some (.object (Utf8.encodeText "2222222222222222222222222222222222222222")) := by
      decide +kernel
    obtain ⟨target, htarget⟩ := hlead.content_eq
    rw [hc] at htarget
    cases htarget
  have hhead : Scan.content ⟨"p/objects"⟩ (sessionOn shadowing) Scan.headName =
      some (.symbolic (Scan.listedName "heads/b")) := by decide +kernel
  rw [hturns, Scan.Timely]
  refine ⟨fun name hname hlead => ?_, ?_⟩
  · rcases List.mem_cons.1 hname with rfl | hname
    · exact hb _ hlead
    · rw [List.mem_singleton.1 hname] at hlead
      cases hlead with
      | last hc hp =>
        rw [hhead] at hc
        exact absurd (Option.some.inj hc) (by decide +kernel)
      | step hc _ hlead =>
        rw [hhead] at hc
        cases hc
        exact hb _ hlead
  · exact List.pairwise_cons.2 ⟨fun p _ hlead => absurd hlead (hb p), List.pairwise_singleton _ _⟩

/-- **Not every repository has coherent references**: a loose reference `a` that names `b` is read
before `b`, and has the packed reference of that name, which the loose one replaces later. -/
theorem not_coherent_of_replaced :
    ∃ refs s', (Database.mk "p/objects").advertised (sessionOn
        [("packed-refs", "1111111111111111111111111111111111111111 refs/heads/b\n"),
          ("refs/heads/a", "ref: refs/heads/b\n"),
          ("refs/heads/b", "2222222222222222222222222222222222222222\n")]) = .ok refs s' ∧
      ¬ refs.Coherent := by
  obtain ⟨filed, s', hrun, hcheck⟩ := advertised_sessionOn
    [("packed-refs", "1111111111111111111111111111111111111111 refs/heads/b\n"),
      ("refs/heads/a", "ref: refs/heads/b\n"),
      ("refs/heads/b", "2222222222222222222222222222222222222222\n")]
    ["heads/a", "heads/b"]
    (fun refs => decide
      (refs.get? (Scan.listedName "heads/a") = some (.symbolic (Scan.listedName "heads/a")
          (.direct (Scan.listedName "heads/b") .packed
            (some (Utf8.encodeText "1111111111111111111111111111111111111111")) none)) ∧
        refs.get? (Scan.listedName "heads/b") = some
          (.direct (Scan.listedName "heads/b") .loosePacked
            (some (Utf8.encodeText "2222222222222222222222222222222222222222")) none)))
    (by decide +kernel) (by decide +kernel) (by decide +kernel)
  obtain ⟨ha, hb⟩ := of_decide_eq_true hcheck
  refine ⟨filed.sort, s', hrun, fun hcoherent => ?_⟩
  have he := hcoherent _ _ _ ((Dict.get?_sort _ _).trans ha) rfl _ ((Dict.get?_sort _ _).trans hb)
  cases he

end Database

end BlobRemote

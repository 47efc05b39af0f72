import Mathlib
import BlobRemote.Proofs.Session.Lifetime
import BlobRemote.Store.Memory
import BlobRemote.Store.Memory

/-!
# Loading the manifest is all or nothing

A manifest is loaded in one of three ways (`BlobRemote.Tracking.load_all_or_nothing`): there is no
blob, and nothing changes; the blob is a property file, and its entries overlay those at hand; or the
manifest cannot be read, the caller is told so with the cause behind it, and nothing changes. That is
so for every store and for all bytes of the blob, as long as a stream breaks off only because the
system failed: every fault of a property file is one of a value, and the entries at hand are touched
only when the whole file has been read.

Which of the three it is, is a matter of what the store hands out
(`BlobRemote.Tracking.Finds`), and that matter is settled in one way only
(`BlobRemote.Tracking.Finds.unique`).
-/

namespace BlobRemote

namespace Tracking

/-- How loading the manifest ends. -/
inductive Loading where
  /-- There is no blob. -/
  | absent
  /-- The blob has these entries. -/
  | overlaid (found : Dict String String)
  /-- The manifest cannot be read. -/
  | refused (cause : Failure)

variable {σ : Type} [Store σ] {bucket key : String}

/-- **A blob that is opened arrives**, unless the system fails: its stream breaks off for no other
reason. The store may refuse to open the blob for any reason. -/
def Arrives (bucket key : String) (w : World σ) : Prop :=
  ∀ stream told w', Store.get bucket key none w = .ok (stream, told) w' →
    ∀ f, stream.content = .error f → f.reason.isSystem = true

/-- **What the store hands out** for the manifest: nothing at all, the bytes of a property file, or
something that cannot be read. -/
inductive Finds (bucket key : String) (w : World σ) : Loading → Prop where
  /-- There is no such blob. -/
  | absent {f : Failure} {w' : World σ} (hget : Store.get bucket key none w = .error f w')
      (hf : f.reason.isNotFound = true) : Finds bucket key w .absent
  /-- The bytes are a property file. -/
  | overlaid {stream : Stream} {told : Option String} {w' : World σ} {data : Bytes}
      {found : Dict String String} (hget : Store.get bucket key none w = .ok (stream, told) w')
      (hdata : stream.content = .ok data) (hread : Property.read data = .ok found) :
      Finds bucket key w (.overlaid found)
  /-- The store does not open the blob. -/
  | unopened {f : Failure} {w' : World σ} (hget : Store.get bucket key none w = .error f w')
      (hf : f.reason.isNotFound = false) : Finds bucket key w (.refused f)
  /-- The stream breaks off. -/
  | broken {stream : Stream} {told : Option String} {w' : World σ} {f : Failure}
      (hget : Store.get bucket key none w = .ok (stream, told) w')
      (hdata : stream.content = .error f) : Finds bucket key w (.refused f)
  /-- The bytes are no property file. -/
  | illegible {stream : Stream} {told : Option String} {w' : World σ} {data : Bytes}
      {fault : Property.Fault} (hget : Store.get bucket key none w = .ok (stream, told) w')
      (hdata : stream.content = .ok data) (hread : Property.read data = .error fault) :
      Finds bucket key w (.refused (Reason.property fault).alone)

/-- **What loading the manifest comes to** for the caller and for the entries at hand. -/
def Loading.Leads (key : String) (old : Manifest)
    (r : EStateM.Result Failure (Tracking σ) Unit) : Loading → Prop
  | .absent => Act.answerOf r = .ok () ∧ (Act.stateOf r).manifest = old
  | .overlaid found =>
    Act.answerOf r = .ok () ∧
      (∀ k, (Act.stateOf r).manifest.version? k = (found.get? k).or (old.version? k)) ∧
      (Act.stateOf r).manifest.dirty = old.dirty
  | .refused cause =>
    Act.answerOf r = .error (cause.behind (.manifestLoad key)) ∧ (Act.stateOf r).manifest = old

/-- The store always hands out something of these. -/
theorem exists_finds (bucket key : String) (w : World σ) : ∃ o, Finds bucket key w o := by
  rcases hget : Store.get bucket key none w with ⟨⟨stream, told⟩, w'⟩ | ⟨f, w'⟩
  · rcases hdata : stream.content with f | data
    · exact ⟨_, .broken hget hdata⟩
    · rcases hread : Property.read data with fault | found
      · exact ⟨_, .illegible hget hdata hread⟩
      · exact ⟨_, .overlaid hget hdata hread⟩
  · rcases hf : f.reason.isNotFound
    · exact ⟨_, .unopened hget hf⟩
    · exact ⟨_, .absent hget hf⟩

/-- **What the store hands out is one thing only.** -/
theorem Finds.unique {w : World σ} {o o' : Loading} (h : Finds bucket key w o)
    (h' : Finds bucket key w o') : o = o' := by
  -- Two answers of the store to one call agree, and so do the contents and the entries in them.
  rcases h with ⟨hget, hf⟩ | ⟨hget, hdata, hread⟩ | ⟨hget, hf⟩ | ⟨hget, hdata⟩ |
      ⟨hget, hdata, hread⟩ <;>
    rcases h' with ⟨hget', hf'⟩ | ⟨hget', hdata', hread'⟩ | ⟨hget', hf'⟩ | ⟨hget', hdata'⟩ |
      ⟨hget', hdata', hread'⟩ <;>
    simp_all

/-- A fault of a property file is one of a value, so loading takes it for a broken manifest. -/
theorem isUnreadable_property (fault : Property.Fault) :
    isUnreadable (Reason.property fault).alone = true := rfl

/-- **Loading comes to what the store hands out.** -/
theorem leads_of_finds {t : Tracking σ} (h : Arrives bucket key t.toWorld) {o : Loading}
    (ho : Finds bucket key t.toWorld o) : o.Leads key t.manifest (load bucket key t) := by
  rw [load_apply]
  rcases ho with ⟨hget, hf⟩ | ⟨hget, hdata, hread⟩ | ⟨hget, hf⟩ | ⟨hget, hdata⟩ |
    ⟨hget, hdata, hread⟩ <;> rw [hget]
  · dsimp only
    rw [if_pos hf]
    exact ⟨rfl, rfl⟩
  · simp only [parse, hdata, hread, Except.mapError]
    exact ⟨rfl, fun k => Dict.get?_overlay _ _ k, rfl⟩
  · dsimp only
    rw [if_neg (by rw [hf]; decide)]
    exact ⟨rfl, rfl⟩
  · simp only [parse, hdata, isUnreadable, h _ _ _ hget _ hdata, Bool.true_or, if_true]
    exact ⟨rfl, rfl⟩
  · simp only [parse, hdata, hread, Except.mapError, isUnreadable_property, if_true]
    exact ⟨rfl, rfl⟩

/-- **Loading the manifest is all or nothing.** Whatever the store answers and whatever the bytes of
the blob are, exactly one of three things is so: the blob is absent and the manifest stays as it is;
the blob is a property file, its entries overlay those at hand and the manifest is as dirty as
before; or the caller is told that the manifest cannot be read, and it stays as it is. -/
theorem load_all_or_nothing (bucket key : String) (t : Tracking σ)
    (h : Arrives bucket key t.toWorld) :
    ∃! o : Loading,
      Finds bucket key t.toWorld o ∧ o.Leads key t.manifest (load bucket key t) := by
  obtain ⟨o, ho⟩ := exists_finds bucket key t.toWorld
  exact ⟨o, ⟨ho, leads_of_finds h ho⟩, fun o' ho' => ho'.1.unique ho⟩

/-- A dirty manifest whose blob has a good entry on its first line and an escape that is cut short on
its second. -/
def torn : Tracking Memory where
  store := (Memory.empty true 0).put "b" "p.manifest" (Utf8.encodeText "k=v2\nx=\\u12")
  log := []
  manifest := ⟨Dict.ofList [("k", "v1")], true⟩

theorem get_torn :
    Store.get "b" "p.manifest" none torn.toWorld =
      .ok (.buffered (Utf8.encodeText "k=v2\nx=\\u12"), some "v1") torn.toWorld := by
  rfl

theorem arrives_torn : Arrives "b" "p.manifest" torn.toWorld := by
  rintro stream told w' hget f hf
  rw [get_torn] at hget
  cases hget
  cases hf

theorem load_torn_all_or_nothing :
    Arrives "b" "p.manifest" torn.toWorld ∧
      Finds "b" "p.manifest" torn.toWorld
        (.refused (Reason.property (.shortEscape "\\u12")).alone) ∧
      ∃! o : Loading, Finds "b" "p.manifest" torn.toWorld o ∧
        o.Leads "p.manifest" torn.manifest (load "b" "p.manifest" torn) :=
  ⟨arrives_torn, .illegible get_torn rfl rfl,
    load_all_or_nothing "b" "p.manifest" torn arrives_torn⟩

end Tracking

end BlobRemote

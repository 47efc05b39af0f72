import Mathlib
import BlobRemote.Console.Program
import BlobRemote.Proofs.Http.Overheard
import BlobRemote.Proofs.Session.Lifetime

/-!
# The program only reads

No command writes to the store or deletes from it, on a store of any kind
(`BlobRemote.Command.leaves_report`). So a run of the program, whatever its command line, its
surroundings and its server are, asks the server for nothing but to get what is there
(`BlobRemote.Program.changes_run`).
-/

namespace BlobRemote

namespace Command

variable {σ γ : Type} [Store σ] {part : World σ → γ}

/-- **A command leaves what reads and listings leave.** -/
theorem leaves_report (h : ReadsLeave part) (symrefs : Bool) (c : Command) :
    Act.Leaves (Session.around part) (c.report symrefs) := by
  cases c with
  | lsPacks =>
    refine (Database.leaves_connect h).bind fun connected => ?_
    exact (Database.leaves_packNames h connected.1).bind fun names => Act.Leaves.pure _
  | lsRemote => exact (Database.leaves_connect h).bind fun connected => Act.Leaves.pure _
  | manifest => exact Act.Leaves.get.bind fun s => Act.Leaves.pure _

end Command

namespace Program

variable {π : Type} [Peer π] (s : Surroundings) (peer : Overheard π)

theorem changes_perform (ini : Option Ini) (c : Command) (symrefs : Bool) (url : String) :
    (perform s ini peer c symrefs url).peer.changes = peer.changes := by
  rw [perform]
  cases locate s ini url with
  | error r => rfl
  | ok located =>
    obtain ⟨access, remote⟩ := located
    have hleaves := Session.leaves_during s.stamp HttpStore.readsLeave_changes remote
      (Command.leaves_report (HttpStore.readsLeave_changes (π := π)) symrefs c)
      ⟨⟨access, s.parser, peer⟩, []⟩
    dsimp only
    cases hr : Session.during remote s.stamp (c.report symrefs)
        (⟨⟨access, s.parser, peer⟩, []⟩ : World (HttpStore (Overheard π))) <;>
      (rw [hr] at hleaves; exact hleaves)

theorem changes_runCommand (l : Logging) (o : Output) (ini : Option Ini) (c : Command)
    (args : List String) : (runCommand s l o ini peer c args).peer.changes = peer.changes := by
  rw [runCommand]
  cases c.grammar.parse args with
  | error why => rfl
  | ok p => exact changes_perform s peer ini c _ p.operand

theorem changes_dispatch (l : Logging) (o : Output) (p : Grammar.Parsed Choice) :
    (dispatch s l o peer p).peer.changes = peer.changes := by
  rw [dispatch]
  cases Command.ofName? p.operand with
  | none => rfl
  | some c =>
    dsimp only
    cases loadConfig s p with
    | error fault => rfl
    | ok ini => exact changes_runCommand s peer l o ini c p.rest

/-- **A run of the program** sends no request but to get what is there. -/
theorem changes_run (args : List String) : (run s peer args).peer.changes = peer.changes := by
  rw [run]
  cases Command.programGrammar.parse args with
  | error why => rfl
  | ok p => exact changes_dispatch s peer _ _ p

end Program

end BlobRemote

import Wgd.Dns.SweepConduct
import Wgd.Store.Commands

/-! One-shot DNS repair (`sweep_once_and_clean` in `privileged/dns_sweep.rs`): a sweep without watches, after
which the custody directory is removed if no record is left in it. -/

set_option autoImplicit false

namespace Wgd.Dns

open Wgd.Helper Wgd.Interaction Wgd.Store

/-- What a repair does beside the sweep. -/
inductive RepairOp where
  | removeWatch
  | lockNetwork
  | unlockNetwork
  /-- Clear the active marker of a connection whose helper died; a failure is only logged. -/
  | clearDeadActive (id : ConnectionId) (interface : String)
  | connectionName (id : ConnectionId)
  | removeCustodyDir

@[reducible] def RepairOp.Reply : RepairOp → Type
  | .removeWatch | .lockNetwork | .removeCustodyDir => Except String Unit
  | .unlockNetwork | .clearDeadActive _ _ => Unit
  | .connectionName _ => Option String

abbrev repairOnly : Commands := ⟨RepairOp, RepairOp.Reply⟩

abbrev repairCommands : Commands := dnsCommands.sum repairOnly

abbrev RepairProgram (A : Type) := Program repairCommands A

structure RepairDir where
  /-- The record files, by the interface in their name. -/
  files : String → Option RecordRead
  /-- A ghost of what has been put back and seen. -/
  sweeper : Sweeper

/-- What a command does to the record files. Everything may fail but the read of a file that is there. -/
def filesAnswer (files : String → Option RecordRead) (op : DnsOp) (reply : op.Reply) (after : String → Option RecordRead) :
    Prop :=
  match op, reply with
  | .recordPaths, .ok paths => (∀ path, path ∈ paths ↔ files path ≠ none) ∧ after = files
  | .readRecord path, .ok file => files path = some file ∧ after = files
  | .readRecord path, .error _ => files path = none ∧ after = files
  | .writeRecord record, .ok () => after = Function.update files record.interface (some (.record record))
  | .writeRecord record, .error _ =>
    after = files ∨ after = Function.update files record.interface (some (.record record))
  | .removeRecord path, .ok () => after = Function.update files path none
  | .removeRecord path, .error _ => after = files ∨ after = Function.update files path none
  | .quarantineRecord path, .ok () => after = Function.update files path none
  | _, _ => after = files

def custodyAnswer : Environment dnsCommands RepairDir := fun dir op reply after =>
  filesAnswer dir.files op reply after.files ∧ sweepDiscipline dir.sweeper op reply after.sweeper

/-- The removal of the directory may fail after any of its files. -/
def repairAnswer : Environment repairOnly RepairDir := fun dir op reply after =>
  match op, reply with
  | .removeCustodyDir, .ok () => after = { dir with files := fun _ => none }
  | .removeCustodyDir, .error _ =>
    (∀ path, after.files path = none ∨ after.files path = dir.files path) ∧ after.sweeper = dir.sweeper
  | _, _ => after = dir

abbrev custodyHost : Environment repairCommands RepairDir := custodyAnswer.both repairAnswer

/-- A record of this interface has all its entries settled, or is still there with those that are not; a
file of an unknown version is as it was. Nothing is owed to any other file. -/
def Owed (sweeper : Sweeper) (path : String) (now : Option RecordRead) : RecordRead → Prop
  | .record record => record.interface = path →
      (∀ entry ∈ record.services, sweeper.Settled record entry) ∨
        ∃ services, now = some (.record { record with services := services }) ∧
          ∀ entry ∈ record.services, entry ∈ services ∨ sweeper.Settled record entry
  | .unsupportedVersion version => now = some (.unsupportedVersion version)
  | .corrupt _ => True

variable {sweeper next : Sweeper} {start : String → Option RecordRead} {dir after : RepairDir} {path : String}
  {file : RecordRead} {now : Option RecordRead}

/-- What is put back and seen only grows. -/
structure Sweeper.Later (sweeper next : Sweeper) : Prop where
  back : sweeper.back ⊆ next.back
  seen : sweeper.seen ⊆ next.seen

theorem Sweeper.Later.settled {record : DnsCustodyRecord} {entry : DnsCustodyService} (later : sweeper.Later next)
    (settled : sweeper.Settled record entry) : next.Settled record entry := by
  cases settled with
  | inl back => exact .inl (later.back back)
  | inr changed =>
    obtain ⟨live, seen, differs⟩ := changed
    exact .inr ⟨live, later.seen seen, differs⟩

theorem Owed.later (later : sweeper.Later next) (owed : Owed sweeper path now file) : Owed next path now file := by
  cases file with
  | record record =>
    intro own
    cases owed own with
    | inl all => exact .inl fun entry member => later.settled (all entry member)
    | inr left =>
      obtain ⟨services, there, each⟩ := left
      exact .inr ⟨services, there, fun entry member => (each entry member).imp id later.settled⟩
  | unsupportedVersion version => exact owed
  | corrupt reason => trivial

/-- Where no record of the interface and no file of an unknown version is left, nothing is owed any more. -/
theorem Owed.gone (owed : Owed sweeper path now file) (record : ∀ record, now = some (.record record) → record.interface ≠ path)
    (version : ∀ version, now ≠ some (.unsupportedVersion version)) : Owed sweeper path none file := by
  cases file with
  | record old =>
    intro own
    cases owed own with
    | inl all => exact .inl all
    | inr left =>
      obtain ⟨services, there, -⟩ := left
      have other := record _ there
      exact absurd own other
  | unsupportedVersion old => exact absurd owed (version old)
  | corrupt reason => trivial

/-- A record that is cut down to what is not settled is owed no more than that. -/
theorem Owed.cut {held : DnsCustodyRecord} {services : List DnsCustodyService} (owed : Owed sweeper path (some (.record held)) file)
    (cuts : ∀ entry ∈ held.services, entry ∈ services ∨ sweeper.Settled held entry) :
    Owed sweeper path (some (.record { held with services := services })) file := by
  cases file with
  | record record =>
    intro own
    cases owed own with
    | inl all => exact .inl all
    | inr left =>
      obtain ⟨kept, there, each⟩ := left
      cases there
      exact .inr ⟨services, rfl, fun entry member => (each entry member).elim (cuts entry) .inr⟩
  | unsupportedVersion version => cases owed
  | corrupt reason => trivial

theorem Owed.removed {held : DnsCustodyRecord} (owed : Owed sweeper path (some (.record held)) file)
    (settled : ∀ entry ∈ held.services, sweeper.Settled held entry) : Owed sweeper path none file := by
  cases file with
  | record record =>
    intro own
    cases owed own with
    | inl all => exact .inl all
    | inr left =>
      obtain ⟨kept, there, each⟩ := left
      cases there
      exact .inl fun entry member => (each entry member).elim (settled entry) id
  | unsupportedVersion version => cases owed
  | corrupt reason => trivial

/-! ### The sweep -/

/-- What the sweep knows agrees with the directory, and everything is kept that is owed. -/
structure Guards (start : String → Option RecordRead) (sweeper : Sweeper) (dir : RepairDir) : Prop where
  ghost : dir.sweeper = sweeper
  kept : ∀ path file, start path = some file → Owed sweeper path (dir.files path) file
  held : ∀ path record, sweeper.held path = some record → record.interface = path →
    dir.files path = some (.record record) ∧ sweeper.broken path = false
  odd : ∀ path record, sweeper.held path = some record → record.interface ≠ path → sweeper.broken path = true
  broken : ∀ path, sweeper.broken path = true → ∀ file, start path = some file → Owed sweeper path none file

namespace Guards

theorem init (start : String → Option RecordRead) : Guards start .start ⟨start, .start⟩ := by
  refine ⟨rfl, fun path file there => ?_, ?_, ?_, ?_⟩
  · dsimp only
    rw [there]
    cases file with
    | record record => exact fun _ => .inr ⟨record.services, rfl, fun _ member => .inl member⟩
    | unsupportedVersion version => rfl
    | corrupt reason => trivial
  · intro path record held
    cases held
  · intro path record held
    cases held
  · intro path broken
    cases broken

/-- A step that tells more and touches no file. -/
theorem tells (guards : Guards start sweeper dir) (later : sweeper.Later next) (held : next.held = sweeper.held)
    (broken : next.broken = sweeper.broken) : Guards start next ⟨dir.files, next⟩ := by
  refine ⟨rfl, fun path file there => (guards.kept path file there).later later, ?_, ?_, ?_⟩
  · rw [held, broken]
    exact guards.held
  · rw [held, broken]
    exact guards.odd
  · rw [broken]
    exact fun path bad file there => (guards.broken path bad file there).later later

/-- A read, with what it finds. -/
theorem reads (guards : Guards start sweeper dir) {held : Option DnsCustodyRecord} {broken : Bool}
    (finds : ∀ record, held = some record → record.interface = path →
      dir.files path = some (.record record) ∧ broken = false)
    (misnamed : ∀ record, held = some record → record.interface ≠ path → broken = true)
    (bad : broken = true → (∀ record, dir.files path = some (.record record) → record.interface ≠ path) ∧
      ∀ version, dir.files path ≠ some (.unsupportedVersion version)) :
    Guards start { sweeper with
      held := Function.update sweeper.held path held, broken := Function.update sweeper.broken path broken }
      ⟨dir.files, { sweeper with
        held := Function.update sweeper.held path held, broken := Function.update sweeper.broken path broken }⟩ := by
  have later : sweeper.Later { sweeper with
      held := Function.update sweeper.held path held, broken := Function.update sweeper.broken path broken } :=
    ⟨List.Subset.refl _, List.Subset.refl _⟩
  refine ⟨rfl, fun other file there => (guards.kept other file there).later later, ?_, ?_, ?_⟩
  · intro other record has own
    dsimp only at has ⊢
    by_cases here : other = path
    · subst here
      rw [Function.update_self] at has ⊢
      exact finds record has own
    · rw [Function.update_of_ne here] at has ⊢
      exact guards.held other record has own
  · intro other record has odd
    dsimp only at has ⊢
    by_cases here : other = path
    · subst here
      rw [Function.update_self] at has ⊢
      exact misnamed record has odd
    · rw [Function.update_of_ne here] at has ⊢
      exact guards.odd other record has odd
  · intro other wrong file there
    dsimp only at wrong
    by_cases here : other = path
    · subst here
      rw [Function.update_self] at wrong
      obtain ⟨record, version⟩ := bad wrong
      exact ((guards.kept other file there).gone record version).later later
    · rw [Function.update_of_ne here] at wrong
      exact (guards.broken other wrong file there).later later

/-- A path is forgotten, and its file becomes something that is still what was owed. -/
theorem replaces (guards : Guards start sweeper dir) (owed : ∀ file, start path = some file → Owed sweeper path now file) :
    Guards start { sweeper with held := Function.update sweeper.held path none }
      ⟨Function.update dir.files path now, { sweeper with held := Function.update sweeper.held path none }⟩ := by
  have later : sweeper.Later { sweeper with held := Function.update sweeper.held path none } :=
    ⟨List.Subset.refl _, List.Subset.refl _⟩
  refine ⟨rfl, ?_, ?_, ?_, ?_⟩
  · intro other file there
    dsimp only
    by_cases here : other = path
    · subst here
      rw [Function.update_self]
      exact (owed file there).later later
    · rw [Function.update_of_ne here]
      exact (guards.kept other file there).later later
  · intro other record has own
    dsimp only at has ⊢
    by_cases here : other = path
    · subst here
      simp at has
    · rw [Function.update_of_ne here] at has ⊢
      exact guards.held other record has own
  · intro other record has odd
    dsimp only at has ⊢
    by_cases here : other = path
    · subst here
      simp at has
    · rw [Function.update_of_ne here] at has
      exact guards.odd other record has odd
  · exact fun other wrong file there => (guards.broken other wrong file there).later later

theorem forgets (guards : Guards start sweeper dir) (path : String) :
    Guards start { sweeper with held := Function.update sweeper.held path none }
      ⟨dir.files, { sweeper with held := Function.update sweeper.held path none }⟩ := by
  have same := guards.replaces (guards.kept path)
  rwa [Function.update_eq_self] at same

/-- A file that is no record of its interface is moved away. -/
theorem quarantines (guards : Guards start sweeper dir) (bad : sweeper.broken path = true) :
    Guards start sweeper ⟨Function.update dir.files path none, sweeper⟩ := by
  refine ⟨rfl, ?_, ?_, guards.odd, guards.broken⟩
  · intro other file there
    dsimp only
    by_cases here : other = path
    · subst here
      rw [Function.update_self]
      exact guards.broken other bad file there
    · rw [Function.update_of_ne here]
      exact guards.kept other file there
  · intro other record has own
    obtain ⟨found, sound⟩ := guards.held other record has own
    have apart : other ≠ path := by
      intro here
      rw [here, bad] at sound
      cases sound
    dsimp only
    rw [Function.update_of_ne apart]
    exact ⟨found, sound⟩

/-- A removal is only allowed once everything in the record is settled. -/
theorem removes (guards : Guards start sweeper dir) (allowed : sweepAllows sweeper (.removeRecord path)) (file : RecordRead)
    (there : start path = some file) : Owed sweeper path none file := by
  obtain ⟨record, held, cuts⟩ := allowed
  by_cases own : record.interface = path
  · have owed := guards.kept path file there
    rw [(guards.held path record held own).1] at owed
    exact owed.removed fun entry member => (cuts entry member).resolve_left List.not_mem_nil
  · exact guards.broken path (guards.odd path record held own) file there

/-- A write only cuts a record down to what is not settled. -/
theorem writes (guards : Guards start sweeper dir) {record : DnsCustodyRecord} (allowed : sweepAllows sweeper (.writeRecord record))
    (file : RecordRead) (there : start record.interface = some file) :
    Owed sweeper record.interface (some (.record record)) file := by
  obtain ⟨⟨old, held, cuts⟩, old', held', rewritten, -⟩ := allowed
  cases held.symm.trans held'
  have own : old.interface = record.interface := by rw [rewritten]
  have owed := guards.kept record.interface file there
  rw [(guards.held record.interface old held own).1] at owed
  rw [rewritten]
  rw [rewritten] at owed
  exact owed.cut cuts

/-- Every command that a sweep may issue keeps what is owed. -/
theorem step {op : DnsOp} {reply : op.Reply} (guards : Guards start sweeper dir) (allowed : sweepAllows sweeper op)
    (answered : custodyAnswer dir op reply after) :
    ∃ next, sweepDiscipline sweeper op reply next ∧ Guards start next after := by
  obtain ⟨files, told⟩ := answered
  obtain ⟨files', sweeper'⟩ := after
  dsimp only at files told
  rw [guards.ghost] at told
  refine ⟨sweeper', told, ?_⟩
  have same : Guards start sweeper ⟨dir.files, sweeper⟩ := guards.tells ⟨List.Subset.refl _, List.Subset.refl _⟩ rfl rfl
  cases op with
  | readRecord path =>
    cases reply with
    | error error =>
      obtain ⟨absent, rfl⟩ := files
      cases told
      apply guards.reads
      · intro record has
        cases has
      · intro record has
        cases has
      · intro _
        simp [absent]
    | ok file =>
      obtain ⟨found, rfl⟩ := files
      cases file with
      | record record =>
        cases told
        apply guards.reads
        · intro other has own
          cases has
          exact ⟨found, by simp [own]⟩
        · intro other has odd
          cases has
          simp [odd]
        · intro wrong
          simp only [bne_iff_ne] at wrong
          refine ⟨fun other same => ?_, fun version same => ?_⟩
          · cases found.symm.trans same
            exact wrong
          · cases found.symm.trans same
      | unsupportedVersion version =>
        cases told
        apply guards.reads
        · intro record has
          cases has
        · intro record has
          cases has
        · intro wrong
          cases wrong
      | corrupt reason =>
        cases told
        apply guards.reads
        · intro record has
          cases has
        · intro record has
          cases has
        · intro _
          simp [found]
  | quarantineRecord path =>
    cases reply with
    | error error =>
      cases files
      cases told
      exact same
    | ok value =>
      cases files
      cases told
      exact guards.quarantines allowed
  | removeRecord path =>
    cases reply with
    | ok value =>
      cases files
      cases told
      exact guards.replaces (guards.removes allowed)
    | error error =>
      cases told
      cases files with
      | inl left =>
        cases left
        exact guards.forgets path
      | inr gone =>
        cases gone
        exact guards.replaces (guards.removes allowed)
  | writeRecord record =>
    cases reply with
    | ok value =>
      cases files
      cases told
      exact guards.replaces (guards.writes allowed)
    | error error =>
      cases told
      cases files with
      | inl left =>
        cases left
        exact guards.forgets record.interface
      | inr written =>
        cases written
        exact guards.replaces (guards.writes allowed)
  | recordPaths =>
    cases reply with
    | error error =>
      cases files
      cases told
      exact same
    | ok paths =>
      obtain ⟨-, rfl⟩ := files
      obtain ⟨-, rfl⟩ := told
      exact same
  | helperIsLive interface pid startTime =>
    cases files
    cases pid with
    | none =>
      cases told
      exact same
    | some pid =>
      cases reply with
      | false =>
        cases told
        exact same
      | true =>
        cases told
        exact guards.forgets interface
  | getDnsServers service =>
    cases files
    cases reply with
    | error error =>
      cases told
      exact same
    | ok servers =>
      cases told
      exact guards.tells ⟨List.Subset.refl _, List.subset_cons_self _ _⟩ rfl rfl
  | setDnsServers service servers =>
    cases files
    cases reply with
    | error error =>
      cases told
      exact guards.tells ⟨List.Subset.refl _, List.Subset.refl _⟩ rfl rfl
    | ok value =>
      cases told
      exact guards.tells ⟨List.Subset.refl _, List.Subset.refl _⟩ rfl rfl
  | setSearchDomains service domains =>
    cases files
    cases reply with
    | error error =>
      cases told
      exact guards.tells ⟨List.Subset.refl _, List.Subset.refl _⟩ rfl rfl
    | ok value =>
      cases told
      refine guards.tells ⟨?_, List.Subset.refl _⟩ rfl rfl
      dsimp only
      split
      · split
        · exact List.subset_cons_self _ _
        · exact List.Subset.refl _
      · exact List.Subset.refl _
  | pushService state => exact absurd allowed id
  | retainServices without => exact absurd allowed id
  | storeFingerprint fingerprint => exact absurd allowed id
  | _ =>
    cases files
    cases told
    exact same

end Guards

/-- Reading on leaves the files, and what is owed of them. -/
structure Reads (before after : RepairDir) : Prop where
  files : after.files = before.files
  back : after.sweeper.back = before.sweeper.back
  seen : after.sweeper.seen = before.sweeper.seen

theorem Reads.refl (dir : RepairDir) : Reads dir dir := ⟨rfl, rfl, rfl⟩

theorem Reads.trans {first second third : RepairDir} (earlier : Reads first second) (later : Reads second third) :
    Reads first third :=
  ⟨later.files.trans earlier.files, later.back.trans earlier.back, later.seen.trans earlier.seen⟩

theorem inl_iff {A : Type} {p : DnsProgram A} {post : A → RepairDir → Prop} :
    Ensures custodyHost (fun _ _ => True) p.inl post dir ↔ Ensures custodyAnswer (fun _ _ => True) p post dir :=
  Ensures.inl_iff

/-- Some run of the program gets there. -/
def CanReach {A : Type} (p : RepairProgram A) (dir : RepairDir) (post : A → RepairDir → Prop) : Prop :=
  ∃ result final, Completes custodyHost p dir result final ∧ post result final

theorem CanReach.answered {A : Type} {op : repairCommands.Op} {more : repairCommands.Reply op → RepairProgram A}
    {post : A → RepairDir → Prop} (reply : repairCommands.Reply op) (given : RepairDir)
    (answered : custodyHost dir op reply given) (rest : CanReach (more reply) given post) : CanReach (.call op more) dir post := by
  obtain ⟨result, final, completes, holds⟩ := rest
  exact ⟨result, final, .head (.command answered) completes, holds⟩

end Wgd.Dns

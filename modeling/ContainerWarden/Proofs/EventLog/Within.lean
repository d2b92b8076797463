import ContainerWarden.Proofs.EventLog.Columns
import ContainerWarden.Proofs.EventLog.Hierarchy

namespace ContainerWarden

namespace Storing

variable {storage : LogStorage} {steps : Storing α} {post : α → LogStorage → Prop}
  {spoilt : LogStorage → Prop}

structure Ensures (steps : Storing α) (storage : LogStorage) (post : α → LogStorage → Prop)
    (spoilt : LogStorage → Prop) : Prop where
  returned : ∀ a next, run steps storage = (.ok a, next) → post a next
  failed : ∀ fault next, run steps storage = (.error fault, next) → spoilt next

theorem Ensures.bind {f : α → Storing β} {post : β → LogStorage → Prop}
    (first : Ensures steps storage (fun a next => Ensures (f a) next post spoilt) spoilt) :
    Ensures (steps >>= f) storage post spoilt := by
  cases ran : run steps storage with
  | mk outcome next =>
    cases outcome with
    | ok a =>
      have rest := first.returned a next ran
      have whole := run_bind_of_ok ran f
      exact ⟨fun b last done => rest.returned b last (whole.symm.trans done),
        fun fault last lost => rest.failed fault last (whole.symm.trans lost)⟩
    | error fault =>
      have spoilt := first.failed fault next ran
      have whole := run_bind_of_error ran f
      constructor
      · intro b last done
        cases whole.symm.trans done
      · intro other last lost
        cases whole.symm.trans lost
        exact spoilt

theorem Ensures.mono {stronger : α → LogStorage → Prop} {worse : LogStorage → Prop}
    (ensures : Ensures steps storage stronger worse) (done : ∀ a next, stronger a next → post a next)
    (failed : ∀ next, worse next → spoilt next) : Ensures steps storage post spoilt :=
  ⟨fun a next ran => done a next (ensures.returned a next ran),
    fun fault next ran => failed next (ensures.failed fault next ran)⟩

theorem Ensures.also {more : α → LogStorage → Prop} (ensures : Ensures steps storage post spoilt)
    (returned : ∀ a next, run steps storage = (.ok a, next) → more a next) :
    Ensures steps storage (fun a next => post a next ∧ more a next) spoilt :=
  ⟨fun a next ran => ⟨ensures.returned a next ran, returned a next ran⟩, ensures.failed⟩

theorem Ensures.error (ensures : Ensures steps storage (fun _ _ => False) spoilt) :
    ∃ fault next, run steps storage = (.error fault, next) ∧ spoilt next := by
  cases ran : run steps storage with
  | mk outcome next =>
    cases outcome with
    | ok a => exact (ensures.returned a next ran).elim
    | error fault => exact ⟨fault, next, rfl, ensures.failed fault next ran⟩

end Storing

namespace LogStorage

open Storing

variable {origin storage : LogStorage} {q : Path}

def journal (storage : LogStorage) : Path := storage.location.beside journalEnding

def wal (storage : LogStorage) : Path := storage.location.beside walEnding

def shared (storage : LogStorage) : Path := storage.location.beside sharedEnding

def sides (storage : LogStorage) : List Path := [storage.journal, storage.wal, storage.shared]

theorem journal_mem_sides (storage : LogStorage) : storage.journal ∈ storage.sides := List.mem_cons_self

theorem wal_mem_sides (storage : LogStorage) : storage.wal ∈ storage.sides := by simp [sides]

theorem shared_mem_sides (storage : LogStorage) : storage.shared ∈ storage.sides := by simp [sides]

/-- The log in the file at the location, empty if there is no such file or no table in it. -/
def held (storage : LogStorage) : EventLog :=
  match storage.tree.get? storage.location with
  | some (.file database) => database.getD {}
  | _ => {}

def Blocked (storage : LogStorage) : Prop :=
  storage.tree.isDirectory storage.location = true ∨
    ∃ q, q <+: storage.location ∧ q ≠ storage.location ∧ storage.tree.IsFile q

theorem location_ne_nil (storage : LogStorage) : storage.location ≠ [] := by
  rw [location_eq]
  split
  · exact List.append_ne_nil_of_right_ne_nil _ (List.cons_ne_nil _ _)
  · rename_i plain
    intro root
    rw [root] at plain
    exact plain rfl

theorem not_prefix_of_side (side : q ∈ storage.sides) : ¬ q <+: storage.location := by
  have below := storage.location_ne_nil
  simp only [sides, List.mem_cons, List.not_mem_nil, or_false] at side
  rcases side with rfl | rfl | rfl <;> exact Path.beside_not_prefix below (by decide)

theorem side_ne_nil (side : q ∈ storage.sides) : q ≠ [] := by
  rintro rfl
  exact not_prefix_of_side side List.nil_prefix

/-- What may become of the entry at a path while an entry of the log is written: a directory above the
    location is made, then the file, and a file that connections take for one of their own is removed. -/
inductive Change (origin : LogStorage) (q : Path) : Option (FileNode Database) → Prop where
  | kept {node : Option (FileNode Database)} (same : node = origin.tree.get? q) : Change origin q node
  | made (front : q <+: origin.location) (other : q ≠ origin.location)
      (missing : origin.tree.get? q = none) : Change origin q (some .directory)
  | stored {database : Database} (place : q = origin.location)
      (plain : origin.tree.isDirectory q = false) (log : database.getD {} = origin.held) :
      Change origin q (some (.file database))
  | cleared (side : q ∈ origin.sides) (file : origin.tree.IsFile q) : Change origin q none

structure Within (origin storage : LogStorage) : Prop where
  directory : storage.directory = origin.directory
  configured : storage.configured = origin.configured
  entry : ∀ q, Change origin q (storage.tree.get? q)

namespace Within

theorem refl (storage : LogStorage) : Within storage storage := ⟨rfl, rfl, fun _ => .kept rfl⟩

theorem isDirectory_eq (within : Within origin storage)
    (settled : q <+: origin.location → q ≠ origin.location → origin.tree.get? q ≠ none) :
    storage.tree.isDirectory q = origin.tree.isDirectory q := by
  have change := within.entry q
  generalize now : storage.tree.get? q = node at change
  cases change with
  | kept same => rw [FileTree.isDirectory, now, same, FileTree.isDirectory]
  | made front other missing => exact absurd missing (settled front other)
  | stored place plain log => rw [FileTree.isDirectory, now, plain]
  | cleared side file => rw [FileTree.isDirectory, now, file.not_isDirectory]

theorem location (within : Within origin storage) : storage.location = origin.location := by
  have target : storage.target = origin.target := by
    unfold LogStorage.target
    rw [within.directory, within.configured]
  have same : storage.tree.isDirectory origin.target = origin.tree.isDirectory origin.target := by
    -- The target is the location itself, or a directory that was there.
    refine within.isDirectory_eq fun _ other missing => other ?_
    rw [location_eq, FileTree.isDirectory, missing]
    rfl
  rw [location_eq, location_eq, target, same]

theorem put (within : Within origin storage) {node : FileNode Database} (below : q ≠ [])
    (change : Change origin q (some node)) :
    Within origin { storage with tree := storage.tree.put q node } := by
  refine ⟨within.directory, within.configured, fun p => ?_⟩
  by_cases same : p = q
  · subst same
    rw [FileTree.get?_put _ below]
    exact change
  · rw [FileTree.get?_put_other _ same]
    exact within.entry p

theorem missing (within : Within origin storage) (front : q <+: origin.location)
    (absent : storage.tree.exists? q = false) : origin.tree.get? q = none := by
  have none : storage.tree.get? q = none := by simpa [FileTree.exists?] using absent
  have change := within.entry q
  rw [none] at change
  cases change with
  | kept same => exact same.symm
  | cleared side => exact absurd front (not_prefix_of_side side)

/-- Nothing lies below a file, so that nothing else goes with it. -/
theorem drop (within : Within origin storage) (isTree : origin.tree.IsTree) {side : Path}
    (member : side ∈ origin.sides) (plain : origin.tree.isDirectory side = false) :
    Within origin { storage with tree := storage.tree.remove side } := by
  refine ⟨within.directory, within.configured, fun q => ?_⟩
  cases inside : side.isPrefixOf q with
  | false =>
    rw [FileTree.get?_remove _ inside]
    exact within.entry q
  | true =>
    have front := List.isPrefixOf_iff_prefix.mp inside
    rw [FileTree.get?_remove_below _ (side_ne_nil member) front]
    cases before : origin.tree.exists? q with
    | false =>
      have none : origin.tree.get? q = none := by simpa [FileTree.exists?] using before
      exact .kept none.symm
    | true =>
      have place : q = side := by
        by_contra other
        cases plain.symm.trans (isTree.above before front (Ne.symm other))
      subst place
      exact .cleared member (FileTree.isFile_of_exists before plain)

theorem isDirectory_side (within : Within origin storage) (side : q ∈ origin.sides) :
    storage.tree.isDirectory q = origin.tree.isDirectory q :=
  within.isDirectory_eq fun front => absurd front (not_prefix_of_side side)

theorem dropFilled (within : Within origin storage) (isTree : origin.tree.IsTree) {side : Path}
    (member : side ∈ origin.sides) : Within origin { storage with tree := storage.tree.dropFilled side } := by
  unfold FileTree.dropFilled
  split
  · rename_i filled
    refine within.drop isTree member ?_
    rw [← within.isDirectory_side member]
    unfold FileTree.isFilled at filled
    split at filled
    · rename_i held
      rw [FileTree.isDirectory, held]
    · cases filled
  · exact within

theorem note (within : Within origin storage) (prepared : List Path) :
    Within origin { storage with prepared } :=
  ⟨within.directory, within.configured, within.entry⟩

theorem blocked (within : Within origin storage) (front : q <+: origin.location)
    (other : q ≠ origin.location) (file : storage.tree.IsFile q) : origin.Blocked := by
  obtain ⟨content, found⟩ := file
  have change := within.entry q
  rw [found] at change
  refine .inr ⟨q, front, other, ?_⟩
  cases change with
  | kept same => exact ⟨content, same.symm⟩
  | stored place => exact absurd place other

end Within

theorem Within.isDirectory_location (within : Within origin storage) :
    storage.tree.isDirectory origin.location = origin.tree.isDirectory origin.location :=
  within.isDirectory_eq fun _ other => absurd rfl other

theorem Within.begun (within : Within origin storage) (isTree : origin.tree.IsTree) :
    Within origin { storage with tree := (begun storage.tree origin.location).2 } := by
  have first := within.dropFilled isTree origin.journal_mem_sides
  unfold LogStorage.begun
  dsimp only
  split
  · exact within
  · split
    · exact first
    · split
      · exact first
      · rename_i barred
        have second := first.dropFilled isTree origin.wal_mem_sides
        split
        · rename_i ahead
          refine second.drop isTree origin.shared_mem_sides ?_
          rw [ahead, Bool.true_and] at barred
          have plain := first.isDirectory_side origin.shared_mem_sides
          exact plain.symm.trans (Bool.eq_false_iff.mpr barred)
        · exact second

end LogStorage

end ContainerWarden

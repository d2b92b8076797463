import ContainerWarden.Proofs.EventLog.Calls
import ContainerWarden.Proofs.EventLog.Within

namespace ContainerWarden

def EventLog.extended (log : EventLog) (call : LogCall) : EventLog :=
  match call.kept? with
  | some entry => ⟨entry.row (log.size + 1) :: log.rows⟩
  | none => log

def EventLog.after (log : EventLog) (calls : List LogCall) : EventLog := calls.foldl extended log

namespace LogStorage

open Storing

variable {storage next : LogStorage} {path q : Path} {entry : LogEntry}

structure Prepared (storage begun : LogStorage) : Prop
    extends Ready begun storage.location storage.held, SameCalls storage begun where
  within : Within storage begun
  absorbed : Absorbed storage.tree begun.tree storage.location

theorem Within.directory_above (within : Within origin storage) (free : ¬ origin.Blocked)
    (front : q <+: origin.location) (other : q ≠ origin.location) (there : storage.tree.exists? q = true) :
    storage.tree.get? q = some .directory ∧
      (origin.tree.get? q = none ∨ origin.tree.get? q = some .directory) := by
  have directory : storage.tree.get? q = some .directory := by
    refine FileTree.get?_eq_of_isDirectory (Bool.of_not_eq_false fun plain => ?_)
    exact free (within.blocked front other (FileTree.isFile_of_exists there plain))
  have change := within.entry q
  rw [directory] at change
  refine ⟨directory, ?_⟩
  cases change with
  | kept same => exact .inr same.symm
  | made front other missing => exact .inl missing

theorem Within.elsewhere (within : Within origin storage) (outside : ¬ q <+: origin.location)
    (other : q ∉ origin.sides) : storage.tree.get? q = origin.tree.get? q := by
  have change := within.entry q
  generalize storage.tree.get? q = node at change
  cases change with
  | kept same => exact same
  | made front => exact absurd front outside
  | stored place => exact absurd (place ▸ List.prefix_rfl) outside
  | cleared side => exact absurd side other

/-- A tree that has the file at the location and the directories above it, and is the old one otherwise, less
    what was taken for files of other connections: any file in the place of the journal, one with content in
    that of the log that is written ahead, and then also what stands for its readers, if the database had
    content too. -/
structure Grows (origin : LogStorage) (tree : FileTree Database) (log : EventLog) : Prop where
  own : tree.get? origin.location = some (.file (some log))
  plain : origin.tree.isDirectory origin.location = false
  above : ∀ q, q <+: origin.location → q ≠ origin.location → tree.get? q = some .directory ∧
    (origin.tree.get? q = none ∨ origin.tree.get? q = some .directory)
  journal : tree.get? origin.journal = none ∧ origin.tree.isDirectory origin.journal = false
  wal : tree.get? origin.wal = if origin.tree.isFilled origin.wal then none else origin.tree.get? origin.wal
  shared : tree.get? origin.shared =
    if origin.tree.isFilled origin.location && origin.tree.isFilled origin.wal then none
    else origin.tree.get? origin.shared
  elsewhere : ∀ q, ¬ q <+: origin.location → q ∉ origin.sides → tree.get? q = origin.tree.get? q

structure Settled (storage : LogStorage) (path : Path) (log : EventLog) : Prop
    extends Ready storage path log where
  name : (path.beside journalEnding).hasLongName = false
  clean : ∀ q, path.beside journalEnding <+: q → storage.tree.get? q = none

theorem Ready.settle {log : EventLog} (ready : Ready storage path log)
    (name : (path.beside journalEnding).hasLongName = false) (appended : EventLog) :
    Settled { storage with
      tree := (storage.tree.remove (path.beside journalEnding)).put path (.file (some appended)) }
      path appended := by
  refine ⟨ready.store _, name, fun q inside => ?_⟩
  have other : q ≠ path := by
    rintro rfl
    exact Path.beside_not_prefix ready.below (by decide) inside
  rw [FileTree.get?_put_other _ other]
  exact FileTree.get?_remove_below _ (Path.beside_ne_nil _ _) inside

def SameBut (path : Path) (storage next : LogStorage) : Prop :=
  ∀ q, q ≠ path → next.tree.get? q = storage.tree.get? q

theorem Settled.get?_remove {log : EventLog} (settled : Settled storage path log) (q : Path) :
    (storage.tree.remove (path.beside journalEnding)).get? q = storage.tree.get? q := by
  cases inside : (path.beside journalEnding).isPrefixOf q with
  | false => exact FileTree.get?_remove _ inside
  | true =>
    have front := List.isPrefixOf_iff_prefix.mp inside
    rw [FileTree.get?_remove_below _ (Path.beside_ne_nil _ _) front, settled.clean q front]

theorem Settled.step {log : EventLog} (settled : Settled storage path log) (call : LogCall) :
    Settled (storage.step call) path (log.extended call) ∧ SameBut path storage (storage.step call) := by
  cases call with
  | read limit component =>
    rw [LogStorage.step, run_latest settled.toReady]
    exact ⟨settled, fun _ _ => rfl⟩
  | write entry =>
    have after : storage.step (.write entry) = (run (append entry) storage).2 := rfl
    cases accepted : entry.isAccepted with
    | true =>
      have extended : log.extended (.write entry) = ⟨entry.row (log.size + 1) :: log.rows⟩ := by
        simp [EventLog.extended, LogCall.kept?, accepted]
      rw [after, extended, run_append_of_ok settled.toReady (EventLog.append_of_isAccepted log accepted),
        if_neg (Bool.eq_false_iff.mp settled.name)]
      refine ⟨settled.settle settled.name _, fun q other => ?_⟩
      rw [FileTree.get?_put_other _ other]
      exact settled.get?_remove q
    | false =>
      have extended : log.extended (.write entry) = log := by
        simp [EventLog.extended, LogCall.kept?, accepted]
      obtain ⟨fault, refused⟩ := EventLog.append_of_not_isAccepted log accepted
      rw [after, extended, run_append_of_error settled.toReady refused]
      exact ⟨settled, fun _ _ => rfl⟩

theorem Settled.after {log : EventLog} (settled : Settled storage path log) (calls : List LogCall) :
    Settled (storage.after calls) path (log.after calls) ∧ SameBut path storage (storage.after calls) := by
  induction calls generalizing storage log with
  | nil => exact ⟨settled, fun _ _ => rfl⟩
  | cons call rest ih =>
    obtain ⟨next, same⟩ := settled.step call
    obtain ⟨last, others⟩ := ih next
    exact ⟨last, fun q other => (others q other).trans (same q other)⟩

theorem Prepared.grows {begun : LogStorage} (prepared : Prepared storage begun) (isTree : storage.tree.IsTree)
    (free : ¬ storage.Blocked) (appended : EventLog) :
    storage.Grows ((begun.tree.remove storage.journal).put storage.location (.file (some appended)))
      appended := by
  have below := storage.location_ne_nil
  have within := prepared.within
  have plain : storage.tree.isDirectory storage.journal = false :=
    (within.isDirectory_side storage.journal_mem_sides).symm.trans prepared.quiet.journal
  have dropped := within.drop isTree storage.journal_mem_sides plain
  have taken := prepared.absorbed.store below (.file (some appended))
  constructor
  case own => exact FileTree.get?_put _ below _
  case plain => rw [← within.isDirectory_location, FileTree.isDirectory, prepared.held]
  case above =>
    intro q front other
    have there : begun.tree.exists? q = true :=
      FileTree.missing_eq_nil.mp prepared.above q (Path.prefix_dropLast front other)
    obtain ⟨directory, before⟩ := within.directory_above free front other there
    have outside : storage.journal.isPrefixOf q = false := Path.beside_outside below (by decide) front
    rw [FileTree.get?_put_other _ other, FileTree.get?_remove _ outside]
    exact ⟨directory, before⟩
  case journal =>
    refine ⟨?_, plain⟩
    exact (get?_put_beside below (by decide) _).trans
      (FileTree.get?_remove_below _ (Path.beside_ne_nil _ _) List.prefix_rfl)
  case wal => exact taken.wal
  case shared => exact taken.shared
  case elsewhere =>
    intro q outside other
    have apart : q ≠ storage.location := by
      rintro rfl
      exact outside List.prefix_rfl
    rw [FileTree.get?_put_other _ apart]
    exact dropped.elsewhere outside other

end LogStorage

namespace LogStorage

end LogStorage

end ContainerWarden

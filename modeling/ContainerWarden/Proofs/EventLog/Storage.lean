import ContainerWarden.Proofs.EventLog.Connection

namespace ContainerWarden

namespace LogStorage

open Storing (run run_lift run_lift_eq_ok run_bind_of_ok run_bind_of_error run_bind_eq_ok)

variable {storage next : LogStorage} {path : Path}

structure Usable (storage : LogStorage) (path : Path) (database : Database) : Prop
    extends Openable storage path where
  held : storage.tree.get? path = some (.file database)
  quiet : Quiet storage.tree path

structure Ready (storage : LogStorage) (path : Path) (log : EventLog) : Prop
    extends Usable storage path (some log) where
  prepared : path ∈ storage.prepared

variable {database : Database} {log appended : EventLog} {entry : LogEntry}

theorem below_of_held (held : storage.tree.get? path = some (.file database)) : path ≠ [] := by
  rintro rfl
  cases held

theorem Usable.below (usable : Usable storage path database) : path ≠ [] := below_of_held usable.held

theorem Openable.change (openable : Openable storage path) {tree : FileTree Database}
    (same : ∀ q, q <+: path → q ≠ path → tree.get? q = storage.tree.get? q)
    (own : tree.isDirectory path = false) : Openable { storage with tree } path :=
  ⟨openable.toPlaced.change same own, openable.checked, openable.short⟩

/-- What is stored in the file changes nothing above it or beside it. -/
theorem Openable.store (openable : Openable storage path) {tree : FileTree Database} (below : path ≠ [])
    (same : ∀ q, q <+: path → tree.get? q = storage.tree.get? q) (other : Database) :
    Openable { storage with tree := tree.put path (.file other) } path := by
  have held := FileTree.get?_put tree below (.file other)
  refine openable.change (fun q front differs => ?_) ?_
  · rw [FileTree.get?_put_other _ differs, same q front]
  · rw [FileTree.isDirectory, held]

theorem get?_put_beside {tree : FileTree Database} {ending : String} (below : path ≠ []) (letters : ending ≠ "")
    (node : FileNode Database) : (tree.put path node).get? (path.beside ending) = tree.get? (path.beside ending) := by
  refine FileTree.get?_put_other _ (fun same => ?_) _
  have outside := Path.beside_not_prefix below letters
  rw [same] at outside
  exact outside List.prefix_rfl

/-- With its journal gone, a database can be read if nothing is left that was written ahead. -/
theorem quiet_of_write {tree : FileTree Database} (below : path ≠ [])
    (free : tree.isDirectory (path.beside walEnding) = false)
    (taken : tree.isFilled (path.beside walEnding) = false) (node : FileNode Database) :
    Quiet ((tree.remove (path.beside journalEnding)).put path node) path := by
  have journal := (get?_put_beside below (by decide) node).trans
    (tree.get?_remove_below (Path.beside_ne_nil path journalEnding) List.prefix_rfl)
  have wal := (get?_put_beside below (by decide) node).trans
    (tree.get?_remove (Path.besides_outside path (by decide : journalEnding ≠ walEnding)))
  refine ⟨?_, ?_, ?_, ?_⟩
  · rw [FileTree.isDirectory, journal]
  · rw [FileTree.isFilled, journal]
  · rwa [FileTree.isDirectory_congr wal]
  · rwa [FileTree.isFilled_congr wal]

theorem Usable.store (usable : Usable storage path database) (other : Database) :
    Usable { storage with tree := (storage.tree.remove (path.beside journalEnding)).put path (.file other) }
      path other := by
  refine ⟨usable.toOpenable.store usable.below (fun q front => ?_) other, FileTree.get?_put _ usable.below _,
    quiet_of_write usable.below usable.quiet.wal usable.quiet.taken _⟩
  exact FileTree.get?_remove _ (Path.beside_outside usable.below (by decide) front)

theorem Usable.note (usable : Usable storage path database) (prepared : List Path) :
    Usable { storage with prepared } path database :=
  ⟨⟨⟨usable.located, usable.above⟩, usable.checked, usable.short⟩, usable.held, usable.quiet⟩

theorem run_prepare (placed : Placed storage path) (known : path ∈ storage.prepared) :
    run prepare storage = (.ok (), storage) := by
  have got : run (get : Storing LogStorage) storage = (.ok storage, storage) := rfl
  unfold prepare
  rw [run_bind_of_ok (run_resolve placed), run_bind_of_ok got]
  dsimp only
  rw [if_pos (List.contains_iff_mem.mpr known)]
  rfl

theorem run_query (quiet : Quiet storage.tree path) (log : EventLog) :
    run (query path (some log)) storage = (.ok (log, false), storage) := by
  have begun : run (begin path) storage = (.ok false, storage) := by rw [run_begin, quiet.begun]
  unfold query
  rw [run_bind_of_ok begun]
  rfl

theorem run_connect_of_resolve (resolved : run resolve storage = (.ok path, next)) :
    run connect next = run connect storage := by
  obtain ⟨placed, -⟩ := placed_of_resolve resolved
  unfold connect
  rw [run_bind_of_ok (run_resolve placed), run_bind_of_ok resolved]

theorem isFilled_of_held (held : storage.tree.get? path = some (.file database)) :
    storage.tree.isFilled path = database.isSome := by
  rw [FileTree.isFilled, held]
  cases database <;> rfl

theorem Connected.absorbed (connected : Connected storage next path database) {tree : FileTree Database}
    (absorbed : Absorbed next.tree tree path) : Absorbed storage.tree tree path := by
  have below := below_of_held connected.held
  have same {ending : String} (letters : ending ≠ "") :=
    connected.elsewhere _ (Path.beside_not_prefix below letters)
  obtain ⟨wal, shared⟩ := absorbed
  rw [FileTree.isFilled_congr (same (by decide)), same (by decide)] at wal
  rw [FileTree.isFilled_congr (same (by decide)), same (by decide), connected.filled] at shared
  exact ⟨wal, shared⟩

theorem Absorbed.store {tree cleared : FileTree Database} (absorbed : Absorbed tree cleared path)
    (below : path ≠ []) (node : FileNode Database) :
    Absorbed tree ((cleared.remove (path.beside journalEnding)).put path node) path := by
  have same {ending : String} (letters : ending ≠ "") (different : journalEnding ≠ ending) :=
    (get?_put_beside below letters node).trans (cleared.get?_remove (Path.besides_outside path different))
  exact ⟨(same (by decide) (by decide)).trans absorbed.wal, (same (by decide) (by decide)).trans absorbed.shared⟩

theorem usable_of_makeTable {reached middle : LogStorage} {ahead : Bool}
    (connected : Connected storage reached path database) (opened : run (begin path) reached = (.ok ahead, middle))
    (made : run (makeTable path ahead database) middle = (.ok (), next)) :
    ∃ log, Usable next path (some log) ∧ Absorbed storage.tree next.tree path := by
  have below := below_of_held connected.held
  have filled := isFilled_of_held connected.held
  rw [run_begin] at opened
  obtain ⟨ok, rfl⟩ := Prod.mk.inj opened
  have cleared := cleared_of_begun below (Prod.ext ok rfl)
  cases database with
  | some log =>
    cases made
    have held := (cleared.above _ List.prefix_rfl).trans connected.held
    have openable := connected.toOpenable.change (fun q front _ => cleared.above q front)
      (by rw [FileTree.isDirectory, held])
    exact ⟨log, ⟨openable, held, cleared.quiet filled⟩, connected.absorbed cleared.toAbsorbed⟩
  | none =>
    obtain rfl : ahead = false := by simpa [filled] using cleared.ahead
    obtain ⟨_, _, written, stored⟩ := run_bind_eq_ok.mp made
    cases stored
    rw [run_beginWrite] at written
    split at written
    · cases written
      have absorbed := connected.absorbed (cleared.toAbsorbed.store below (.file (some {})))
      have quiet := quiet_of_write below cleared.free cleared.untaken (.file (some {}))
      refine ⟨{}, ⟨connected.toOpenable.store below (fun q front => ?_) _, FileTree.get?_put _ below _, quiet⟩,
        absorbed⟩
      have outside := Path.beside_outside below (by decide : journalEnding ≠ "") front
      exact (FileTree.get?_remove _ outside).trans (cleared.above q front)
    · cases written

/-- After it was prepared the table is there, be it new or not, and all that was in the way is gone. -/
theorem ready_of_prepare (unprepared : storage.location ∉ storage.prepared)
    (prepared : run prepare storage = (.ok (), next)) :
    ∃ log, Ready next storage.location log ∧ Absorbed storage.tree next.tree storage.location := by
  obtain ⟨place, found, resolved, rest⟩ := run_bind_eq_ok.mp prepared
  obtain ⟨-, rfl, kept, -⟩ := placed_of_resolve resolved
  obtain ⟨_, _, got, rest⟩ := run_bind_eq_ok.mp rest
  cases got
  have unknown : ¬ found.prepared.contains storage.location = true := by
    rw [kept, List.contains_iff_mem]
    exact unprepared
  dsimp only at rest
  rw [if_neg unknown] at rest
  obtain ⟨⟨path, database⟩, reached, connecting, rest⟩ := run_bind_eq_ok.mp rest
  rw [run_connect_of_resolve resolved] at connecting
  have connected := connected_of_connect connecting
  obtain rfl := connected.place
  obtain ⟨ahead, middle, opened, rest⟩ := run_bind_eq_ok.mp rest
  obtain ⟨_, last, made, noted⟩ := run_bind_eq_ok.mp rest
  cases noted
  obtain ⟨log, usable, absorbed⟩ := usable_of_makeTable connected opened made
  exact ⟨log, ⟨usable.note _, List.mem_cons_self⟩, absorbed⟩

theorem run_openLog (ready : Ready storage path log) : run openLog storage = (.ok (path, log), storage) := by
  unfold openLog
  rw [run_bind_of_ok (run_prepare ready.toPlaced ready.prepared),
    run_bind_of_ok (run_connect ready.toOpenable ready.held)]
  dsimp only
  rw [run_bind_of_ok (run_query ready.quiet log)]
  rfl

theorem levelText_of_append (kept : log.append entry = .ok appended) : ∃ level, entry.levelText = .ok level := by
  obtain ⟨_, made, -⟩ := Outcome.bind_eq_ok.mp kept
  obtain ⟨level, raised, -⟩ := Outcome.bind_eq_ok.mp made
  exact ⟨level, raised⟩

theorem run_append (ready : Ready storage path log) {level : String} (raised : entry.levelText = .ok level) :
    run (append entry) storage = run (do
      let log ← (log.append entry : Outcome EventLog)
      beginWrite path false
      changeTree fun tree => tree.put path (.file (some log))) storage := by
  have lifted : run (liftM entry.levelText : Storing String) storage = (.ok level, storage) := by
    rw [run_lift, raised]
  unfold append
  rw [run_bind_of_ok (run_prepare ready.toPlaced ready.prepared),
    run_bind_of_ok (run_connect ready.toOpenable ready.held)]
  dsimp only
  rw [run_bind_of_ok lifted, run_bind_of_ok (run_query ready.quiet log)]

theorem run_append_of_ok (ready : Ready storage path log) (kept : log.append entry = .ok appended) :
    run (append entry) storage =
      if (path.beside journalEnding).hasLongName then (.error .databaseUnavailable, storage)
      else (.ok (), { storage with
        tree := (storage.tree.remove (path.beside journalEnding)).put path (.file (some appended)) }) := by
  obtain ⟨level, raised⟩ := levelText_of_append kept
  have lifted : run (liftM (log.append entry) : Storing EventLog) storage = (.ok appended, storage) := by
    rw [run_lift, kept]
  have writing : run (beginWrite path false) storage = _ := run_beginWrite
  rw [writable, ready.quiet.journal, Bool.or_false] at writing
  rw [run_append ready raised, run_bind_of_ok lifted]
  cases long : (path.beside journalEnding).hasLongName with
  | true =>
    rw [long] at writing
    exact run_bind_of_error writing _
  | false =>
    rw [long] at writing
    exact run_bind_of_ok writing _

/-- A row that is refused leaves all files as they are. -/
theorem run_append_of_error {fault : Fault} (ready : Ready storage path log)
    (refused : log.append entry = .error fault) : run (append entry) storage = (.error fault, storage) := by
  cases raised : entry.levelText with
  | ok level =>
    have lifted : run (liftM (log.append entry) : Storing EventLog) storage = (.error fault, storage) := by
      rw [run_lift, refused]
    rw [run_append ready raised, run_bind_of_error lifted]
  | error other =>
    obtain rfl : other = fault := by
      unfold EventLog.append EventLog.rowOf at refused
      rw [raised] at refused
      exact Except.error.inj refused
    have lifted : run (liftM entry.levelText : Storing String) storage = (.error other, storage) := by
      rw [run_lift, raised]
    unfold append
    rw [run_bind_of_ok (run_prepare ready.toPlaced ready.prepared),
      run_bind_of_ok (run_connect ready.toOpenable ready.held)]
    dsimp only
    rw [run_bind_of_error lifted]

theorem Ready.store (ready : Ready storage path log) (appended : EventLog) :
    Ready { storage with
      tree := (storage.tree.remove (path.beside journalEnding)).put path (.file (some appended)) }
      path appended :=
  ⟨ready.toUsable.store (some appended), ready.prepared⟩

theorem run_latest (ready : Ready storage path log) (limit component : Json) :
    run (latest limit component) storage = (log.latest limit component, storage) := by
  unfold latest
  rw [run_bind_of_ok (run_openLog ready)]
  exact run_lift _

structure Opens (storage : LogStorage) (path : Path) (log : EventLog) : Prop where
  name : (path.beside journalEnding).hasLongName = false
  prepared : ∃ begun, run prepare storage = (.ok (), begun) ∧ Ready begun path log

theorem Ready.opens (ready : Ready storage path log) (name : (path.beside journalEnding).hasLongName = false) :
    Opens storage path log :=
  ⟨name, storage, run_prepare ready.toPlaced ready.prepared, ready⟩

structure SameCalls (storage begun : LogStorage) : Prop where
  writes : ∀ entry, run (append entry) storage = run (append entry) begun
  opens : run openLog storage = run openLog begun
  reads : ∀ limit component, run (latest limit component) storage = run (latest limit component) begun

theorem sameCalls_of_prepare {begun : LogStorage} (ready : Ready begun path log)
    (prepared : run prepare storage = (.ok (), begun)) : SameCalls storage begun := by
  have again := run_prepare ready.toPlaced ready.prepared
  have opened : run openLog storage = run openLog begun := by
    unfold openLog
    rw [run_bind_of_ok prepared, run_bind_of_ok again]
  refine ⟨fun entry => ?_, opened, fun limit component => ?_⟩
  · unfold append
    rw [run_bind_of_ok prepared, run_bind_of_ok again]
  · rw [run_openLog ready] at opened
    unfold latest
    rw [run_bind_of_ok opened, run_bind_of_ok (run_openLog ready)]

theorem opens_of_openLog (name : (path.beside journalEnding).hasLongName = false)
    (unprepared : storage.prepared = []) (opened : run openLog storage = (.ok (path, log), next)) :
    Opens storage path log := by
  obtain ⟨_, begun, prepared, rest⟩ := run_bind_eq_ok.mp opened
  obtain ⟨held, ready, -⟩ := ready_of_prepare (unprepared ▸ List.not_mem_nil) prepared
  obtain ⟨_, _, connected, rest⟩ := run_bind_eq_ok.mp rest
  rw [run_connect ready.toOpenable ready.held] at connected
  cases connected
  obtain ⟨_, _, queried, returned⟩ := run_bind_eq_ok.mp rest
  rw [run_query ready.quiet held] at queried
  cases queried
  cases returned
  exact ⟨name, _, prepared, ready⟩

end LogStorage

end ContainerWarden

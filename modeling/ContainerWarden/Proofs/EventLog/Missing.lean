import ContainerWarden.Proofs.EventLog.Connection

namespace ContainerWarden

theorem Outcome.bind_ne_error {first : Outcome α} {f : α → Outcome β} {fault : Fault}
    (start : first ≠ .error fault) (rest : ∀ a, f a ≠ .error fault) : first >>= f ≠ .error fault := by
  cases first with
  | ok a => exact rest a
  | error other =>
    show Except.error other ≠ .error fault
    simpa using start

theorem Path.check_ne (path : Path) : path.check ≠ .error .tableMissing := by
  unfold check
  split
  · simp
  · split <;> simp

namespace FileTree

theorem makeDirectory_ne (tree : FileTree α) (path : Path) : tree.makeDirectory path ≠ .error .tableMissing := by
  refine Outcome.bind_ne_error path.check_ne fun _ => ?_
  split
  · exact nofun
  · split
    · exact nofun
    · split <;> exact nofun

theorem openFile_ne (tree : FileTree α) (path : Path) (fresh : α) :
    tree.openFile path fresh ≠ .error .tableMissing := by
  unfold openFile
  split
  · exact nofun
  · exact nofun
  · split <;> exact nofun

end FileTree

theorem LogEntry.levelText_ne (entry : LogEntry) : entry.levelText ≠ .error .tableMissing := by
  unfold levelText
  split <;> exact nofun

namespace EventLog

theorem columnText_ne (position : Nat) (value : Json) : columnText position value ≠ .error .tableMissing := by
  cases value with
  | int n =>
    simp only [columnText]
    split <;> simp
  | str s =>
    simp only [columnText]
    cases Text.unencodable? s <;> simp
  | _ => simp [columnText]

theorem rowCount_ne (position : Nat) (limit : Json) : rowCount position limit ≠ .error .tableMissing := by
  cases limit with
  | int n =>
    simp only [rowCount]
    split <;> simp
  | float x =>
    simp only [rowCount]
    cases floatCount? x <;> simp
  | str s =>
    simp only [rowCount]
    split
    · simp
    · cases textCount? s <;> simp
  | _ => simp [rowCount]

theorem append_ne (log : EventLog) (entry : LogEntry) : log.append entry ≠ .error .tableMissing := by
  refine Outcome.bind_ne_error ?_ fun _ => nofun
  refine Outcome.bind_ne_error entry.levelText_ne fun _ => ?_
  refine Outcome.bind_ne_error (columnText_ne _ _) fun _ => ?_
  refine Outcome.bind_ne_error (columnText_ne _ _) fun _ => ?_
  refine Outcome.bind_ne_error (columnText_ne _ _) fun _ => ?_
  refine Outcome.bind_ne_error (columnText_ne _ _) fun _ => ?_
  split <;> exact nofun

theorem latest_ne (log : EventLog) (limit component : Json) :
    log.latest limit component ≠ .error .tableMissing := by
  unfold latest
  split
  · exact Outcome.bind_ne_error (columnText_ne _ _) fun _ =>
      Outcome.bind_ne_error (rowCount_ne _ _) fun _ => nofun
  · exact Outcome.bind_ne_error (rowCount_ne _ _) fun _ => nofun

end EventLog

namespace Storing

variable {steps : Storing α} {storage : LogStorage}

def NeverMisses (steps : Storing α) : Prop := ∀ storage, (run steps storage).1 ≠ .error .tableMissing

theorem NeverMisses.bind {f : α → Storing β} (first : NeverMisses steps) (rest : ∀ a, NeverMisses (f a)) :
    NeverMisses (steps >>= f) := by
  intro storage
  have start := first storage
  cases ran : run steps storage with
  | mk outcome next =>
    rw [ran] at start
    cases outcome with
    | ok a =>
      rw [run_bind_of_ok ran]
      exact rest a next
    | error fault =>
      rw [run_bind_of_error ran]
      simpa using start

theorem neverMisses_lift {outcome : Outcome α} (other : outcome ≠ .error .tableMissing) :
    NeverMisses (liftM outcome) := by
  intro storage
  rw [run_lift]
  exact other

theorem neverMisses_pure (a : α) : NeverMisses (pure a : Storing α) := fun _ => nofun

theorem neverMisses_get : NeverMisses (get : Storing LogStorage) := fun _ => nofun

theorem neverMisses_change (change : FileTree Database → FileTree Database) :
    NeverMisses (LogStorage.changeTree change) := fun _ => nofun

theorem neverMisses_throw {fault : Fault} (other : fault ≠ .tableMissing) :
    NeverMisses (throw fault : Storing α) :=
  fun _ same => other (Except.error.inj same)

theorem misses_bind_iff {f : α → Storing β} (rest : ∀ a, NeverMisses (f a)) :
    (run (steps >>= f) storage).1 = .error .tableMissing ↔ (run steps storage).1 = .error .tableMissing := by
  cases ran : run steps storage with
  | mk outcome next =>
    cases outcome with
    | ok a =>
      rw [run_bind_of_ok ran]
      exact ⟨fun missing => absurd missing (rest a next), nofun⟩
    | error fault =>
      rw [run_bind_of_error ran]
      simp

theorem misses_later {f : α → Storing β} (first : NeverMisses steps)
    (missing : (run (steps >>= f) storage).1 = .error .tableMissing) :
    ∃ a next, run steps storage = (.ok a, next) ∧ (run (f a) next).1 = .error .tableMissing := by
  have start := first storage
  cases ran : run steps storage with
  | mk outcome next =>
    cases outcome with
    | ok a =>
      rw [run_bind_of_ok ran] at missing
      exact ⟨a, next, rfl, missing⟩
    | error fault =>
      rw [ran] at start
      rw [run_bind_of_error ran] at missing
      exact absurd (by simpa using missing) start

end Storing

namespace LogStorage

open Storing

theorem neverMisses_makeDirectories (paths : List Path) : NeverMisses (makeDirectories paths) := by
  induction paths with
  | nil => exact neverMisses_pure ()
  | cons path rest ih =>
    refine neverMisses_get.bind fun storage => ?_
    refine (neverMisses_lift (storage.tree.makeDirectory_ne path)).bind fun tree => ?_
    exact (neverMisses_change _).bind fun _ => ih

theorem neverMisses_resolve : NeverMisses resolve :=
  neverMisses_get.bind fun _ => (neverMisses_makeDirectories _).bind fun _ => neverMisses_pure _

theorem neverMisses_connect : NeverMisses connect := by
  refine neverMisses_resolve.bind fun path => ?_
  refine (neverMisses_lift path.check_ne).bind fun _ => ?_
  split
  · exact neverMisses_throw nofun
  · refine neverMisses_get.bind fun storage => ?_
    refine (neverMisses_lift (storage.tree.openFile_ne path none)).bind fun _ => ?_
    exact (neverMisses_change _).bind fun _ => neverMisses_pure _

theorem begun_ne (tree : FileTree Database) (path : Path) : (begun tree path).1 ≠ .error .tableMissing := by
  unfold begun
  dsimp only
  repeat' split
  all_goals exact nofun

theorem neverMisses_begin (path : Path) : NeverMisses (begin path) := by
  intro storage
  rw [run_begin]
  exact begun_ne storage.tree path

theorem neverMisses_beginWrite (path : Path) (ahead : Bool) : NeverMisses (beginWrite path ahead) := by
  cases ahead with
  | true => exact neverMisses_pure ()
  | false =>
    refine neverMisses_get.bind fun storage => ?_
    dsimp only
    split
    · exact neverMisses_throw nofun
    · exact neverMisses_change _

theorem neverMisses_makeTable (path : Path) (ahead : Bool) (database : Database) :
    NeverMisses (makeTable path ahead database) := by
  cases database with
  | some log => exact neverMisses_pure ()
  | none => exact (neverMisses_beginWrite path ahead).bind fun _ => neverMisses_change _

theorem neverMisses_prepare : NeverMisses prepare := by
  refine neverMisses_resolve.bind fun path => neverMisses_get.bind fun storage => ?_
  split
  · exact neverMisses_pure ()
  · refine neverMisses_connect.bind fun ⟨opened, database⟩ => (neverMisses_begin _).bind fun ahead => ?_
    exact (neverMisses_makeTable opened ahead database).bind fun _ => fun _ => nofun

theorem neverMisses_query (path : Path) (log : EventLog) : NeverMisses (query path (some log)) :=
  (neverMisses_begin path).bind fun ahead => neverMisses_pure (log, ahead)

end LogStorage

end ContainerWarden

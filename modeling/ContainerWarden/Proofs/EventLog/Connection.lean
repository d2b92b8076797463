import Mathlib.Data.List.Infix
import ContainerWarden.EventLog.Storage

namespace ContainerWarden

namespace Storing

variable {storage next : LogStorage}

def run (steps : Storing α) (storage : LogStorage) : Outcome α × LogStorage :=
  StateT.run (ExceptT.run steps) storage

theorem run_bind_of_ok {steps : Storing α} {a : α} (first : run steps storage = (.ok a, next))
    (f : α → Storing β) : run (steps >>= f) storage = run (f a) next := by
  have whole : run (steps >>= f) storage =
      (ExceptT.bindCont f (run steps storage).1).run (run steps storage).2 := rfl
  rw [whole, first]
  rfl

theorem run_bind_of_error {steps : Storing α} {fault : Fault}
    (first : run steps storage = (.error fault, next)) (f : α → Storing β) :
    run (steps >>= f) storage = (.error fault, next) := by
  have whole : run (steps >>= f) storage =
      (ExceptT.bindCont f (run steps storage).1).run (run steps storage).2 := rfl
  rw [whole, first]
  rfl

theorem run_bind_eq_ok {steps : Storing α} {f : α → Storing β} {b : β} :
    run (steps >>= f) storage = (.ok b, next) ↔
      ∃ a middle, run steps storage = (.ok a, middle) ∧ run (f a) middle = (.ok b, next) := by
  cases first : run steps storage with
  | mk outcome middle =>
    cases outcome with
    | ok a =>
      rw [run_bind_of_ok first]
      constructor
      · intro rest
        exact ⟨a, middle, rfl, rest⟩
      · rintro ⟨_, _, same, rest⟩
        cases same
        exact rest
    | error fault =>
      rw [run_bind_of_error first]
      constructor
      · exact nofun
      · rintro ⟨_, _, impossible, _⟩
        cases impossible

theorem run_lift (outcome : Outcome α) : run (liftM outcome : Storing α) storage = (outcome, storage) := by
  cases outcome <;> rfl

theorem run_lift_eq_ok {outcome : Outcome α} {a : α}
    (lifted : run (liftM outcome : Storing α) storage = (.ok a, next)) :
    outcome = .ok a ∧ next = storage := by
  rw [run_lift] at lifted
  cases lifted
  exact ⟨rfl, rfl⟩

end Storing

theorem Path.eq_nil_of_prefix_dropLast {path : Path} (front : path <+: path.dropLast) : path = [] := by
  have length := front.length_le
  rw [List.length_dropLast] at length
  exact List.eq_nil_of_length_eq_zero (by omega)

/-- No path at or above a path lies at or below what is beside it. -/
theorem Path.beside_outside {path q : Path} {ending : String} (below : path ≠ []) (letters : ending ≠ "")
    (front : q <+: path) : (path.beside ending).isPrefixOf q = false := by
  refine Bool.eq_false_iff.mpr fun inside => ?_
  have whole : path.beside ending <+: path := (List.isPrefixOf_iff_prefix.mp inside).trans front
  have same : path.beside ending = path := by
    refine whole.eq_of_length ?_
    have length := List.length_pos_iff.mpr below
    simp only [beside, List.length_append, List.length_dropLast, List.length_singleton]
    omega
  have last : path.getLastD "" ++ ending = path.getLastD "" := by
    have names := congrArg (List.getLastD · "") same
    simpa [beside] using names
  have none : ending.length = 0 := by
    have lengths := congrArg String.length last
    rw [String.length_append] at lengths
    omega
  exact letters (String.length_eq_zero_iff.mp none)

theorem Path.beside_ne_nil (path : Path) (ending : String) : path.beside ending ≠ [] :=
  List.append_ne_nil_of_right_ne_nil _ (List.cons_ne_nil _ _)

theorem Path.beside_not_prefix {path : Path} {ending : String} (below : path ≠ []) (letters : ending ≠ "") :
    ¬ path.beside ending <+: path := by
  intro front
  have outside := beside_outside below letters List.prefix_rfl
  rw [List.isPrefixOf_iff_prefix.mpr front] at outside
  cases outside

theorem Path.besides_outside (path : Path) {ending other : String} (different : ending ≠ other) :
    (path.beside ending).isPrefixOf (path.beside other) = false := by
  refine Bool.eq_false_iff.mpr fun inside => different ?_
  have same := (List.isPrefixOf_iff_prefix.mp inside).eq_of_length (by simp [beside])
  simpa [beside, String.append_right_inj] using same

namespace FileTree

variable {tree : FileTree α} {path other : Path}

theorem mem_missing : other ∈ tree.missing path ↔ other <+: path ∧ tree.exists? other = false := by
  unfold missing Path.ancestors
  simp only [List.mem_filter, List.mem_append, List.mem_map, List.mem_range, List.mem_singleton,
    Bool.not_eq_true']
  refine and_congr_left fun _ => ?_
  constructor
  · rintro (⟨n, _, rfl⟩ | rfl)
    · exact List.take_prefix _ _
    · exact List.prefix_rfl
  · intro front
    rcases Nat.lt_or_ge other.length path.length with shorter | longer
    · exact .inl ⟨other.length, shorter, (List.prefix_iff_eq_take.mp front).symm⟩
    · exact .inr (front.eq_of_length_le longer)

theorem missing_eq_nil : tree.missing path = [] ↔ ∀ other, other <+: path → tree.exists? other = true := by
  rw [List.eq_nil_iff_forall_not_mem]
  simp [mem_missing]

theorem exists?_of_isDirectory (directory : tree.isDirectory path = true) : tree.exists? path = true := by
  unfold isDirectory at directory
  unfold exists?
  split at directory
  · rename_i found
    rw [found]
    rfl
  · cases directory

theorem get?_put_directory (tree : FileTree α) (path : Path) :
    (tree.put path .directory).get? path = some .directory := by
  by_cases root : path = []
  · subst root
    rfl
  · exact get?_put tree root _

theorem makeDirectory_eq_ok {made : FileTree α} (done : tree.makeDirectory path = .ok made) :
    made = tree.put path .directory := by
  unfold makeDirectory at done
  cases checked : path.check with
  | error fault =>
    rw [checked] at done
    cases done
  | ok _ =>
    simp only [checked, bind, Except.bind] at done
    repeat' split at done
    all_goals cases done
    rfl

end FileTree

namespace LogStorage

open Storing (run run_lift run_lift_eq_ok run_bind_of_ok run_bind_of_error run_bind_eq_ok)

variable {storage next : LogStorage} {path : Path}

theorem run_makeDirectories {paths : List Path}
    (made : run (makeDirectories paths) storage = (.ok (), next)) :
    ∃ tree, next = { storage with tree } ∧
      (∀ q, q ∉ paths → tree.get? q = storage.tree.get? q) ∧
      ∀ q ∈ paths, tree.get? q = some .directory := by
  induction paths generalizing storage with
  | nil =>
    cases made
    exact ⟨_, rfl, fun _ _ => rfl, nofun⟩
  | cons path rest ih =>
    obtain ⟨_, _, got, made⟩ := run_bind_eq_ok.mp made
    cases got
    obtain ⟨first, middle, put, made⟩ := run_bind_eq_ok.mp made
    obtain ⟨_, _, changed, made⟩ := run_bind_eq_ok.mp made
    cases changed
    obtain ⟨done, rfl⟩ := run_lift_eq_ok put
    have grown := FileTree.makeDirectory_eq_ok done
    subst grown
    obtain ⟨tree, rfl, kept, there⟩ := ih made
    refine ⟨tree, rfl, fun q outside => ?_, fun q inside => ?_⟩
    · obtain ⟨other, outside⟩ := not_or.mp (mt List.mem_cons.mpr outside)
      rw [kept q outside, FileTree.get?_put_other _ other]
    · by_cases later : q ∈ rest
      · exact there q later
      · obtain rfl := (List.mem_cons.mp inside).resolve_right later
        rw [kept q later, FileTree.get?_put_directory]

def target (storage : LogStorage) : Path := Path.resolve storage.directory storage.configured

theorem location_eq (storage : LogStorage) : storage.location =
    if storage.tree.isDirectory storage.target then storage.target ++ [defaultFile] else storage.target :=
  rfl

theorem location_of_target {tree : FileTree Database}
    (same : tree.isDirectory storage.target = storage.tree.isDirectory storage.target) :
    ({ storage with tree } : LogStorage).location = storage.location := by
  rw [location_eq, location_eq, ← same]
  rfl

theorem target_prefix (storage : LogStorage) : storage.target <+: storage.location := by
  rw [location_eq]
  split
  · exact List.prefix_append _ _
  · exact List.prefix_rfl

structure Placed (storage : LogStorage) (path : Path) : Prop where
  located : storage.location = path
  above : storage.tree.missing path.dropLast = []

theorem placed_of_resolve (resolved : run resolve storage = (.ok path, next)) :
    Placed next path ∧ path = storage.location ∧ next.prepared = storage.prepared ∧
      ∀ q, ¬ q <+: path.dropLast → next.tree.get? q = storage.tree.get? q := by
  obtain ⟨_, _, got, resolved⟩ := run_bind_eq_ok.mp resolved
  cases got
  obtain ⟨_, _, made, returned⟩ := run_bind_eq_ok.mp resolved
  cases returned
  obtain ⟨tree, rfl, kept, there⟩ := run_makeDirectories made
  -- The target is not made: it is there as a directory, or it lies below all that is made.
  have target : tree.get? storage.target = storage.tree.get? storage.target := by
    refine kept _ fun member => ?_
    obtain ⟨front, missing⟩ := FileTree.mem_missing.mp member
    rw [location_eq] at front
    split at front
    · rename_i directory
      cases (FileTree.exists?_of_isDirectory directory).symm.trans missing
    · rw [Path.eq_nil_of_prefix_dropLast front] at missing
      cases missing
  refine ⟨⟨location_of_target ?_, ?_⟩, rfl, rfl, fun q outside => ?_⟩
  · unfold FileTree.isDirectory
    rw [target]
  · refine FileTree.missing_eq_nil.mpr fun other front => ?_
    cases present : storage.tree.exists? other with
    | true =>
      have unmade : other ∉ storage.tree.missing storage.location.dropLast := fun member => by
        cases present.symm.trans (FileTree.mem_missing.mp member).2
      rwa [FileTree.exists?, kept _ unmade]
    | false =>
      rw [FileTree.exists?, there _ (FileTree.mem_missing.mpr ⟨front, present⟩)]
      rfl
  · exact kept q fun member => outside (FileTree.mem_missing.mp member).1

theorem Placed.change (placed : Placed storage path) {tree : FileTree Database}
    (same : ∀ q, q <+: path → q ≠ path → tree.get? q = storage.tree.get? q)
    (own : tree.isDirectory path = false) : Placed { storage with tree } path := by
  refine ⟨?_, FileTree.missing_eq_nil.mpr fun q front => ?_⟩
  · refine (location_of_target ?_).trans placed.located
    have front := storage.target_prefix
    rw [placed.located] at front
    by_cases settled : storage.target = path
    · have located := placed.located
      rw [location_eq, settled] at located
      cases directory : storage.tree.isDirectory path with
      | true => simp [directory] at located
      | false => rw [settled, own, directory]
    · unfold FileTree.isDirectory
      rw [same _ front settled]
  · by_cases whole : q = path
    · subst whole
      rw [Path.eq_nil_of_prefix_dropLast front]
      rfl
    · have present := FileTree.missing_eq_nil.mp placed.above q front
      rwa [FileTree.exists?, same q (front.trans (List.dropLast_prefix _)) whole]

theorem run_resolve (placed : Placed storage path) : run resolve storage = (.ok path, storage) := by
  have got : run (get : Storing LogStorage) storage = (.ok storage, storage) := rfl
  unfold resolve
  rw [run_bind_of_ok got]
  dsimp only
  rw [placed.located, placed.above]
  rfl

theorem Placed.open (placed : Placed storage path) {database : Database} {tree : FileTree Database}
    (opened : storage.tree.openFile path none = .ok (database, tree)) :
    Placed { storage with tree } path ∧ tree.get? path = some (.file database) ∧
      tree.isFilled path = storage.tree.isFilled path ∧
      ∀ q, q ≠ path → tree.get? q = storage.tree.get? q := by
  unfold FileTree.openFile at opened
  split at opened
  · rename_i found
    cases opened
    exact ⟨placed, found, rfl, fun _ _ => rfl⟩
  · cases opened
  · rename_i missing
    split at opened
    · cases opened
      have below : path ≠ [] := by
        rintro rfl
        cases missing
      have held := FileTree.get?_put storage.tree below (.file none)
      have others q (other : q ≠ path) := FileTree.get?_put_other storage.tree other (.file none)
      refine ⟨placed.change (fun q _ other => others q other) ?_, held, ?_, others⟩
      · rw [FileTree.isDirectory, held]
      · simp only [FileTree.isFilled, held, missing]
    · cases opened

structure Openable (storage : LogStorage) (path : Path) : Prop extends Placed storage path where
  checked : path.check = .ok ()
  short : ¬ longestPath < Path.octets (path.beside journalEnding).text

structure Connected (storage next : LogStorage) (path : Path) (database : Database) : Prop
    extends Openable next path where
  place : path = storage.location
  held : next.tree.get? path = some (.file database)
  filled : next.tree.isFilled path = storage.tree.isFilled path
  elsewhere : ∀ q, ¬ q <+: path → next.tree.get? q = storage.tree.get? q
  noted : next.prepared = storage.prepared

theorem connected_of_connect {database : Database}
    (connected : run connect storage = (.ok (path, database), next)) :
    Connected storage next path database := by
  obtain ⟨place, middle, resolved, checking⟩ := run_bind_eq_ok.mp connected
  obtain ⟨placed, located, noted, kept⟩ := placed_of_resolve resolved
  obtain ⟨_, _, check, measuring⟩ := run_bind_eq_ok.mp checking
  obtain ⟨checked, rfl⟩ := run_lift_eq_ok check
  split at measuring
  · cases measuring
  · rename_i short
    obtain ⟨_, _, got, opening⟩ := run_bind_eq_ok.mp measuring
    cases got
    obtain ⟨⟨_, tree⟩, _, «open», changing⟩ := run_bind_eq_ok.mp opening
    obtain ⟨opened, rfl⟩ := run_lift_eq_ok «open»
    obtain ⟨_, _, changed, returned⟩ := run_bind_eq_ok.mp changing
    cases changed
    cases returned
    obtain ⟨own, held, filled, others⟩ := placed.open opened
    refine ⟨⟨own, checked, short⟩, located, held, ?_, fun q outside => ?_, noted⟩
    · have before := kept path fun front => ?_
      · rw [filled, FileTree.isFilled, before, FileTree.isFilled]
      · rw [Path.eq_nil_of_prefix_dropLast front] at held
        cases held
    · have other : q ≠ path := by
        rintro rfl
        exact outside List.prefix_rfl
      rw [others q other, kept q fun front => outside (front.trans (List.dropLast_prefix _))]

theorem run_connect (openable : Openable storage path) {database : Database}
    (held : storage.tree.get? path = some (.file database)) :
    run connect storage = (.ok (path, database), storage) := by
  have checked : run (liftM path.check : Storing Unit) storage = (.ok (), storage) := by
    rw [run_lift, openable.checked]
  have got : run (get : Storing LogStorage) storage = (.ok storage, storage) := rfl
  have opened : run (liftM (storage.tree.openFile path none) : Storing _) storage =
      (.ok (database, storage.tree), storage) := by
    rw [run_lift, FileTree.openFile, held]
  unfold connect
  rw [run_bind_of_ok (run_resolve openable.toPlaced), run_bind_of_ok checked]
  dsimp only
  rw [if_neg openable.short, run_bind_of_ok got, run_bind_of_ok opened]
  rfl

/-- Whether it succeeds or not, a look at a database changes nothing but what lies beside it. -/
theorem get?_begun (tree : FileTree Database) {q : Path}
    (outside : ∀ ending ∈ [journalEnding, walEnding, sharedEnding], (path.beside ending).isPrefixOf q = false) :
    (begun tree path).2.get? q = tree.get? q := by
  have first := tree.get?_dropFilled_other (outside journalEnding (by simp))
  have second (tree : FileTree Database) := tree.get?_dropFilled_other (outside walEnding (by simp))
  unfold begun
  dsimp only
  split
  · rfl
  split
  · exact first
  split
  · exact first
  dsimp only
  split
  · exact (FileTree.get?_remove _ (outside sharedEnding (by simp))).trans ((second _).trans first)
  · exact (second _).trans first

theorem get?_begun_above (tree : FileTree Database) (below : path ≠ []) {q : Path} (front : q <+: path) :
    (begun tree path).2.get? q = tree.get? q := by
  refine get?_begun tree fun ending member => Path.beside_outside below (fun empty => ?_) front
  simp [empty, journalEnding, walEnding, sharedEnding] at member

theorem run_begin : run (begin path) storage =
    ((begun storage.tree path).1, { storage with tree := (begun storage.tree path).2 }) := by
  have got : run (get : Storing LogStorage) storage = (.ok storage, storage) := rfl
  unfold begin
  rw [run_bind_of_ok got]
  exact run_lift _

structure Quiet (tree : FileTree Database) (path : Path) : Prop where
  journal : tree.isDirectory (path.beside journalEnding) = false
  rolled : tree.isFilled (path.beside journalEnding) = false
  wal : tree.isDirectory (path.beside walEnding) = false
  taken : tree.isFilled (path.beside walEnding) = false

theorem Quiet.begun {tree : FileTree Database} (quiet : Quiet tree path) : begun tree path = (.ok false, tree) := by
  simp [LogStorage.begun, FileTree.dropFilled, quiet.journal, quiet.rolled, quiet.wal, quiet.taken]

theorem Quiet.congr {tree other : FileTree Database} (quiet : Quiet tree path)
    (journal : other.get? (path.beside journalEnding) = tree.get? (path.beside journalEnding))
    (wal : other.get? (path.beside walEnding) = tree.get? (path.beside walEnding)) : Quiet other path :=
  ⟨(FileTree.isDirectory_congr journal).trans quiet.journal, (FileTree.isFilled_congr journal).trans quiet.rolled,
    (FileTree.isDirectory_congr wal).trans quiet.wal, (FileTree.isFilled_congr wal).trans quiet.taken⟩

structure Absorbed (tree next : FileTree Database) (path : Path) : Prop where
  wal : next.get? (path.beside walEnding) =
    if tree.isFilled (path.beside walEnding) then none else tree.get? (path.beside walEnding)
  shared : next.get? (path.beside sharedEnding) =
    if tree.isFilled path && tree.isFilled (path.beside walEnding) then none
    else tree.get? (path.beside sharedEnding)

structure Cleared (tree next : FileTree Database) (path : Path) (ahead : Bool) : Prop
    extends Absorbed tree next path where
  ahead : ahead = (tree.isFilled path && tree.isFilled (path.beside walEnding))
  journal : tree.isFilled path = true → next.isDirectory (path.beside journalEnding) = false
  rolled : next.isFilled (path.beside journalEnding) = false
  free : next.isDirectory (path.beside walEnding) = false
  above : ∀ q, q <+: path → next.get? q = tree.get? q

theorem cleared_of_begun {tree next : FileTree Database} {ahead : Bool} (below : path ≠ [])
    (ok : begun tree path = (.ok ahead, next)) : Cleared tree next path ahead := by
  have apart {ending other : String} (different : ending ≠ other) := Path.besides_outside path different
  have above {q : Path} (front : q <+: path) := get?_begun_above tree below front
  rw [ok] at above
  unfold begun at ok
  dsimp only at ok
  split at ok
  · cases ok
  rename_i barred
  generalize rolled : tree.dropFilled (path.beside journalEnding) = first at ok
  have unrolled {q : Path} (out : (path.beside journalEnding).isPrefixOf q = false) :
      first.get? q = tree.get? q := by
    rw [← rolled]
    exact tree.get?_dropFilled_other out
  have wal := unrolled (apart (by decide : journalEnding ≠ walEnding))
  split at ok
  · cases ok
  rename_i free
  split at ok
  · cases ok
  obtain ⟨value, final⟩ := Prod.mk.inj ok
  obtain rfl := Except.ok.inj value
  rw [FileTree.isFilled_congr wal] at final ⊢
  have last {q : Path} (out : (path.beside sharedEnding).isPrefixOf q = false) :
      next.get? q = (first.dropFilled (path.beside walEnding)).get? q := by
    rw [← final]
    split
    · exact FileTree.get?_remove _ out
    · rfl
  have kept {q : Path} (out : (path.beside walEnding).isPrefixOf q = false)
      (far : (path.beside sharedEnding).isPrefixOf q = false) : next.get? q = first.get? q :=
    (last far).trans (first.get?_dropFilled_other out)
  have journal := kept (apart (by decide : walEnding ≠ journalEnding)) (apart (by decide))
  have taken := last (apart (by decide : sharedEnding ≠ walEnding))
  refine ⟨⟨?wal, ?shared⟩, rfl, fun filled => ?journal, ?rolled, ?free, fun _ => above⟩
  case journal =>
    rw [FileTree.isDirectory_congr journal, ← rolled, tree.isDirectory_dropFilled (Path.beside_ne_nil _ _)]
    simpa [filled] using barred
  case rolled =>
    rw [FileTree.isFilled_congr journal, ← rolled, tree.isFilled_dropFilled (Path.beside_ne_nil _ _)]
  case free =>
    rw [FileTree.isDirectory_congr taken, first.isDirectory_dropFilled (Path.beside_ne_nil _ _)]
    exact Bool.eq_false_iff.mpr free
  case wal =>
    rw [taken, first.get?_dropFilled (Path.beside_ne_nil _ _), FileTree.isFilled_congr wal, wal]
  case shared =>
    rw [← final]
    split
    · exact FileTree.get?_remove_below _ (Path.beside_ne_nil _ _) List.prefix_rfl
    · rw [first.get?_dropFilled_other (apart (by decide)), unrolled (apart (by decide))]

theorem Cleared.untaken {tree next : FileTree Database} {ahead : Bool} (cleared : Cleared tree next path ahead) :
    next.isFilled (path.beside walEnding) = false := by
  rw [FileTree.isFilled, cleared.wal]
  cases taken : tree.isFilled (path.beside walEnding) with
  | true => rfl
  | false => rwa [FileTree.isFilled] at taken

theorem Cleared.quiet {tree next : FileTree Database} {ahead : Bool} (cleared : Cleared tree next path ahead)
    (filled : tree.isFilled path = true) : Quiet next path :=
  ⟨cleared.journal filled, cleared.rolled, cleared.free, cleared.untaken⟩

def writable (storage : LogStorage) (path : Path) : Bool :=
  !((path.beside journalEnding).hasLongName || storage.tree.isDirectory (path.beside journalEnding))

theorem run_beginWrite : run (beginWrite path false) storage =
    if storage.writable path then
      (.ok (), { storage with tree := storage.tree.remove (path.beside journalEnding) })
    else (.error .databaseUnavailable, storage) := by
  unfold beginWrite writable
  have got : run (get : Storing LogStorage) storage = (.ok storage, storage) := rfl
  rw [run_bind_of_ok got]
  dsimp only
  split
  · rename_i blocked
    rw [blocked]
    rfl
  · rename_i free
    rw [Bool.eq_false_iff.mpr free]
    rfl

end LogStorage

end ContainerWarden

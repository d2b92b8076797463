import ContainerWarden.Proofs.EventLog.Calls
import ContainerWarden.Proofs.EventLog.Missing
import ContainerWarden.Proofs.EventLog.Within

namespace ContainerWarden

theorem Path.beside_outside_append {path : Path} {ending : String} (below : path ≠ []) (letters : ending ≠ "")
    (name : String) : (path.beside ending).isPrefixOf (path ++ [name]) = false := by
  refine Bool.eq_false_iff.mpr fun inside => beside_not_prefix below letters ?_
  refine List.prefix_of_prefix_length_le (List.isPrefixOf_iff_prefix.mp inside) (List.prefix_append _ _) ?_
  have length := List.length_pos_iff.mpr below
  simp only [beside, List.length_append, List.length_dropLast, List.length_singleton]
  omega

namespace FileTree

def HasTable (tree : FileTree Database) (path : Path) : Prop := ∃ log, tree.get? path = some (.file (some log))

theorem HasTable.isFile {tree : FileTree Database} {path : Path} (table : tree.HasTable path) :
    tree.IsFile path := by
  obtain ⟨log, found⟩ := table
  exact ⟨some log, found⟩

theorem HasTable.below {tree : FileTree Database} {path : Path} (table : tree.HasTable path) : path ≠ [] := by
  rintro rfl
  obtain ⟨log, found⟩ := table
  cases found

end FileTree

namespace LogStorage

open Storing

variable {origin storage next : LogStorage} {path q : Path} {database : Database}

def IsSeat (storage : LogStorage) (path : Path) : Prop :=
  path = storage.target ∨ path = storage.target ++ [defaultFile]

theorem isSeat_location (storage : LogStorage) : storage.IsSeat storage.location := by
  rw [location_eq]
  split
  · exact .inr rfl
  · exact .inl rfl

theorem IsSeat.outside (seat : storage.IsSeat q) {ending : String} (letters : ending ≠ "") :
    (storage.location.beside ending).isPrefixOf q = false := by
  have below := storage.location_ne_nil
  rcases seat with rfl | rfl
  · exact Path.beside_outside below letters storage.target_prefix
  · cases directory : storage.tree.isDirectory storage.target with
    | true =>
      have place : storage.location = storage.target ++ [defaultFile] := by rw [location_eq, if_pos directory]
      exact Path.beside_outside below letters (place ▸ List.prefix_rfl)
    | false =>
      have place : storage.location = storage.target := by
        rw [location_eq, directory]
        rfl
      rw [← place]
      exact Path.beside_outside_append below letters defaultFile

/-- No table at a seat is lost, and a path is noted only when its table is there. -/
structure Preserves (origin storage : LogStorage) : Prop where
  seats : storage.target = origin.target
  tables : ∀ q, origin.IsSeat q → origin.tree.HasTable q → storage.tree.HasTable q
  known : ∀ q ∈ origin.prepared, q ∈ storage.prepared
  noted : ∀ q ∈ storage.prepared, q ∈ origin.prepared ∨ storage.IsSeat q ∧ storage.tree.HasTable q

namespace Preserves

theorem isSeat (preserves : Preserves origin storage) (seat : origin.IsSeat q) : storage.IsSeat q := by
  rwa [IsSeat, preserves.seats]

theorem refl (storage : LogStorage) : Preserves storage storage :=
  ⟨rfl, fun _ _ table => table, fun _ member => member, fun _ member => .inl member⟩

theorem trans (first : Preserves origin storage) (second : Preserves storage next) :
    Preserves origin next := by
  refine ⟨second.seats.trans first.seats, fun q seat table => ?_, fun q member => ?_, fun q member => ?_⟩
  · exact second.tables q (first.isSeat seat) (first.tables q seat table)
  · exact second.known q (first.known q member)
  · rcases second.noted q member with before | new
    · exact (first.noted q before).imp_right fun ⟨seat, table⟩ =>
        ⟨second.isSeat seat, second.tables q seat table⟩
    · exact .inr new

theorem put {node : FileNode Database} (kept : storage.tree.HasTable path → ∃ log, node = .file (some log)) :
    Preserves storage { storage with tree := storage.tree.put path node } := by
  refine ⟨rfl, fun q _ table => ?_, fun _ member => member, fun _ member => .inl member⟩
  by_cases same : q = path
  · subst same
    obtain ⟨log, rfl⟩ := kept table
    exact ⟨log, FileTree.get?_put _ table.below _⟩
  · rwa [FileTree.HasTable, FileTree.get?_put_other _ same]

theorem bind {steps : Storing α} {f : α → Storing β} (first : Preserves storage (run steps storage).2)
    (rest : ∀ a next, run steps storage = (.ok a, next) → Preserves next (run (f a) next).2) :
    Preserves storage (run (steps >>= f) storage).2 := by
  cases ran : run steps storage with
  | mk outcome next =>
    rw [ran] at first
    cases outcome with
    | ok a =>
      rw [run_bind_of_ok ran]
      exact first.trans (rest a next ran)
    | error fault =>
      rw [run_bind_of_error ran]
      exact first

theorem ran {steps : Storing α} {outcome : Outcome α} (preserves : Preserves storage (run steps storage).2)
    (ran : run steps storage = (outcome, next)) : Preserves storage next := by
  rwa [ran] at preserves

theorem lift (outcome : Outcome α) : Preserves storage (run (liftM outcome : Storing α) storage).2 := by
  rw [run_lift]
  exact .refl storage

end Preserves

theorem preserves_makeDirectories {paths : List Path} (free : ∀ q ∈ paths, ¬ storage.tree.IsFile q) :
    Preserves storage (run (makeDirectories paths) storage).2 := by
  induction paths generalizing storage with
  | nil => exact .refl storage
  | cons path rest ih =>
    refine .bind (.refl storage) fun _ _ got => ?_
    cases got
    refine .bind (.lift _) fun tree _ made => ?_
    obtain ⟨done, rfl⟩ := run_lift_eq_ok made
    obtain rfl := FileTree.makeDirectory_eq_ok done
    refine .bind (.put fun table => absurd table.isFile (free path List.mem_cons_self)) fun _ _ changed => ?_
    cases changed
    refine ih fun q member file => ?_
    by_cases same : q = path
    · subst same
      obtain ⟨content, found⟩ := file
      cases (FileTree.get?_put_directory _ _).symm.trans found
    · refine free q (List.mem_cons_of_mem _ member) ?_
      rwa [FileTree.IsFile, FileTree.get?_put_other _ same] at file

theorem preserves_resolve : Preserves storage (run resolve storage).2 := by
  refine .bind (.refl storage) fun _ _ got => ?_
  cases got
  refine .bind (preserves_makeDirectories fun q member file => ?_) fun _ next _ => .refl next
  cases (FileTree.mem_missing.mp member).2.symm.trans file.exists?

theorem preserves_connect : Preserves storage (run connect storage).2 := by
  refine .bind preserves_resolve fun path placed _ => .bind (.lift _) fun _ _ checked => ?_
  obtain ⟨-, rfl⟩ := run_lift_eq_ok checked
  split
  · exact .refl _
  · refine .bind (.refl _) fun _ _ got => ?_
    cases got
    refine .bind (.lift _) fun ⟨database, tree⟩ _ «open» => ?_
    obtain ⟨opened, rfl⟩ := run_lift_eq_ok «open»
    refine .bind ?_ fun _ next _ => .refl next
    unfold FileTree.openFile at opened
    split at opened
    · cases opened
      exact .refl _
    · cases opened
    · rename_i missing
      split at opened
      · cases opened
        refine .put ?_
        rintro ⟨_, found⟩
        cases missing.symm.trans found
      · cases opened

theorem Preserves.clear {tree : FileTree Database}
    (same : ∀ q, storage.IsSeat q → tree.get? q = storage.tree.get? q) :
    Preserves storage { storage with tree } := by
  refine ⟨rfl, fun q seat table => ?_, fun _ member => member, fun _ member => .inl member⟩
  rwa [FileTree.HasTable, same q seat]

theorem preserves_begin (located : storage.location = path) :
    Preserves storage (run (begin path) storage).2 := by
  subst located
  rw [run_begin]
  refine .clear fun q seat => get?_begun _ fun ending member => seat.outside fun empty => ?_
  simp [empty, journalEnding, walEnding, sharedEnding] at member

theorem preserves_beginWrite (located : storage.location = path) (ahead : Bool) :
    Preserves storage (run (beginWrite path ahead) storage).2 := by
  subst located
  cases ahead with
  | true => exact .refl storage
  | false =>
    rw [run_beginWrite]
    split
    · exact .clear fun q seat => FileTree.get?_remove _ (seat.outside (by decide))
    · exact .refl storage

theorem preserves_makeTable (located : storage.location = path) (ahead : Bool) (database : Database) :
    Preserves storage (run (makeTable path ahead database) storage).2 := by
  cases database with
  | some log => exact .refl storage
  | none => exact .bind (preserves_beginWrite located ahead) fun _ next _ => .put fun _ => ⟨_, rfl⟩

theorem location_of_begin {outcome : Outcome Bool} (located : storage.location = path)
    (held : storage.tree.get? path = some (.file database)) (began : run (begin path) storage = (outcome, next)) :
    next.location = path ∧ next.tree.get? path = some (.file database) := by
  rw [run_begin] at began
  obtain ⟨-, rfl⟩ := Prod.mk.inj began
  have below := below_of_held held
  have above {q : Path} (front : q <+: path) := get?_begun_above storage.tree below front
  refine ⟨(location_of_target ?_).trans located, (above List.prefix_rfl).trans held⟩
  exact FileTree.isDirectory_congr (above (located ▸ storage.target_prefix))

theorem hasTable_of_makeTable {ahead : Bool} (held : storage.tree.get? path = some (.file database))
    (made : run (makeTable path ahead database) storage = (.ok (), next)) : next.tree.HasTable path := by
  cases database with
  | some log =>
    cases made
    exact ⟨log, held⟩
  | none =>
    obtain ⟨_, _, -, stored⟩ := run_bind_eq_ok.mp made
    cases stored
    exact ⟨_, FileTree.get?_put _ (below_of_held held) _⟩

theorem preserves_prepare : Preserves storage (run prepare storage).2 := by
  refine .bind preserves_resolve fun path placed resolved => .bind (.refl _) fun _ _ got => ?_
  cases got
  split
  · exact .refl _
  · refine .bind preserves_connect fun ⟨opened, database⟩ reached connecting => ?_
    have connected := connected_of_connect connecting
    obtain rfl := connected.place.trans (placed_of_resolve resolved).1.located
    refine .bind (preserves_begin connected.located) fun ahead middle began => ?_
    obtain ⟨located, held⟩ := location_of_begin connected.located connected.held began
    refine .bind (preserves_makeTable located ahead database) fun _ made making => ?_
    have kept := (preserves_makeTable located ahead database).ran making
    have seat : made.IsSeat opened := kept.isSeat (located ▸ middle.isSeat_location)
    refine ⟨rfl, fun _ _ table => table, fun _ => List.mem_cons_of_mem _, fun q member => ?_⟩
    rcases List.mem_cons.mp member with rfl | before
    · have table : made.tree.HasTable q := hasTable_of_makeTable held making
      exact .inr ⟨seat, table⟩
    · exact .inl before

theorem preserves_query (located : storage.location = path) (database : Database) :
    Preserves storage (run (query path database) storage).2 := by
  refine .bind (preserves_begin located) fun ahead next _ => ?_
  cases database <;> exact .refl next

theorem preserves_openLog : Preserves storage (run openLog storage).2 := by
  refine .bind preserves_prepare fun _ _ _ => .bind preserves_connect fun _ _ connected => ?_
  exact .bind (preserves_query (connected_of_connect connected).located _) fun _ next _ => .refl next

theorem location_of_query {log : EventLog} {ahead : Bool} (located : storage.location = path)
    (held : storage.tree.get? path = some (.file database))
    (queried : run (query path database) storage = (.ok (log, ahead), next)) : next.location = path := by
  obtain ⟨_, _, began, returned⟩ := run_bind_eq_ok.mp queried
  obtain ⟨located, -⟩ := location_of_begin located held began
  cases database with
  | some _ =>
    cases returned
    exact located
  | none => cases returned

theorem preserves_append (entry : LogEntry) : Preserves storage (run (append entry) storage).2 := by
  refine .bind preserves_prepare fun _ _ _ => .bind preserves_connect fun ⟨path, database⟩ opened connecting => ?_
  have connected := connected_of_connect connecting
  refine .bind (.lift _) fun _ _ raised => ?_
  obtain ⟨-, rfl⟩ := run_lift_eq_ok raised
  refine .bind (preserves_query connected.located _) fun ⟨_, ahead⟩ _ queried => ?_
  have located := location_of_query connected.located connected.held queried
  refine .bind (.lift _) fun appended _ kept => ?_
  obtain ⟨-, rfl⟩ := run_lift_eq_ok kept
  refine .bind (preserves_beginWrite located ahead) fun _ _ _ => ?_
  exact .put fun _ => ⟨appended, rfl⟩

theorem preserves_latest (limit component : Json) :
    Preserves storage (run (latest limit component) storage).2 :=
  .bind preserves_openLog fun _ _ _ => .lift _

theorem preserves_step (call : LogCall) : Preserves storage (storage.step call) := by
  cases call with
  | write entry => exact preserves_append entry
  | read limit component => exact preserves_latest limit component

/-- The path at which calls find the file was prepared once, but the file that is opened there has no table. -/
structure Bereft (storage : LogStorage) : Prop where
  known : storage.location ∈ storage.prepared
  bare : ∃ path next, run connect storage = (.ok (path, none), next)

theorem run_prepare_of_known (known : storage.location ∈ storage.prepared)
    (resolved : run resolve storage = (.ok path, next)) : run prepare storage = (.ok (), next) := by
  obtain ⟨-, rfl, same, -⟩ := placed_of_resolve resolved
  have got : run (get : Storing LogStorage) next = (.ok next, next) := rfl
  have found : next.prepared.contains storage.location = true := by
    rwa [same, List.contains_iff_mem]
  unfold prepare
  rw [run_bind_of_ok resolved, run_bind_of_ok got, if_pos found]
  rfl

theorem connect_after_prepare (prepared : run prepare storage = (.ok (), next)) :
    storage.Bereft ↔ ∃ path opened, run connect next = (.ok (path, none), opened) := by
  by_cases known : storage.location ∈ storage.prepared
  · obtain ⟨path, found, resolved, -⟩ := run_bind_eq_ok.mp prepared
    cases (run_prepare_of_known known resolved).symm.trans prepared
    rw [run_connect_of_resolve resolved]
    exact ⟨Bereft.bare, .mk known⟩
  · obtain ⟨log, ready, -⟩ := ready_of_prepare known prepared
    rw [run_connect ready.toOpenable ready.held]
    exact ⟨fun bereft => absurd bereft.known known, nofun⟩

structure Emptied (storage : LogStorage) (path : Path) : Prop extends Openable storage path where
  known : path ∈ storage.prepared
  held : storage.tree.get? path = some (.file none)

theorem Emptied.bereft (emptied : Emptied storage path) : storage.Bereft :=
  ⟨emptied.located.symm ▸ emptied.known, path, storage, run_connect emptied.toOpenable emptied.held⟩

theorem Emptied.after_begin (emptied : Emptied storage path) : Emptied (run (begin path) storage).2 path := by
  have above {q : Path} (front : q <+: path) :=
    get?_begun_above storage.tree (below_of_held emptied.held) front
  have held := (above List.prefix_rfl).trans emptied.held
  rw [run_begin]
  refine ⟨emptied.toOpenable.change (fun q front _ => above front) ?_, emptied.known, held⟩
  rw [FileTree.isDirectory, held]

/-- The table is not missed when the log is prepared, and the file is opened all the same. -/
theorem Bereft.reach (bereft : storage.Bereft) : ∃ ready opened, run prepare storage = (.ok (), ready) ∧
    run connect ready = (.ok (storage.location, none), opened) ∧ Emptied opened storage.location ∧
    opened.tree.isDirectory (storage.location.beside walEnding) =
      storage.tree.isDirectory (storage.location.beside walEnding) := by
  obtain ⟨path, opened, connecting⟩ := bereft.bare
  have connected := connected_of_connect connecting
  obtain rfl := connected.place
  obtain ⟨_, ready, resolved, -⟩ := run_bind_eq_ok.mp connecting
  have again := (run_connect_of_resolve resolved).trans connecting
  have known := (preserves_connect.ran connecting).known _ bereft.known
  have emptied : Emptied opened storage.location := ⟨connected.toOpenable, known, connected.held⟩
  refine ⟨ready, opened, run_prepare_of_known bereft.known resolved, again, emptied, ?_⟩
  refine FileTree.isDirectory_congr (connected.elsewhere _ ?_)
  exact Path.beside_not_prefix storage.location_ne_nil (by decide)

/-- An empty file is looked at with no regard to what lies beside it, but for a directory where the log that is
    written ahead would be. -/
theorem begun_bare {tree : FileTree Database} (bare : tree.isFilled path = false) : (begun tree path).1 =
    if tree.isDirectory (path.beside walEnding) then .error .diskFailure else .ok false := by
  have wal := tree.get?_dropFilled_other (Path.besides_outside path (by decide : journalEnding ≠ walEnding))
  simp only [begun, bare, Bool.false_and, Bool.false_eq_true, if_false, FileTree.isDirectory_congr wal]
  split <;> rfl

def bareFault (storage : LogStorage) : Fault :=
  if storage.tree.isDirectory (storage.location.beside walEnding) then .diskFailure else .tableMissing

theorem Emptied.run_query (emptied : Emptied storage path) : ∃ next,
    run (query path none) storage = (.error storage.bareFault, next) ∧ Emptied next path := by
  obtain rfl := emptied.located
  have bare : storage.tree.isFilled storage.location = false := by rw [FileTree.isFilled, emptied.held]
  have began : run (begin storage.location) storage = _ := run_begin
  have still := emptied.after_begin
  rw [began] at still
  rw [begun_bare bare] at began
  refine ⟨_, ?_, still⟩
  unfold query bareFault
  split at began
  · rename_i directory
    rw [if_pos directory]
    exact run_bind_of_error began _
  · rename_i free
    rw [if_neg free, run_bind_of_ok began]
    rfl

def Fails (storage : LogStorage) (fault : Fault) : LogCall → Prop
  | .write entry => (run (append entry) storage).1 = .error fault
  | .read limit component => (run (latest limit component) storage).1 = .error fault

def Misses (storage : LogStorage) (call : LogCall) : Prop := storage.Fails .tableMissing call

/-- What a call ends with that finds the file without the table. An entry without a level does not get to it. -/
def denial (storage : LogStorage) : LogCall → Fault
  | .write entry =>
    match entry.levelText with
    | .ok _ => storage.bareFault
    | .error fault => fault
  | .read _ _ => storage.bareFault

theorem Bereft.step_fails (bereft : storage.Bereft) (call : LogCall) :
    storage.Fails (storage.denial call) call ∧ (storage.step call).Bereft := by
  obtain ⟨ready, opened, prepared, connected, emptied, wal⟩ := bereft.reach
  obtain ⟨next, queried, still⟩ := emptied.run_query
  have same : opened.bareFault = storage.bareFault := by rw [bareFault, bareFault, emptied.located, wal]
  rw [same] at queried
  cases call with
  | write entry =>
    rw [Fails, LogStorage.step, denial]
    cases raised : entry.levelText with
    | error fault =>
      have lifted : run (liftM entry.levelText : Storing String) opened = (.error fault, opened) := by
        rw [run_lift, raised]
      have ended : run (append entry) storage = (.error fault, opened) := by
        unfold append
        rw [run_bind_of_ok prepared, run_bind_of_ok connected]
        exact run_bind_of_error lifted _
      rw [ended]
      exact ⟨rfl, emptied.bereft⟩
    | ok level =>
      have lifted : run (liftM entry.levelText : Storing String) opened = (.ok level, opened) := by
        rw [run_lift, raised]
      have ended : run (append entry) storage = (.error storage.bareFault, next) := by
        unfold append
        rw [run_bind_of_ok prepared, run_bind_of_ok connected]
        dsimp only
        rw [run_bind_of_ok lifted]
        exact run_bind_of_error queried _
      rw [ended]
      exact ⟨rfl, still.bereft⟩
  | read limit component =>
    have reached : run openLog storage = (.error storage.bareFault, next) := by
      unfold openLog
      rw [run_bind_of_ok prepared, run_bind_of_ok connected]
      exact run_bind_of_error queried _
    have ended : run (latest limit component) storage = (.error storage.bareFault, next) :=
      run_bind_of_error reached _
    rw [Fails, LogStorage.step, ended]
    exact ⟨rfl, still.bereft⟩

/-- Any step of a call but the look at the file that was opened fails for other reasons. -/
theorem bereft_of_misses {call : LogCall} (missing : storage.Misses call) : storage.Bereft := by
  cases call with
  | write entry =>
    obtain ⟨_, next, prepared, opening⟩ := misses_later neverMisses_prepare missing
    obtain ⟨⟨path, database⟩, opened, connected, failing⟩ := misses_later neverMisses_connect opening
    cases database with
    | none => exact (connect_after_prepare prepared).mpr ⟨path, opened, connected⟩
    | some log =>
      refine absurd failing (NeverMisses.bind (neverMisses_lift entry.levelText_ne) (fun _ => ?_) opened)
      refine (neverMisses_query path log).bind fun ⟨log, ahead⟩ => ?_
      refine (neverMisses_lift (log.append_ne entry)).bind fun _ => ?_
      exact (neverMisses_beginWrite path ahead).bind fun _ => neverMisses_change _
  | read limit component =>
    have opening := (misses_bind_iff fun (_, log) => neverMisses_lift (log.latest_ne limit component)).mp missing
    obtain ⟨_, next, prepared, opening⟩ := misses_later neverMisses_prepare opening
    obtain ⟨⟨path, database⟩, opened, connected, failing⟩ := misses_later neverMisses_connect opening
    cases database with
    | none => exact (connect_after_prepare prepared).mpr ⟨path, opened, connected⟩
    | some log => exact absurd failing ((neverMisses_query path log).bind (fun _ => neverMisses_pure _) opened)

theorem Fails.unique {fault other : Fault} {call : LogCall} (fails : storage.Fails fault call)
    (also : storage.Fails other call) : fault = other := by
  cases call <;> exact Except.error.inj (Eq.trans (Eq.symm fails) also)

theorem misses_iff {call : LogCall} : storage.Misses call ↔
    storage.Bereft ∧ storage.denial call = .tableMissing := by
  constructor
  · intro missing
    have bereft := bereft_of_misses missing
    exact ⟨bereft, (bereft.step_fails call).1.unique missing⟩
  · rintro ⟨bereft, denied⟩
    rw [Misses, ← denied]
    exact (bereft.step_fails call).1

theorem Bereft.step (bereft : storage.Bereft) (call : LogCall) : (storage.step call).Bereft :=
  (bereft.step_fails call).2

theorem Bereft.after (bereft : storage.Bereft) (calls : List LogCall) : (storage.after calls).Bereft := by
  induction calls generalizing storage with
  | nil => exact bereft
  | cons call rest ih => exact ih (bereft.step call)

theorem Bereft.no_table (bereft : storage.Bereft) : ¬ storage.tree.HasTable storage.location := by
  intro table
  obtain ⟨path, opened, connected⟩ := bereft.bare
  have found := connected_of_connect connected
  obtain rfl := found.place
  obtain ⟨log, table⟩ := (preserves_connect.ran connected).tables _ storage.isSeat_location table
  cases found.held.symm.trans table

end LogStorage

inductive LogTurn where
  | call (call : LogCall)
  | change (tree : FileTree Database)

namespace LogStorage

open Storing

variable {storage : LogStorage} {path : Path}

def turn (storage : LogStorage) : LogTurn → LogStorage
  | .call call => storage.step call
  | .change tree => { storage with tree }

def afterTurns (storage : LogStorage) (turns : List LogTurn) : LogStorage := turns.foldl turn storage

theorem afterTurns_concat (storage : LogStorage) (turns : List LogTurn) (last : LogTurn) :
    storage.afterTurns (turns ++ [last]) = (storage.afterTurns turns).turn last :=
  List.foldl_concat ..

/-- Others took the table from a path at which it had been made. -/
def Taken (storage : LogStorage) (turns : List LogTurn) (path : Path) : Prop :=
  ∃ before tree later, turns = before ++ .change tree :: later ∧
    path ∈ (storage.afterTurns before).prepared ∧ (storage.afterTurns before).tree.HasTable path ∧
    ¬ tree.HasTable path

theorem Taken.concat {turns : List LogTurn} (taken : storage.Taken turns path) (last : LogTurn) :
    storage.Taken (turns ++ [last]) path := by
  obtain ⟨before, tree, later, rfl, noted, table, lost⟩ := taken
  exact ⟨before, tree, later ++ [last], by simp, noted, table, lost⟩

theorem table_or_taken (unprepared : storage.prepared = []) (turns : List LogTurn) :
    ∀ path ∈ (storage.afterTurns turns).prepared, (storage.afterTurns turns).IsSeat path ∧
      ((storage.afterTurns turns).tree.HasTable path ∨ storage.Taken turns path) := by
  induction turns using List.reverseRecOn with
  | nil =>
    intro path noted
    rw [show storage.afterTurns [] = storage from rfl, unprepared] at noted
    cases noted
  | append_singleton turns last ih =>
    intro path noted
    rw [afterTurns_concat] at noted ⊢
    cases last with
    | call call =>
      have kept : Preserves (storage.afterTurns turns) _ := preserves_step call
      rcases kept.noted path noted with before | ⟨seat, table⟩
      · obtain ⟨seat, table | taken⟩ := ih path before
        · exact ⟨kept.isSeat seat, .inl (kept.tables path seat table)⟩
        · exact ⟨kept.isSeat seat, .inr (taken.concat _)⟩
      · exact ⟨seat, .inl table⟩
    | change tree =>
      obtain ⟨seat, table | taken⟩ := ih path noted
      · refine ⟨seat, ?_⟩
        by_cases stays : tree.HasTable path
        · exact .inl stays
        · exact .inr ⟨turns, tree, [], rfl, noted, table, stays⟩
      · exact ⟨seat, .inr (taken.concat _)⟩

structure Accounts (storage : LogStorage) (turns : List LogTurn) : Prop where
  misses : ∀ call, (storage.afterTurns turns).Misses call ↔
    (storage.afterTurns turns).Bereft ∧ (storage.afterTurns turns).denial call = .tableMissing
  fails : (storage.afterTurns turns).Bereft → ∀ call,
    (storage.afterTurns turns).Fails ((storage.afterTurns turns).denial call) call
  opens : ∀ ready path database opened, run prepare (storage.afterTurns turns) = (.ok (), ready) →
    run connect ready = (.ok (path, database), opened) →
    (database.isSome = true ↔ ¬ (storage.afterTurns turns).Bereft)
  taken : (storage.afterTurns turns).Bereft → storage.Taken turns (storage.afterTurns turns).location
  unnoticed : (storage.afterTurns turns).Bereft →
    ∃ ready, run prepare (storage.afterTurns turns) = (.ok (), ready)
  forever : (storage.afterTurns turns).Bereft →
    ∀ calls, ((storage.afterTurns turns).after calls).Bereft

end LogStorage

open LogStorage in
theorem table_missing_only_if_taken {storage : LogStorage} (unprepared : storage.prepared = [])
    (turns : List LogTurn) : storage.Accounts turns := by
  constructor
  case misses => exact fun _ => misses_iff
  case opens =>
    intro ready path database opened prepared connected
    rw [connect_after_prepare prepared, connected]
    cases database <;> simp
  case taken =>
    intro bereft
    have noted := table_or_taken unprepared turns _ bereft.known
    exact noted.2.resolve_left bereft.no_table
  case fails => exact fun bereft call => (bereft.step_fails call).1
  case unnoticed =>
    intro bereft
    obtain ⟨ready, -, prepared, -⟩ := bereft.reach
    exact ⟨ready, prepared⟩
  case forever => exact fun bereft => bereft.after

namespace LogStorage

def unwritten : LogStorage where
  tree := ⟨[]⟩
  directory := []
  configured := "logs/x.db"

def deletion : List LogTurn := [.call (.write ⟨.str "info", .str "up", .null, .null⟩), .change ⟨[]⟩]

theorem bereft_of_deletion : (unwritten.afterTurns deletion).Bereft where
  known := by decide +kernel
  bare := ⟨["logs", "x.db"], _, Prod.ext (Outcome.toOption_eq_some.mp (by decide +kernel)) rfl⟩

end LogStorage

open LogStorage Storing in
theorem table_missing_only_if_taken_of_deletion :
    unwritten.prepared = [] ∧ unwritten.Accounts deletion ∧ (unwritten.afterTurns deletion).Bereft ∧
      unwritten.Taken deletion (unwritten.afterTurns deletion).location ∧
      ¬ (unwritten.afterTurns (deletion.take 1)).Bereft := by
  have whole : ∀ turns, unwritten.Accounts turns := table_missing_only_if_taken rfl
  refine ⟨rfl, whole deletion, bereft_of_deletion, (whole deletion).taken bereft_of_deletion, fun bereft => ?_⟩
  have fails := (whole (deletion.take 1)).fails bereft (.read (.int 100) .null)
  have read : (run (latest (.int 100) .null) (unwritten.afterTurns (deletion.take 1))).1.isOk = true := by
    decide +kernel
  rw [fails] at read
  cases read

open LogStorage Storing in
/-- The file is deleted with its directory. A new process would make the table, this one does not. -/
theorem deleted_table_not_remade :
    let deleted := unwritten.afterTurns deletion
    (run openLog { deleted with prepared := [] }).1.isOk = true ∧ (run prepare deleted).1.isOk = true ∧
      deleted.Misses (.write ⟨.str "info", .str "up", .null, .null⟩) ∧
      deleted.Misses (.read (.int 100) .null) := by
  have missing : (unwritten.afterTurns deletion).bareFault = .tableMissing := if_neg (by decide +kernel)
  refine ⟨by decide +kernel, by decide +kernel, ?_, ?_⟩
  · exact misses_iff.mpr ⟨bereft_of_deletion, missing⟩
  · exact misses_iff.mpr ⟨bereft_of_deletion, missing⟩

end ContainerWarden

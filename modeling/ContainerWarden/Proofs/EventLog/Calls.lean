import ContainerWarden.Proofs.EventLog.Columns
import ContainerWarden.Proofs.EventLog.Storage

namespace ContainerWarden

open EventLog (fits isStorable textForm)

/-- The row is among those that a filter asks for. A filter that is empty in any form asks for all. -/
def LogRow.isAsked (component : Json) (row : LogRow) : Bool :=
  !component.isPresent || (row.component.isSome && row.component == textForm component)

theorem LogEntry.isAsked_row {entry : LogEntry}
    (texted : entry.component.isPresent = true → (textForm entry.component).isSome = true) (id : Nat) :
    (entry.row id).isAsked entry.component = true := by
  unfold LogRow.isAsked
  cases present : entry.component.isPresent with
  | true => simp [LogEntry.row, texted present]
  | false => rfl

theorem LogEntry.isStorable_component {entry : LogEntry} (accepted : entry.isAccepted = true) :
    isStorable entry.component = true := by
  simp only [LogEntry.isAccepted, Bool.and_eq_true] at accepted
  exact accepted.1.1.1.2

namespace EventLog

variable {log : EventLog} {limit : Int} {component : Json}

theorem rowCount_of_fits (fitting : fits limit = true) (position : Nat) :
    rowCount position (.int limit) = .ok limit :=
  if_pos fitting

theorem ofComponent_textForm (present : component.isPresent = true) (rows : List LogRow) :
    ofComponent (textForm component) rows = rows.filter (·.isAsked component) := by
  unfold ofComponent
  split
  · rename_i text kept
    refine List.filter_congr fun row _ => ?_
    simp only [LogRow.isAsked, present, kept]
    cases row.component <;> simp
  · rename_i none
    refine (List.filter_eq_nil_iff.mpr fun row _ => ?_).symm
    simp only [LogRow.isAsked, present, none]
    cases row.component <;> simp

theorem latest_of_isStorable (fitting : fits limit = true)
    (storable : component.isPresent = true → isStorable component = true) :
    log.latest (.int limit) component =
      .ok (limited limit (log.rows.filter (·.isAsked component))) := by
  unfold latest
  split
  · rename_i present
    rw [columnText_of_isStorable (storable present), rowCount_of_fits fitting,
      ← ofComponent_textForm present]
    rfl
  · rename_i absent
    have all : log.rows.filter (·.isAsked component) = log.rows :=
      List.filter_eq_self.mpr fun row _ => by simp [LogRow.isAsked, absent]
    rw [rowCount_of_fits fitting, all]
    rfl

theorem latest_of_not_isStorable (log : EventLog) (limit : Json) (present : component.isPresent = true)
    (unstorable : isStorable component = false) : ∃ fault, log.latest limit component = .error fault := by
  unfold latest
  rw [if_pos present]
  cases kept : columnText 1 component with
  | ok text => cases unstorable.symm.trans (isStorable_of_columnText kept).1
  | error fault => exact ⟨fault, rfl⟩

def admitted (limit : Int) (rows : Nat) : Nat := if limit < 0 then rows else min limit.toNat rows

theorem limited_prefix (limit : Int) (rows : List LogRow) : limited limit rows <+: rows := by
  unfold limited
  split
  · exact List.prefix_rfl
  · exact List.take_prefix _ _

theorem length_limited (limit : Int) (rows : List LogRow) :
    (limited limit rows).length = admitted limit rows.length := by
  unfold limited admitted
  split
  · rfl
  · exact List.length_take

end EventLog

inductive LogCall where
  | write (entry : LogEntry)
  | read (limit component : Json)

namespace LogCall

def kept? : LogCall → Option LogEntry
  | .write entry => if entry.isAccepted then some entry else none
  | .read _ _ => none

def rows (calls : List LogCall) : List LogRow :=
  (calls.filterMap kept?).mapIdx fun n entry => entry.row (n + 1)

def added (call : LogCall) (size : Nat) : List LogRow :=
  (call.kept?.map fun entry => entry.row (size + 1)).toList

theorem rows_concat (calls : List LogCall) (call : LogCall) :
    rows (calls ++ [call]) = rows calls ++ call.added (rows calls).length := by
  unfold rows added
  rw [List.filterMap_append]
  cases kept : call.kept? with
  | none => simp [kept]
  | some entry => simp [kept]

theorem length_added (call : LogCall) (size : Nat) : (call.added size).length = (call.added 0).length := by
  unfold added
  cases call.kept? <;> rfl

theorem rows_append (calls more : List LogCall) :
    ∃ later, rows (calls ++ more) = rows calls ++ later ∧ later.length = (rows more).length := by
  induction more using List.reverseRecOn with
  | nil => exact ⟨[], by simp, rfl⟩
  | append_singleton more call ih =>
    obtain ⟨later, whole, size⟩ := ih
    refine ⟨later ++ call.added (rows (calls ++ more)).length, ?_, ?_⟩
    · rw [← List.append_assoc, rows_concat, whole, List.append_assoc]
    · rw [rows_concat, List.length_append, List.length_append, size, length_added,
        length_added _ (rows more).length]

end LogCall

namespace LogStorage

open Storing (run)

variable {storage : LogStorage} {path : Path} {rows : List LogRow}

def step (storage : LogStorage) : LogCall → LogStorage
  | .write entry => (run (append entry) storage).2
  | .read limit component => (run (latest limit component) storage).2

def after (storage : LogStorage) (calls : List LogCall) : LogStorage := calls.foldl step storage

structure Tells (storage : LogStorage) (path : Path) (rows : List LogRow) : Prop where
  log : (run openLog storage).1 = .ok (path, ⟨rows.reverse⟩)
  writes : ∀ entry, (run (append entry) storage).1.isOk = entry.isAccepted
  admits : ∀ entry, entry.isUnicode = true → (run (append entry) storage).1.isOk = entry.isTyped
  reads : ∀ limit component, fits limit = true →
    (component.isPresent = true → isStorable component = true) →
    ∃ found, (run (latest (.int limit) component) storage).1 = .ok found ∧
      found <+: (rows.filter (·.isAsked component)).reverse ∧
      found.length = EventLog.admitted limit (rows.countP (·.isAsked component))
  refuses : ∀ limit component, component.isPresent = true → isStorable component = false →
    (run (latest limit component) storage).1.isOk = false

theorem Opens.write (opens : Opens storage path ⟨rows.reverse⟩) (entry : LogEntry) :
    (run (append entry) storage).1.isOk = entry.isAccepted ∧ Opens (run (append entry) storage).2 path
      ⟨(rows ++ (LogCall.write entry).added rows.length).reverse⟩ := by
  obtain ⟨name, next, prepared, ready⟩ := opens
  rw [(sameCalls_of_prepare ready prepared).writes]
  cases accepted : entry.isAccepted with
  | true =>
    rw [run_append_of_ok ready (EventLog.append_of_isAccepted _ accepted), if_neg (Bool.eq_false_iff.mp name)]
    refine ⟨rfl, ?_⟩
    simpa [LogCall.added, LogCall.kept?, accepted, EventLog.size] using (ready.store _).opens name
  | false =>
    obtain ⟨fault, refused⟩ := EventLog.append_of_not_isAccepted ⟨rows.reverse⟩ accepted
    rw [run_append_of_error ready refused]
    refine ⟨rfl, ?_⟩
    simpa [LogCall.added, LogCall.kept?, accepted] using ready.opens name

theorem Opens.tells (opens : Opens storage path ⟨rows.reverse⟩) : Tells storage path rows := by
  have writes := opens.write
  obtain ⟨-, next, prepared, ready⟩ := opens
  have same := sameCalls_of_prepare ready prepared
  constructor
  case log => rw [same.opens, run_openLog ready]
  case writes => exact fun entry => (writes entry).1
  case admits =>
    intro entry written
    rw [(writes entry).1, LogEntry.isAccepted_of_isUnicode written]
  case reads =>
    intro limit component fitting storable
    have newest := EventLog.limited_prefix limit (rows.reverse.filter (·.isAsked component))
    have amount := EventLog.length_limited limit (rows.reverse.filter (·.isAsked component))
    rw [List.filter_reverse] at newest amount
    rw [List.length_reverse, ← List.countP_eq_length_filter] at amount
    refine ⟨_, ?_, newest, amount⟩
    rw [same.reads, run_latest ready, EventLog.latest_of_isStorable fitting storable, List.filter_reverse]
  case refuses =>
    intro limit component present unstorable
    obtain ⟨fault, refused⟩ :=
      EventLog.latest_of_not_isStorable ⟨rows.reverse⟩ limit present unstorable
    rw [same.reads, run_latest ready, refused]
    rfl

theorem Opens.step (opens : Opens storage path ⟨rows.reverse⟩) (call : LogCall) :
    Opens (storage.step call) path ⟨(rows ++ call.added rows.length).reverse⟩ := by
  cases call with
  | write entry => exact (opens.write entry).2
  | read limit component =>
    obtain ⟨name, next, prepared, ready⟩ := opens
    rw [LogStorage.step, (sameCalls_of_prepare ready prepared).reads, run_latest ready]
    simpa [LogCall.added, LogCall.kept?] using ready.opens name

theorem Opens.after (opens : Opens storage path {}) (calls : List LogCall) :
    Opens (storage.after calls) path ⟨(LogCall.rows calls).reverse⟩ := by
  induction calls using List.reverseRecOn with
  | nil => exact opens
  | append_singleton calls call ih =>
    have last : storage.after (calls ++ [call]) = (storage.after calls).step call :=
      List.foldl_concat ..
    rw [last, LogCall.rows_concat]
    exact ih.step call

theorem Tells.finds (tells : Tells storage path rows) {older newer : List LogRow} {row : LogRow}
    (split : rows = older ++ row :: newer) {component : Json} (asked : row.isAsked component = true)
    (storable : isStorable component = true) {limit : Int} (fitting : fits limit = true)
    (reach : limit < 0 ∨ newer.length < limit) :
    ∃ found, (run (latest (.int limit) component) storage).1 = .ok found ∧ row ∈ found := by
  obtain ⟨found, read, newest, amount⟩ := tells.reads limit component fitting fun _ => storable
  refine ⟨found, read, ?_⟩
  have order : (rows.filter (·.isAsked component)).reverse =
      (newer.filter (·.isAsked component)).reverse ++
        row :: (older.filter (·.isAsked component)).reverse := by
    simp [split, asked]
  have skipped : (newer.filter (·.isAsked component)).reverse.length < found.length := by
    have fewer := List.countP_le_length (l := newer) (p := (·.isAsked component))
    have count : rows.countP (·.isAsked component) =
        older.countP (·.isAsked component) + (newer.countP (·.isAsked component) + 1) := by
      simp [split, asked]
    rw [List.length_reverse, ← List.countP_eq_length_filter, amount, EventLog.admitted, count]
    split <;> omega
  have place := List.prefix_iff_getElem?.mp newest _ skipped
  rw [order, List.getElem?_append_right (Nat.le_refl _), Nat.sub_self] at place
  rw [Option.some.inj place]
  exact List.getElem_mem skipped

/-- The log after calls: its rows, and what becomes of them. -/
structure Keeps (storage : LogStorage) (path : Path) (calls : List LogCall) : Prop where
  tells : (storage.after calls).Tells path (LogCall.rows calls)
  forever : ∀ more, ∃ later, (storage.after (calls ++ more)).Tells path (LogCall.rows calls ++ later)
  adds : ∀ entry, entry.isAccepted = true → ((storage.after calls).step (.write entry)).Tells path
    (LogCall.rows calls ++ [entry.row ((LogCall.rows calls).length + 1)])
  rejects : ∀ entry, entry.isAccepted = false →
    ((storage.after calls).step (.write entry)).Tells path (LogCall.rows calls)
  only : ∀ limit component,
    ((storage.after calls).step (.read limit component)).Tells path (LogCall.rows calls)
  finds : ∀ before entry more, calls = before ++ .write entry :: more → entry.isAccepted = true →
    (entry.component.isPresent = true → (textForm entry.component).isSome = true) →
    ∀ limit, fits limit = true → limit < 0 ∨ (LogCall.rows more).length < limit →
    ∃ found, (run (latest (.int limit) entry.component) (storage.after calls)).1 = .ok found ∧
      entry.row ((LogCall.rows before).length + 1) ∈ found

end LogStorage

open LogStorage in
/-- A log that is empty at first keeps the rows of all entries that can be rows. Where the name of its file
    leaves no room for that of the journal it could only be read. -/
theorem log_keeps_accepted_entries {storage : LogStorage} {path : Path} (unprepared : storage.prepared = [])
    (name : (path.beside journalEnding).hasLongName = false)
    (fresh : (Storing.run openLog storage).1 = .ok (path, {})) (calls : List LogCall) :
    storage.Keeps path calls := by
  have opens : Opens storage path {} := opens_of_openLog name unprepared (Prod.ext fresh rfl)
  have now := opens.after calls
  constructor
  case tells => exact now.tells
  case forever =>
    intro more
    obtain ⟨later, whole, -⟩ := LogCall.rows_append calls more
    exact ⟨later, whole ▸ (opens.after (calls ++ more)).tells⟩
  case adds =>
    intro entry accepted
    simpa [LogCall.added, LogCall.kept?, accepted] using (now.step (.write entry)).tells
  case rejects =>
    intro entry rejected
    simpa [LogCall.added, LogCall.kept?, rejected] using (now.step (.write entry)).tells
  case only =>
    intro limit component
    simpa [LogCall.added, LogCall.kept?] using (now.step (.read limit component)).tells
  case finds =>
    intro before entry more split accepted texted limit fitting reach
    obtain ⟨newer, whole, size⟩ := LogCall.rows_append (before ++ [.write entry]) more
    have rows : LogCall.rows calls =
        LogCall.rows before ++ entry.row ((LogCall.rows before).length + 1) :: newer := by
      rw [split, List.append_cons before, whole, LogCall.rows_concat]
      simp [LogCall.added, LogCall.kept?, accepted]
    rw [← size] at reach
    exact now.tells.finds rows (entry.isAsked_row texted _) (entry.isStorable_component accepted) fitting reach

def LogStorage.mounted : LogStorage where
  tree := ⟨[(["data"], .directory)]⟩
  directory := ["app"]
  configured := "/data"

def LogStorage.mountedCalls : List LogCall :=
  [.write ⟨.str (Text.ofUnicode "straße"), .str "up", .int 5, .null⟩,
    .write ⟨.str "info", .null, .int 5, .null⟩, .read (.int 3) (.str "5"),
    .write ⟨.str "error", .str (Text.ofUnicode (String.ofList [Char.ofNat 0x10F000, Char.ofNat 0x10FFFF])),
      .str "5", .bool true⟩]

open LogStorage in
theorem log_keeps_accepted_entries_in_mounted_directory :
    mounted.prepared = [] ∧ (Path.beside ["data", "hostreaper.db"] journalEnding).hasLongName = false ∧
      (Storing.run openLog mounted).1 = .ok (["data", "hostreaper.db"], {}) ∧
      mounted.Keeps ["data", "hostreaper.db"] mountedCalls ∧
      (LogCall.rows mountedCalls).map (fun row => (row.id, row.level, row.component)) =
        [(1, "STRASSE", some "5"), (2, "ERROR", some "5")] := by
  have name : (Path.beside ["data", "hostreaper.db"] journalEnding).hasLongName = false := by decide +kernel
  have empty : (Storing.run openLog mounted).1 = .ok (["data", "hostreaper.db"], {}) :=
    Outcome.toOption_eq_some.mp (by decide +kernel)
  exact ⟨rfl, name, empty, log_keeps_accepted_entries rfl name empty _, by decide +kernel⟩

end ContainerWarden

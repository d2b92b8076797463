import ContainerWarden.Proofs.Duplicate.Calls
import ContainerWarden.Proofs.EventLog.Columns
import ContainerWarden.Proofs.Guard.Rounds
import ContainerWarden.Proofs.Status.Tally

namespace ContainerWarden

namespace Guard

inductive Beat where
  | check (stops : Bool)
  | listing
  | wait (seconds : Float)

def beat? : Exchange → Option Beat
  | ⟨.stopping, stops⟩ => some (.check stops)
  | ⟨.list _, _⟩ => some .listing
  | ⟨.rest seconds, _⟩ => some (.wait seconds)
  | _ => none

def Beat.wait? : Beat → Option Float
  | .wait seconds => some seconds
  | _ => none

def waited? (exchange : Exchange) : Option Float := (beat? exchange).bind Beat.wait?

def waits (trace : List Exchange) : List Float := trace.filterMap waited?

theorem waits_eq_beats (trace : List Exchange) :
    waits trace = (trace.filterMap beat?).filterMap Beat.wait? := List.filterMap_filterMap.symm

def isAlarm (entry : LogEntry) : Bool :=
  entry.level.isText "ERROR" &&
    (entry.begins "Failed to check for bad metadata: " || entry.begins "Dedup tick failed: ")

def alarm? : Exchange → Option LogEntry
  | ⟨.log entry, _⟩ => if isAlarm entry then some entry else none
  | _ => none

def alarmOf : Outcome α → Option LogEntry
  | .ok _ => none
  | .error fault => some (checkFailure fault)

theorem isAlarm_checkFailure (fault : Fault) : isAlarm (checkFailure fault) = true := by
  have level : (checkFailure fault).level.isText "ERROR" = true := rfl
  rw [isAlarm, level, Bool.true_and, Bool.or_eq_true]
  rcases checkFailure_message fault with ⟨rest, shown⟩ | ⟨rest, shown⟩
  · exact .inl (LogEntry.begins_of_append shown)
  · exact .inr (LogEntry.begins_of_append shown)

theorem isAlarm_of_lead {entry : LogEntry} {lead rest : String} (shown : entry.message = .str (lead ++ rest))
    (check : ("Failed to check for bad metadata: ".toList.isPrefixOf lead.toList ||
      lead.toList.isPrefixOf "Failed to check for bad metadata: ".toList) = false)
    (tick : ("Dedup tick failed: ".toList.isPrefixOf lead.toList ||
      lead.toList.isPrefixOf "Dedup tick failed: ".toList) = false) : isAlarm entry = false := by
  rw [isAlarm, LogEntry.not_begins_of_append shown check, LogEntry.not_begins_of_append shown tick,
    Bool.or_false, Bool.and_false]

theorem isAlarm_stopFailure (id : Json) (fault : Fault) :
    isAlarm (Duplicate.stopFailure id fault) = false :=
  isAlarm_of_lead (Duplicate.stopFailure_message id fault) (by decide) (by decide)

theorem isAlarm_announcement (id : Json) : isAlarm (Duplicate.announcement id) = false :=
  isAlarm_of_lead rfl (by decide) (by decide)

theorem isAlarm_intervalFailure (cadence : Cadence Float) (fault : Fault) :
    isAlarm (intervalFailure cadence fault) = false :=
  isAlarm_of_lead (intervalFailure_message cadence fault) (by decide) (by decide)

def Aside : Effect → Prop
  | .list _ | .stop _ _ | .log _ | .stopping => True
  | .count .dedupPasses _ | .count .duplicatesStopped _ => True
  | _ => False

theorem Aside.value {effect : Effect} (aside : Aside effect) (status : Status) :
    (effect.onStatus status).value .dedupInterval = status.value .dedupInterval := by
  cases effect with
  | list | stop | log | stopping => rfl
  | count field amount =>
    have different : StatusField.dedupInterval ≠ field := by
      rintro rfl
      exact aside
    exact Status.value_count_of_ne different amount
  | _ => exact aside.elim

theorem Aside.waited {exchange : Exchange} (aside : Aside exchange.1) : waited? exchange = none := by
  obtain ⟨effect, reply⟩ := exchange
  cases effect with
  | rest seconds => exact aside.elim
  | _ => rfl

theorem aside_of_afterListing {effect : Effect} (after : Duplicate.AfterListing effect) : Aside effect := by
  cases effect with
  | stop | log => trivial
  | count field amount =>
    cases field with
    | dedupPasses | duplicatesStopped => trivial
    | _ => exact after.elim
  | _ => exact after.elim

theorem beat_of_afterListing {exchange : Exchange} (after : Duplicate.AfterListing exchange.1) :
    beat? exchange = none := by
  obtain ⟨effect, reply⟩ := exchange
  cases effect with
  | list | rest | stopping => exact after.elim
  | _ => rfl

theorem alarm_of_afterListing {exchange : Exchange} (after : Duplicate.AfterListing exchange.1) :
    alarm? exchange = none := by
  obtain ⟨effect, reply⟩ := exchange
  cases effect with
  | log row =>
    obtain ⟨id, rfl | ⟨fault, rfl⟩⟩ := after
    · simp only [alarm?, isAlarm_announcement, Bool.false_eq_true, if_false]
    · simp only [alarm?, isAlarm_stopFailure, Bool.false_eq_true, if_false]
  | _ => rfl

/-- At every moment the status shows the wait that is being taken, or else the latest one. -/
def ShowsWaits (trace : List Exchange) : Prop :=
  ∀ (status : Status) (before after : List Exchange), before ++ after = trace →
    (status.after before).value .dedupInterval =
      ((waits (before ++ after.take 1)).getLast?.map Json.float).getD (status.value .dedupInterval)

namespace ShowsWaits

variable {trace : List Exchange}

theorem nil : ShowsWaits [] := by
  intro status before after split
  obtain ⟨rfl, rfl⟩ := List.append_eq_nil_iff.mp split
  rfl

theorem skip {exchange : Exchange} (aside : Aside exchange.1) (shown : ShowsWaits trace) :
    ShowsWaits (exchange :: trace) := by
  intro status before after split
  cases before with
  | nil =>
    subst split
    simp only [List.nil_append, List.take_succ_cons, List.take_zero, waits, List.filterMap_cons,
      aside.waited, List.filterMap_nil]
    rfl
  | cons head before =>
    obtain ⟨rfl, rest⟩ := List.cons.inj split
    have kept := shown (head.1.onStatus status) before after rest
    rw [aside.value] at kept
    have none : waits (head :: before ++ after.take 1) = waits (before ++ after.take 1) := by
      simp only [waits, List.cons_append, List.filterMap_cons, aside.waited]
    rw [none]
    exact kept

theorem skip_all {front : List Exchange} (aside : ∀ exchange ∈ front, Aside exchange.1)
    (shown : ShowsWaits trace) : ShowsWaits (front ++ trace) := by
  induction front with
  | nil => exact shown
  | cons exchange front ih =>
    obtain ⟨own, others⟩ := List.forall_mem_cons.mp aside
    exact skip own (ih others)

/-- The wait is shown, and then taken. -/
theorem wait {seconds : Float} {reply : Outcome Unit} (shown : ShowsWaits trace) :
    ShowsWaits (⟨.assign .dedupInterval (.float seconds), ()⟩ :: ⟨.rest seconds, reply⟩ :: trace) := by
  intro status before after split
  cases before with
  | nil =>
    obtain rfl := split
    rfl
  | cons head before =>
    obtain ⟨rfl, rest⟩ := List.cons.inj split
    cases before with
    | nil =>
      -- Between the two steps the wait is shown and about to be taken.
      obtain rfl := rest
      exact Status.value_put _
    | cons second before =>
      obtain ⟨rfl, others⟩ := List.cons.inj rest
      have kept := shown (status.put StatusField.dedupInterval.label (.float seconds)) before after others
      rw [Status.value_put] at kept
      have later : waits (⟨.assign .dedupInterval (.float seconds), ()⟩ :: ⟨.rest seconds, reply⟩ ::
          (before ++ after.take 1)) = seconds :: waits (before ++ after.take 1) := rfl
      have through : ((seconds :: waits (before ++ after.take 1)).getLast?.map Json.float).getD
          (status.value .dedupInterval) =
          ((waits (before ++ after.take 1)).getLast?.map Json.float).getD (.float seconds) := by
        rw [List.getLast?_cons]
        cases (waits (before ++ after.take 1)).getLast? <;> rfl
      rw [List.cons_append, List.cons_append, later, through]
      exact kept

end ShowsWaits

section Passes

variable {settings : Settings} {cadence : Cadence Float} {own : List Exchange}
  {reached : Outcome (List Json)} {passes : List (List Exchange × Outcome (List Json))}

theorem aside_of_pass (passed : (Duplicate.pass settings).Runs own reached) :
    ∀ exchange ∈ own ++ checkRows reached ++ intervalRows cadence, Aside exchange.1 := by
  obtain ⟨reply, rest, rfl, later⟩ := Duplicate.listing_first passed
  intro exchange member
  rcases List.mem_append.mp member with member | member
  · rcases List.mem_append.mp member with member | member
    · rcases List.mem_cons.mp member with rfl | member
      · trivial
      · exact aside_of_afterListing (later exchange member)
    · cases reached with
      | ok ids => cases member
      | error fault =>
        obtain rfl := List.mem_singleton.mp member
        trivial
  · unfold intervalRows at member
    split at member
    · cases member
    · obtain rfl := List.mem_singleton.mp member
      trivial

theorem filterMap_intervalRows {f : Exchange → Option β}
    (unseen : ∀ fault, f ⟨.log (intervalFailure cadence fault), .ok ()⟩ = none) :
    (intervalRows cadence).filterMap f = [] := by
  unfold intervalRows
  split
  · rfl
  · rename_i fault _
    rw [List.filterMap_cons, unseen, List.filterMap_nil]

theorem beats_round (passed : (Duplicate.pass settings).Runs own reached) :
    (round cadence own reached).filterMap beat? = [.listing] := by
  obtain ⟨reply, rest, rfl, later⟩ := Duplicate.listing_first passed
  have listed : (⟨.list true, reply⟩ :: rest).filterMap beat? = [.listing] := by
    have silent : rest.filterMap beat? = [] :=
      List.filterMap_eq_nil_iff.mpr fun exchange member => beat_of_afterListing (later exchange member)
    rw [List.filterMap_cons]
    simp only [beat?, silent]
  have checked : (checkRows reached).filterMap beat? = [] := by cases reached <;> rfl
  have computed : (intervalRows cadence).filterMap beat? = [] := filterMap_intervalRows fun _ => rfl
  simp only [round, List.filterMap_append, listed, checked, computed, List.append_nil]
  rfl

theorem alarms_round (passed : (Duplicate.pass settings).Runs own reached) :
    (round cadence own reached).filterMap alarm? = (alarmOf reached).toList := by
  obtain ⟨reply, rest, rfl, later⟩ := Duplicate.listing_first passed
  have silent : (⟨.list true, reply⟩ :: rest).filterMap alarm? = [] := by
    have none : rest.filterMap alarm? = [] :=
      List.filterMap_eq_nil_iff.mpr fun exchange member => alarm_of_afterListing (later exchange member)
    rw [List.filterMap_cons]
    simp only [alarm?, none]
  have checked : (checkRows reached).filterMap alarm? = (alarmOf reached).toList := by
    cases reached with
    | ok ids => rfl
    | error fault => simp [checkRows, alarm?, alarmOf, isAlarm_checkFailure]
  have computed : (intervalRows cadence).filterMap alarm? = [] := by
    apply filterMap_intervalRows
    intro fault
    simp [alarm?, isAlarm_intervalFailure]
  simp only [round, List.filterMap_append, silent, checked, computed, List.nil_append, List.append_nil]
  cases reached <;> rfl

theorem beats_rounds (passed : ∀ pass ∈ passes, (Duplicate.pass settings).Runs pass.1 pass.2) :
    (rounds id cadence passes).filterMap beat? =
      (List.range passes.length).flatMap fun k =>
        [.check false, .listing, .wait (cadence.waitAt k)] := by
  induction passes generalizing cadence with
  | nil => rfl
  | cons pass passes ih =>
    obtain ⟨first, others⟩ := List.forall_mem_cons.mp passed
    have later := @ih cadence.wait.2 others
    simp only [rounds, List.filterMap_cons, List.filterMap_append, beats_round first, beat?, later,
      List.length_cons, List.range_succ_eq_map, List.flatMap_cons, List.flatMap_map]
    rfl

theorem alarms_rounds (passed : ∀ pass ∈ passes, (Duplicate.pass settings).Runs pass.1 pass.2) :
    (rounds id cadence passes).filterMap alarm? = passes.filterMap fun pass => alarmOf pass.2 := by
  induction passes generalizing cadence with
  | nil => rfl
  | cons pass passes ih =>
    obtain ⟨first, others⟩ := List.forall_mem_cons.mp passed
    have later := @ih cadence.wait.2 others
    simp only [rounds, List.filterMap_cons, List.filterMap_append, alarms_round first, alarm?, later]
    cases alarmOf pass.2 <;> rfl

theorem shows_rounds {later : List Exchange} (shown : ShowsWaits later)
    (passed : ∀ pass ∈ passes, (Duplicate.pass settings).Runs pass.1 pass.2) :
    ShowsWaits (rounds id cadence passes ++ later) := by
  induction passes generalizing cadence with
  | nil => exact shown
  | cons pass passes ih =>
    -- A round is steps aside, and at its end the two that show its wait and take it.
    obtain ⟨first, others⟩ := List.forall_mem_cons.mp passed
    have aside : ∀ exchange ∈ pass.1 ++ checkRows pass.2 ++ intervalRows cadence, Aside exchange.1 :=
      aside_of_pass first
    have whole : ShowsWaits (⟨.assign .dedupInterval (.float cadence.wait.1), ()⟩ ::
        ⟨.rest cadence.wait.1, .ok ()⟩ :: (rounds id cadence.wait.2 passes ++ later)) :=
      (@ih cadence.wait.2 others).wait
    have split : rounds id cadence (pass :: passes) ++ later =
        ⟨.stopping, false⟩ :: (pass.1 ++ checkRows pass.2 ++ intervalRows cadence ++
          ⟨.assign .dedupInterval (.float cadence.wait.1), ()⟩ :: ⟨.rest cadence.wait.1, .ok ()⟩ ::
            (rounds id cadence.wait.2 passes ++ later)) := by
      simp only [rounds, round, List.append_assoc, List.cons_append, List.nil_append]
      rfl
    rw [split]
    exact (whole.skip_all aside).skip trivial

structure Paced (settings : Settings) (limit : Nat) (cadence : Cadence Float)
    (passes : List (List Exchange × Outcome (List Json))) (stops : Bool) (trace : List Exchange)
    (outcome : Outcome (Cadence Float)) : Prop where
  passed : ∀ pass ∈ passes, (Duplicate.pass settings).Runs pass.1 pass.2
  steps : trace = ⟨.log beginning, .ok ()⟩ :: (rounds id cadence passes ++ ending stops)
  beats : trace.filterMap beat? =
    ((List.range passes.length).flatMap fun k =>
      [.check false, .listing, .wait (cadence.waitAt k)]) ++ if stops then [.check true] else []
  shown : ShowsWaits trace
  alarms : trace.filterMap alarm? = passes.filterMap fun pass => alarmOf pass.2
  returned : outcome = .ok (cadence.after passes.length)
  ends : if stops then passes.length < limit else passes.length = limit

variable {limit : Nat} {trace : List Exchange} {outcome : Outcome (Cadence Float)}

theorem paced_of_run (run : (run settings limit cadence).Runs trace outcome)
    (granted : ∀ exchange ∈ trace, isGranted exchange = true) :
    ∃ passes stops, Paced settings limit cadence passes stops trace outcome := by
  obtain ⟨later, rfl, looping⟩ := run_exchanges run granted
  have others := (List.forall_mem_cons.mp granted).2
  have rests : ∀ n, Seconds.rest (cadence.waitAt n) = Job.rest (id (cadence.waitAt n)) := fun _ => rfl
  obtain ⟨passes, stops, passed, rfl, returned, ends⟩ := loop_course looping rests others
  refine ⟨passes, stops, passed, rfl, ?_, ?_, ?_, returned, ends⟩
  · rw [List.filterMap_cons, List.filterMap_append, beats_rounds passed]
    cases stops <;> rfl
  · have last : ShowsWaits (ending stops) := by
      cases stops with
      | true => exact ShowsWaits.nil.skip trivial
      | false => exact .nil
    exact (shows_rounds last passed).skip trivial
  · rw [List.filterMap_cons, List.filterMap_append, alarms_rounds passed]
    have opened : isAlarm beginning = false := rfl
    cases stops <;> simp [alarm?, ending, opened]

theorem Paced.waits (paced : Paced settings limit cadence passes stops trace outcome) :
    waits trace = (List.range passes.length).map cadence.waitAt := by
  have last : (if stops then [Beat.check true] else []).filterMap Beat.wait? = [] := by
    cases stops <;> rfl
  rw [waits_eq_beats, paced.beats, List.filterMap_append, last, List.append_nil, List.filterMap_flatMap,
    List.map_eq_flatMap]
  rfl

theorem Paced.waits_eq (paced : Paced settings limit cadence passes stops trace outcome) {k : Nat} {wait : Float}
    (taken : (Guard.waits trace)[k]? = some wait) : wait = cadence.waitAt k := by
  rw [paced.waits, List.getElem?_map, Option.map_eq_some_iff] at taken
  obtain ⟨index, found, same⟩ := taken
  obtain ⟨_, rfl⟩ := List.getElem?_eq_some_iff.mp found
  rw [← same, List.getElem_range]

/-- The guard lists and waits in turn until it is to stop. Two guards of one cadence take the same waits, and
    a cadence that once fails to give a wait gives its maximum from then on. -/
theorem cadence_keeps_pace (run : (run settings limit cadence).Runs trace outcome)
    (granted : ∀ exchange ∈ trace, isGranted exchange = true) :
    (∃ passes stops, Paced settings limit cadence passes stops trace outcome) ∧
      (∀ (other : Settings) (bound : Nat) (others : List Exchange) (result : Outcome (Cadence Float)),
        (Guard.run other bound cadence).Runs others result →
        (∀ exchange ∈ others, isGranted exchange = true) →
        ∀ (k : Nat) (wait wait' : Float), (waits trace)[k]? = some wait →
          (waits others)[k]? = some wait' → wait = wait') ∧
      ∀ (n : Nat) (fault : Fault), (cadence.after n).next = .error fault →
        ∀ m, cadence.waitAt (n + m) = cadence.max ∧
          (cadence.after (n + m)).attempt = (cadence.after n).attempt := by
  obtain ⟨passes, stops, paced⟩ := paced_of_run run granted
  refine ⟨⟨passes, stops, paced⟩, ?_, ?_⟩
  · intro other bound others result running allowed k wait wait' first second
    obtain ⟨_, _, also⟩ := paced_of_run running allowed
    rw [paced.waits_eq first, also.waits_eq second]
  · intro n fault failed m
    obtain ⟨greatest, same⟩ := Cadence.stuck_of_failed failed m
    exact ⟨greatest, by rw [same]⟩

theorem granted_round {own : List Exchange} (reached : Outcome (List Json))
    (granted : ∀ exchange ∈ own, isGranted exchange = true) :
    ∀ exchange ∈ round cadence own reached, isGranted exchange = true := by
  have checked : ∀ exchange ∈ checkRows reached, isGranted exchange = true := by
    cases reached <;> simp [checkRows, isGranted]
  have computed : ∀ exchange ∈ intervalRows cadence, isGranted exchange = true := by
    unfold intervalRows
    split <;> simp [isGranted]
  simp only [round, List.forall_mem_append]
  exact ⟨⟨⟨granted, checked⟩, computed⟩, List.forall_mem_singleton.mpr rfl⟩

theorem granted_rounds (granted : ∀ pass ∈ passes, ∀ exchange ∈ pass.1, isGranted exchange = true) :
    ∀ exchange ∈ rounds id cadence passes, isGranted exchange = true := by
  induction passes generalizing cadence with
  | nil => exact List.forall_mem_nil _
  | cons pass passes ih =>
    obtain ⟨first, others⟩ := List.forall_mem_cons.mp granted
    simp only [rounds, List.forall_mem_cons, List.forall_mem_append]
    exact ⟨rfl, granted_round pass.2 first, rfl, ih others⟩

def troubled : List (List Exchange × Outcome (List Json)) :=
  [([⟨.list true, .error (.reported .requestTimeout "timeout")⟩], .error (.reported .requestTimeout "timeout")),
    (⟨.list true, .ok Duplicate.mixedRecords⟩ :: Duplicate.mixedTrace, .ok [.str "m2", .str "n2"])]

theorem cadence_keeps_pace_of_troubled :
    ∃ cadence, Guard.cadence {} = .ok cadence ∧ ∃ trace,
      trace = ⟨.log beginning, .ok ()⟩ :: (rounds id cadence troubled ++ ending true) ∧
      (run {} 5 cadence).Runs trace (.ok (cadence.after 2)) ∧
      (∀ exchange ∈ trace, isGranted exchange = true) ∧
      ∃ passes stops, Paced {} 5 cadence passes stops trace (.ok (cadence.after 2)) := by
  have accepted : Guard.cadence {} = .ok ⟨1.0, 300.0, 1.5, 0⟩ := by
    unfold Guard.cadence Cadence.make Cadence.greater
    rw [if_neg (by decide +kernel), if_neg (by decide +kernel), if_pos (by decide +kernel)]
  generalize (⟨1.0, 300.0, 1.5, 0⟩ : Cadence Float) = cadence at accepted
  have passed : ∀ pass ∈ troubled, (Duplicate.pass {}).Runs pass.1 pass.2 := by
    simp only [troubled, List.forall_mem_cons]
    exact ⟨.ask _ (.refl _), Duplicate.runs_mixed, List.forall_mem_nil _⟩
  have course : Course id {} 5 cadence troubled true (rounds id cadence troubled ++ ending true)
      (.ok (cadence.after 2)) := ⟨passed, rfl, rfl, by decide⟩
  have running : (run {} 5 cadence).Runs
      (⟨.log beginning, .ok ()⟩ :: (rounds id cadence troubled ++ ending true)) (.ok (cadence.after 2)) :=
    Job.runs_then (Job.runs_log.mpr rfl) (course.runs fun _ => rfl)
  have granted : ∀ exchange ∈ ⟨.log beginning, .ok ()⟩ :: (rounds id cadence troubled ++ ending true),
      isGranted exchange = true := by
    have taken : ∀ exchange ∈ rounds id cadence troubled, isGranted exchange = true := by
      apply granted_rounds
      simp [troubled, Duplicate.mixedTrace, isGranted]
    simp only [List.forall_mem_cons, List.forall_mem_append]
    exact ⟨rfl, taken, List.forall_mem_singleton.mpr rfl⟩
  exact ⟨cadence, accepted, _, rfl, running, granted, (cadence_keeps_pace running granted).1⟩

end Passes

end Guard

end ContainerWarden

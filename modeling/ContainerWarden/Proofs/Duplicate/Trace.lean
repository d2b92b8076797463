import ContainerWarden.Duplicate
import ContainerWarden.Proofs.Plan.Trace

namespace ContainerWarden

theorem Runtime.containers_exchanges {all : Bool} {trace : List Exchange}
    {outcome : Outcome (List ContainerSummary)} (run : (Runtime.containers all).Runs trace outcome) :
    ∃ reply, trace = [⟨.list all, reply⟩] ∧
      outcome = reply.bind fun records => records.mapM ContainerSummary.ofJson := by
  rcases Job.call_then Job.runs_list.mp run with ⟨records, later, split, rest⟩ | ⟨fault, split, failed⟩
  · obtain ⟨empty, same⟩ := Job.runs_ofExcept.mp rest
    exact ⟨.ok records, by rw [split, empty], same⟩
  · exact ⟨.error fault, split, failed⟩

namespace Duplicate

def announcement (id : Json) : LogEntry :=
  .info component ("Stopping duplicate metadata/dns service: " ++ id.text) id

def stopFailure (id : Json) (fault : Fault) : LogEntry :=
  .error component
    ("Failed to stop duplicate metadata/dns service: " ++ id.text ++ ": " ++ fault.message) id

/-- The exchanges of the stop of one duplicate. Only a written row lets it go on, and only failures of
    the runtime are caught. -/
inductive Stops (id : Json) : List Exchange → Outcome Unit → Prop where
  | unannounced (fault : Fault) : Stops id [⟨.log (announcement id), .error fault⟩] (.error fault)
  | stopped :
      Stops id
        [⟨.log (announcement id), .ok ()⟩, ⟨.stop id 0, .ok ()⟩, ⟨.count .duplicatesStopped 1, ()⟩]
        (.ok ())
  | failed {fault : Fault} (caught : fault.isRuntime = true) (logged : Outcome Unit) :
      Stops id
        [⟨.log (announcement id), .ok ()⟩, ⟨.stop id 0, .error fault⟩,
          ⟨.log (stopFailure id fault), logged⟩]
        logged
  | broken {fault : Fault} (uncaught : fault.isRuntime = false) :
      Stops id [⟨.log (announcement id), .ok ()⟩, ⟨.stop id 0, .error fault⟩] (.error fault)

theorem stopping_exchanges {id : Json} {trace : List Exchange} {outcome : Outcome Unit}
    (run : Job.Runs
      (do
        Job.stop id 0
        Job.count .duplicatesStopped 1)
      trace outcome) :
    (trace = [⟨.stop id 0, .ok ()⟩, ⟨.count .duplicatesStopped 1, ()⟩] ∧ outcome = .ok ()) ∨
      ∃ fault, trace = [⟨.stop id 0, .error fault⟩] ∧ outcome = .error fault := by
  rcases Job.call_then Job.runs_stop.mp run with ⟨_, later, split, rest⟩ | ⟨fault, split, failed⟩
  · obtain ⟨counted, same⟩ := Job.runs_count.mp rest
    exact .inl ⟨by rw [split, counted], same⟩
  · exact .inr ⟨fault, split, failed⟩

theorem stopOne_exchanges {id : Json} {trace : List Exchange} {outcome : Outcome Unit}
    (run : (stopOne id).Runs trace outcome) : Stops id trace outcome := by
  rcases Job.call_then Job.runs_log.mp run with ⟨_, later, split, rest⟩ | ⟨fault, split, failed⟩
  · subst split
    rcases Job.recover_cases rest with
      ⟨_, first, same⟩ | ⟨fault, before, after, split, first, caught, rest⟩ | ⟨fault, first, kept, same⟩
    · obtain ⟨asked, _⟩ | ⟨_, _, impossible⟩ := stopping_exchanges first
      · rw [asked, same]
        exact .stopped
      · cases impossible
    · obtain ⟨_, impossible⟩ | ⟨_, asked, failed⟩ := stopping_exchanges first
      · cases impossible
      · cases failed
        rw [split, asked, Job.runs_log.mp rest]
        exact .failed caught outcome
    · obtain ⟨_, impossible⟩ | ⟨_, asked, failed⟩ := stopping_exchanges first
      · cases impossible
      · cases failed
        rw [asked, same]
        exact .broken kept
  · rw [split, failed]
    exact .unannounced fault

theorem stopAll_exchanges {ids : List Json} {trace : List Exchange} {outcome : Outcome Unit}
    (run : (stopAll ids).Runs trace outcome) :
    ∃ results, Job.Each Stops ids trace results ∧ outcome = results.map fun _ => () := by
  induction ids generalizing trace outcome with
  | nil =>
    obtain ⟨empty, same⟩ := Job.runs_pure.mp run
    subst empty
    exact ⟨.ok [], .nil, same⟩
  | cons id rest ih =>
    rcases Job.runs_bind.mp run with ⟨before, _, after, split, first, others⟩ | ⟨fault, first, failed⟩
    · obtain ⟨results, each, same⟩ := ih others
      rw [split, same]
      refine ⟨results.map (() :: ·), .next (stopOne_exchanges first) each, ?_⟩
      cases results <;> rfl
    · exact ⟨.error fault, .stop (stopOne_exchanges first), failed⟩

inductive Passes (settings : Settings) : List Exchange → Outcome (List Json) → Prop where
  | unlisted (fault : Fault) : Passes settings [⟨.list true, .error fault⟩] (.error fault)
  | unreadable {records : List Json} {fault : Fault}
      (unread : records.mapM ContainerSummary.ofJson = .error fault) :
      Passes settings [⟨.list true, .ok records⟩] (.error fault)
  | checked {records : List Json} {summaries : List ContainerSummary} {trace : List Exchange}
      {results : Outcome (List Unit)}
      (read : records.mapM ContainerSummary.ofJson = .ok summaries)
      (each : Job.Each Stops (select settings summaries) trace results) :
      Passes settings (⟨.list true, .ok records⟩ :: ⟨.count .dedupPasses 1, ()⟩ :: trace)
        (results.map fun _ => select settings summaries)

theorem pass_exchanges {settings : Settings} {trace : List Exchange} {outcome : Outcome (List Json)}
    (run : (pass settings).Runs trace outcome) : Passes settings trace outcome := by
  rcases Job.runs_bind.mp run with ⟨before, summaries, after, split, listed, rest⟩ | ⟨fault, listed, failed⟩
  · obtain ⟨reply, asked, read⟩ := Runtime.containers_exchanges listed
    cases reply with
    | error fault => cases read
    | ok records =>
      rcases Job.runs_bind.mp rest with ⟨_, _, later, parts, counted, checked⟩ | ⟨_, counted, _⟩
      · obtain ⟨count, _⟩ := Job.runs_count.mp counted
        subst split asked parts count
        rcases Job.runs_bind.mp checked with ⟨stops, _, _, parts, stopping, ended⟩ | ⟨fault, stopping, failed⟩
        · obtain ⟨empty, same⟩ := Job.runs_pure.mp ended
          subst parts empty same
          obtain ⟨results, each, stopped⟩ := stopAll_exchanges stopping
          cases results with
          | error _ => cases stopped
          | ok results =>
            rw [List.append_nil]
            exact .checked read.symm each
        · obtain ⟨results, each, stopped⟩ := stopAll_exchanges stopping
          cases results with
          | ok _ => cases stopped
          | error other =>
            cases stopped
            rw [failed]
            exact .checked read.symm each
      · cases (Job.runs_count.mp counted).2
  · obtain ⟨reply, asked, read⟩ := Runtime.containers_exchanges listed
    rw [asked, failed]
    cases reply with
    | error other =>
      cases read
      exact .unlisted fault
    | ok records => exact .unreadable read.symm

theorem Stops.before_stop {id other : Json} {grace : Int} {reply : Outcome Unit}
    {earlier later : List Exchange} {outcome : Outcome Unit}
    (stops : Stops id (earlier ++ ⟨.stop other grace, reply⟩ :: later) outcome) :
    other = id ∧ earlier = [⟨.log (announcement id), .ok ()⟩] := by
  generalize split : earlier ++ ⟨.stop other grace, reply⟩ :: later = trace at stops
  cases stops with
  | unannounced fault => rcases earlier with _ | ⟨_, _⟩ <;> simp at split
  | stopped | failed | broken =>
    rcases earlier with _ | ⟨_, _ | ⟨_, _ | ⟨_, _⟩⟩⟩ <;> simp at split
    obtain ⟨first, ⟨⟨same, _⟩, _⟩, _⟩ := split
    exact ⟨same, by rw [first]⟩

/-- A stop comes after a listing in which its container was selected. -/
theorem Passes.before_stop {settings : Settings} {trace before after : List Exchange}
    {outcome : Outcome (List Json)} {id : Json} {grace : Int} {reply : Outcome Unit}
    (passes : Passes settings trace outcome)
    (split : trace = before ++ ⟨.stop id grace, reply⟩ :: after) :
    ∃ records summaries, ⟨.list true, .ok records⟩ ∈ before ∧
      records.mapM ContainerSummary.ofJson = .ok summaries ∧ id ∈ select settings summaries := by
  cases passes with
  | unlisted fault => rcases before with _ | ⟨_, _⟩ <;> simp at split
  | unreadable unread => rcases before with _ | ⟨_, _⟩ <;> simp at split
  | @checked records summaries trace results read each =>
    rcases before with _ | ⟨head, _ | ⟨count, before⟩⟩
    · simp at split
    · simp at split
    · obtain ⟨listed, rest⟩ := List.cons.inj split
      obtain ⟨item, member, earlier, later, _, stops, _⟩ := each.at_exchange (List.cons.inj rest).2
      obtain ⟨same, _⟩ := stops.before_stop
      subst same
      exact ⟨records, summaries, by simp [listed], read, member⟩

end Duplicate

end ContainerWarden

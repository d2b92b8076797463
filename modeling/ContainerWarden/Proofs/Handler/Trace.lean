import ContainerWarden.Handler
import ContainerWarden.Proofs.Plan.Trace

namespace ContainerWarden.Handler

variable {event : LifecycleEvent} {handlers : List Handler} {trace : List Exchange}
  {outcome : Outcome Unit}

inductive Gives (event : LifecycleEvent) :
    List Handler → List Exchange → Nat → List Exchange → Outcome Unit → Prop where
  | nil : Gives event [] [] 0 [] (.ok ())
  | returned {handler : Handler} {rest : List Handler} {work own trace : List Exchange}
      {failures : Nat} {outcome : Outcome Unit} (run : (handler.handle event).Runs work (.ok ()))
      (others : Gives event rest own failures trace outcome) :
      Gives event (handler :: rest) own failures (work ++ trace) outcome
  | failed {handler : Handler} {rest : List Handler} {work own trace : List Exchange}
      {failures : Nat} {outcome : Outcome Unit} {fault : Fault}
      (run : (handler.handle event).Runs work (.error fault))
      (others : Gives event rest own failures trace outcome) :
      Gives event (handler :: rest)
        ([⟨.count .handlerFailures 1, ()⟩, ⟨.log (failure event handler fault), .ok ()⟩] ++ own)
        (failures + 1)
        (work ++ ([⟨.count .handlerFailures 1, ()⟩, ⟨.log (failure event handler fault), .ok ()⟩] ++ trace))
        outcome
  | refused {handler : Handler} {rest : List Handler} {work : List Exchange} {fault refusal : Fault}
      (run : (handler.handle event).Runs work (.error fault)) :
      Gives event (handler :: rest)
        [⟨.count .handlerFailures 1, ()⟩, ⟨.log (failure event handler fault), .error refusal⟩] 1
        (work ++ [⟨.count .handlerFailures 1, ()⟩, ⟨.log (failure event handler fault), .error refusal⟩])
        (.error refusal)

inductive Dispatches (event : LifecycleEvent) (handlers : List Handler) :
    List Exchange → Nat → List Exchange → Outcome Unit → Prop where
  | returned {own trace : List Exchange} {failures : Nat}
      (gives : Gives event handlers own failures trace (.ok ())) :
      Dispatches event handlers (own ++ [⟨.count .eventsDispatched 1, ()⟩]) failures
        (trace ++ [⟨.count .eventsDispatched 1, ()⟩]) (.ok ())
  | cut {own trace : List Exchange} {failures : Nat} {fault : Fault}
      (gives : Gives event handlers own failures trace (.error fault)) :
      Dispatches event handlers own failures trace (.error fault)

/-- A handler returns, or its failure is counted and its row is written or not. -/
theorem give_exchanges {handler : Handler} (run : (give event handler).Runs trace outcome) :
    ((handler.handle event).Runs trace (.ok ()) ∧ outcome = .ok ()) ∨
      ∃ fault work written, (handler.handle event).Runs work (.error fault) ∧ outcome = written ∧
        trace = work ++
          [⟨.count .handlerFailures 1, ()⟩, ⟨.log (failure event handler fault), written⟩] := by
  rcases Job.recover_cases run with
    ⟨_, first, same⟩ | ⟨fault, before, after, split, first, _, rest⟩ | ⟨_, _, uncaught, _⟩
  · exact .inl ⟨first, same⟩
  · obtain ⟨_, later, counted, logging⟩ := Job.given_then rest
    rw [Job.runs_log.mp logging] at counted
    exact .inr ⟨fault, before, outcome, first, rfl, by rw [split, counted]⟩
  · cases uncaught

theorem giveAll_exchanges (run : (giveAll event handlers).Runs trace outcome) :
    ∃ own failures, Gives event handlers own failures trace outcome := by
  induction handlers generalizing trace outcome with
  | nil =>
    obtain ⟨empty, same⟩ := Job.runs_pure.mp run
    rw [empty, same]
    exact ⟨_, _, .nil⟩
  | cons handler rest ih =>
    rcases Job.runs_bind.mp run with ⟨before, _, after, split, given, others⟩ | ⟨refusal, given, cut⟩
    · obtain ⟨own, failures, gives⟩ := ih others
      subst split
      rcases give_exchanges given with ⟨first, _⟩ | ⟨fault, work, written, first, same, split⟩
      · exact ⟨_, _, .returned first gives⟩
      · subst same split
        rw [List.append_assoc]
        exact ⟨_, _, .failed first gives⟩
    · rcases give_exchanges given with ⟨_, impossible⟩ | ⟨fault, work, written, first, same, split⟩
      · cases impossible
      · subst same split cut
        exact ⟨_, _, .refused first⟩

theorem dispatch_exchanges (run : (dispatch handlers event).Runs trace outcome) :
    ∃ own failures, Dispatches event handlers own failures trace outcome := by
  rcases Job.runs_bind.mp run with ⟨before, _, after, split, given, rest⟩ | ⟨fault, given, cut⟩
  · obtain ⟨own, failures, gives⟩ := giveAll_exchanges given
    obtain ⟨counted, same⟩ := Job.runs_count.mp rest
    rw [split, counted, same]
    exact ⟨_, _, .returned gives⟩
  · obtain ⟨own, failures, gives⟩ := giveAll_exchanges given
    rw [cut]
    exact ⟨_, _, .cut gives⟩

end ContainerWarden.Handler

import ContainerWarden.Proofs.Duplicate.Trace
import ContainerWarden.Proofs.Handler.Trace
import ContainerWarden.Proofs.Watcher.Reporting

namespace ContainerWarden

def StatusField.isCounter : StatusField → Bool
  | .containersRemoved | .duplicatesStopped | .dedupPasses | .reconcilePasses | .reconcileFailures
  | .handlerFailures | .eventsDispatched => true
  | _ => false

def Effect.isApart : Effect → Bool
  | .count _ _ | .assign _ _ => false
  | _ => true

/-- Steps that leave the status as it is and are none of the calls that are counted. -/
def Effect.isIdle : Effect → Bool
  | .fetch _ | .inspect _ | .log _ => true
  | _ => false

theorem Effect.onStatus_of_isApart {effect : Effect} (apart : effect.isApart = true) (status : Status) :
    effect.onStatus status = status := by
  cases effect with
  | count | assign => cases apart
  | _ => rfl

def Status.after (trace : List Exchange) (status : Status) : Status :=
  trace.foldl (fun status exchange => exchange.1.onStatus status) status

abbrev Tally := StatusField → Nat

namespace Tally

def isRemoval : Exchange → Bool
  | ⟨.remove _ _, reply⟩ => Runtime.isAway reply
  | _ => false

def isStop : Exchange → Bool
  | ⟨.stop _ _, .ok _⟩ => true
  | _ => false

def isListing : Exchange → Bool
  | ⟨.list _, .ok records⟩ => (records.mapM ContainerSummary.ofJson).isOk
  | _ => false

def ofCalls (trace : List Exchange) : Tally
  | .containersRemoved => trace.countP isRemoval
  | .duplicatesStopped => trace.countP isStop
  | .dedupPasses => trace.countP isListing
  | _ => 0

def ofPass : Outcome (List String) → Tally
  | .ok _, .reconcilePasses => 1
  | .error fault, .reconcileFailures => if fault.isMetadata then 1 else 0
  | _, _ => 0

def ofDispatch (failures : Nat) : Outcome Unit → Tally
  | _, .handlerFailures => failures
  | .ok _, .eventsDispatched => 1
  | _, _ => 0

def zero : Tally := fun _ => 0

def only (field : StatusField) (n : Nat) : Tally := fun other => if other = field then n else 0

def plus (tally other : Tally) : Tally := fun field => tally field + other field

def total (tallies : List Tally) : Tally := tallies.foldr plus zero

theorem ofCalls_append (before after : List Exchange) :
    ofCalls (before ++ after) = (ofCalls before).plus (ofCalls after) := by
  funext field
  cases field <;> simp [ofCalls, plus, List.countP_append]

theorem calls_of_gives {event : LifecycleEvent} {handlers : List Handler} {own trace : List Exchange}
    {failures : Nat} {outcome : Outcome Unit}
    (gives : Handler.Gives event handlers own failures trace outcome) : ofCalls own = zero := by
  induction gives with
  | nil =>
    funext field
    cases field <;> rfl
  | returned run others ih => exact ih
  | failed run others ih =>
    rw [ofCalls_append, ih]
    funext field
    cases field <;> rfl
  | refused run =>
    funext field
    cases field <;> rfl

end Tally

def Shows (trace : List Exchange) (tally : Tally) : Prop :=
  ∀ (status : Status) (field : StatusField) (n : Nat), field.isCounter = true →
    status.value field = .int n → (status.after trace).value field = .int ↑(n + tally field)

namespace Shows

open Tally (ofCalls isRemoval isStop isListing)

variable {before after trace : List Exchange} {tally other : Tally}

theorem nil : Shows [] .zero := fun _ _ _ _ numeric => numeric

theorem append (first : Shows before tally) (rest : Shows after other) :
    Shows (before ++ after) (tally.plus other) := by
  intro status field n counter numeric
  have through : status.after (before ++ after) = (status.after before).after after :=
    List.foldl_append
  rw [through, Tally.plus, ← Nat.add_assoc]
  exact rest _ _ _ counter (first _ _ _ counter numeric)

theorem congr (shown : Shows trace tally)
    (same : ∀ field, field.isCounter = true → tally field = other field) : Shows trace other := by
  intro status field n counter numeric
  rw [← same field counter]
  exact shown status field n counter numeric

theorem count (field : StatusField) (n : Nat) : Shows [⟨.count field n, ()⟩] (.only field n) := by
  intro status other before counter numeric
  unfold Tally.only
  by_cases same : other = field
  · subst same
    rw [if_pos rfl]
    exact Status.value_count_self numeric n
  · rw [if_neg same]
    exact (Status.value_count_of_ne same n).trans numeric

theorem skip {exchange : Exchange} (own : exchange.1.isApart = true) (shown : Shows trace tally) :
    Shows (exchange :: trace) tally := by
  intro status field n counter numeric
  have kept : status.after (exchange :: trace) = status.after trace := by
    show (exchange.1.onStatus status).after trace = status.after trace
    rw [Effect.onStatus_of_isApart own]
  rw [kept]
  exact shown status field n counter numeric

theorem apart (silent : ∀ exchange ∈ trace, exchange.1.isApart = true) : Shows trace .zero := by
  induction trace with
  | nil => exact nil
  | cons exchange trace ih =>
    obtain ⟨own, rest⟩ := List.forall_mem_cons.mp silent
    exact skip own (ih rest)

theorem idle (silent : ∀ exchange ∈ trace, exchange.1.isIdle = true) : Shows trace (ofCalls trace) := by
  have uncounted : ∀ exchange ∈ trace, exchange.1.isApart = true ∧ isRemoval exchange = false ∧
      isStop exchange = false ∧ isListing exchange = false := by
    intro exchange member
    have own := silent exchange member
    obtain ⟨effect, reply⟩ := exchange
    cases effect
    case fetch | inspect | log => exact ⟨rfl, rfl, rfl, rfl⟩
    all_goals cases own
  refine (apart fun exchange member => (uncounted exchange member).1).congr fun field _ => ?_
  have none {kind : Exchange → Bool} (never : ∀ exchange ∈ trace, kind exchange = false) :
      0 = trace.countP kind :=
    (List.countP_eq_zero.mpr fun exchange member => by simp [never exchange member]).symm
  cases field
  case containersRemoved => exact none fun exchange member => (uncounted exchange member).2.1
  case duplicatesStopped => exact none fun exchange member => (uncounted exchange member).2.2.1
  case dedupPasses => exact none fun exchange member => (uncounted exchange member).2.2.2
  all_goals rfl

/-- Where the work on each item shows its calls, the whole does. -/
theorem of_each {one : ι → List Exchange → Outcome β → Prop} {items : List ι}
    {outcome : Outcome (List β)} (each : Job.Each one items trace outcome)
    (single : ∀ item own reached, one item own reached → Shows own (ofCalls own)) :
    Shows trace (ofCalls trace) := by
  induction each with
  | nil => exact idle (List.forall_mem_nil _)
  | next first others ih =>
    rw [Tally.ofCalls_append]
    exact (single _ _ _ first).append ih
  | stop failed => exact single _ _ _ failed

theorem of_discards {container : DesiredContainer} {outcome : Outcome Bool}
    (discards : Orphan.Discards container trace outcome) : Shows trace (ofCalls trace) := by
  cases discards with
  | unannounced fault => exact idle (by simp [Effect.isIdle])
  | away left =>
    refine (skip rfl (skip rfl (count .containersRemoved 1))).congr fun field _ => ?_
    cases field <;> simp [Tally.only, ofCalls, isRemoval, isStop, isListing, left]
  | stayed there =>
    refine (apart (by simp [Effect.isApart])).congr fun field _ => ?_
    cases field <;> simp [Tally.zero, ofCalls, isRemoval, isStop, isListing, Runtime.isAway, there]
  | @broken fault uncaught =>
    have there : fault.isGone = false :=
      Bool.eq_false_iff.mpr fun gone => by simp [Fault.isRuntime_of_isGone gone] at uncaught
    refine (apart (by simp [Effect.isApart])).congr fun field _ => ?_
    cases field <;> simp [Tally.zero, ofCalls, isRemoval, isStop, isListing, Runtime.isAway, there]

theorem of_treats {settings : Settings} {container : DesiredContainer} {outcome : Outcome Bool}
    (treats : Orphan.Treats settings container trace outcome) : Shows trace (ofCalls trace) := by
  cases treats with
  | unseen | broken | agent => exact idle (by simp [Effect.isIdle])
  | @discarded reply name trace outcome named other discards =>
    have seen : Shows [⟨.inspect container.externalId, reply⟩] (ofCalls _) :=
      idle (by simp [Effect.isIdle])
    rw [← List.singleton_append, Tally.ofCalls_append]
    exact seen.append (of_discards discards)

theorem of_orphanPass {settings : Settings} {outcome : Outcome (List String)}
    (run : (Orphan.pass settings).Runs trace outcome) : Shows trace (ofCalls trace) := by
  have asked {trace : List Exchange} {outcome : Outcome (HostIdentity × List DesiredContainer)}
      (run : (Orphan.fetch settings).Runs trace outcome) : Shows trace (ofCalls trace) := by
    refine idle fun exchange member => ?_
    have fetched := Orphan.fetch_only settings _ _ run exchange member
    obtain ⟨effect, reply⟩ := exchange
    cases effect
    case fetch => rfl
    all_goals cases fetched
  rcases Orphan.pass_exchanges run with ⟨before, after, _, _, split, first, rest⟩ | ⟨_, first, _⟩
  · obtain ⟨results, each, _⟩ := Orphan.treatAll_exchanges rest
    rw [split, Tally.ofCalls_append]
    exact (asked first).append (of_each each fun _ _ _ treats => of_treats treats)
  · exact asked first

theorem of_stops {id : Json} {outcome : Outcome Unit} (stops : Duplicate.Stops id trace outcome) :
    Shows trace (ofCalls trace) := by
  cases stops with
  | unannounced fault => exact idle (by simp [Effect.isIdle])
  | stopped =>
    refine (skip rfl (skip rfl (count .duplicatesStopped 1))).congr fun field _ => ?_
    cases field <;> rfl
  | failed | broken =>
    refine (apart (by simp [Effect.isApart])).congr fun field _ => ?_
    cases field <;> simp [Tally.zero, ofCalls, isRemoval, isStop, isListing]

theorem of_duplicatePass {settings : Settings} {outcome : Outcome (List Json)}
    (run : (Duplicate.pass settings).Runs trace outcome) : Shows trace (ofCalls trace) := by
  cases Duplicate.pass_exchanges run with
  | unlisted fault =>
    refine (apart (by simp [Effect.isApart])).congr fun field _ => ?_
    cases field <;> simp [Tally.zero, ofCalls, isRemoval, isStop, isListing]
  | unreadable unread =>
    refine (apart (by simp [Effect.isApart])).congr fun field _ => ?_
    cases field <;>
      simp [Tally.zero, ofCalls, isRemoval, isStop, isListing, unread, Except.isOk, Except.toBool]
  | @checked records summaries trace results read each =>
    have listed : Shows [⟨.list true, .ok records⟩, ⟨.count .dedupPasses 1, ()⟩]
        (ofCalls [⟨.list true, .ok records⟩, ⟨.count .dedupPasses 1, ()⟩]) := by
      refine (skip rfl (count .dedupPasses 1)).congr fun field _ => ?_
      cases field <;>
        simp [Tally.only, ofCalls, isRemoval, isStop, isListing, read, Except.isOk, Except.toBool]
    have whole := listed.append (of_each each fun _ _ _ stops => of_stops stops)
    rwa [← Tally.ofCalls_append] at whole

theorem reported (entry : LogEntry) (written : Outcome Unit) :
    Shows [⟨.count .handlerFailures 1, ()⟩, ⟨.log entry, written⟩] (.only .handlerFailures 1) :=
  (count .handlerFailures 1).append (skip rfl nil)

theorem of_gives {event : LifecycleEvent} {handlers : List Handler} {own : List Exchange}
    {failures : Nat} {outcome : Outcome Unit}
    (gives : Handler.Gives event handlers own failures trace outcome)
    (silent : ∀ handler ∈ handlers, Job.Only (·.isApart = true) (handler.handle event)) :
    Shows trace (.only .handlerFailures failures) := by
  induction gives with
  | nil => exact nil.congr fun field _ => by simp [Tally.only, Tally.zero]
  | returned run others ih =>
    obtain ⟨first, rest⟩ := List.forall_mem_cons.mp silent
    refine ((apart (first _ _ run)).append (ih rest)).congr fun field _ => ?_
    simp [Tally.plus, Tally.zero]
  | failed run others ih =>
    obtain ⟨first, rest⟩ := List.forall_mem_cons.mp silent
    refine ((apart (first _ _ run)).append ((reported _ _).append (ih rest))).congr fun field _ => ?_
    cases field <;> simp [Tally.plus, Tally.zero, Tally.only, Nat.add_comm]
  | refused run =>
    obtain ⟨first, -⟩ := List.forall_mem_cons.mp silent
    refine ((apart (first _ _ run)).append (reported _ _)).congr fun field _ => ?_
    simp [Tally.plus, Tally.zero]

end Shows

end ContainerWarden

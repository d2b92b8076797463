import ContainerWarden.Proofs.Router.Turn

namespace ContainerWarden

def Submission.pressed : Submission → List LifecycleEvent
  | .pressing event => [event]
  | _ => []

def Pump.events : Pump → List LifecycleEvent
  | .drawn event => [event]
  | .submitting hand => hand.events
  | _ => []

def Pump.pressed : Pump → List LifecycleEvent
  | .submitting hand => hand.pressed
  | _ => []

theorem Submission.pressed_prefix (hand : Submission) : hand.pressed <+: hand.events := by
  cases hand with
  | none | seeking => exact List.nil_prefix
  | pressing => exact List.prefix_rfl

theorem Pump.pressed_prefix (pump : Pump) : pump.pressed <+: pump.events := by
  cases pump with
  | submitting hand => exact hand.pressed_prefix
  | _ => exact List.nil_prefix

theorem Submission.length_events (hand : Submission) : hand.events.length ≤ 1 := by
  cases hand with
  | none => exact Nat.zero_le _
  | seeking | pressing => exact Nat.le_refl _

theorem Pump.length_events (pump : Pump) : pump.events.length ≤ 1 := by
  cases pump with
  | drawn => exact Nat.le_refl _
  | submitting hand => exact hand.length_events
  | absent | pulling | ended => exact Nat.zero_le _

namespace Router

variable {η : Type}

def line (router : Router η) : List LifecycleEvent := router.taken.reverse ++ router.queue

def held (router : Router η) : List LifecycleEvent :=
  router.callers.flatMap (·.hand.events) ++ router.pump.events

def pressed (router : Router η) : List LifecycleEvent :=
  router.callers.flatMap (·.hand.pressed) ++ router.pump.pressed

def unread (router : Router η) : List LifecycleEvent :=
  match router.pump with
  | .ended => []
  | _ => (EventStream.readAll router.feed).1

def ahead (router : Router η) : List LifecycleEvent :=
  router.callers.flatMap (·.inlet) ++ router.unread

structure InTurn (router : Router η) : Prop where
  few : router.callers.length ≤ 1
  handover : router.pump = .absent ∨ ∀ caller ∈ router.callers, caller = ⟨[], .none⟩

variable {plan : RouterPlan η} {router next : Router η} {move : RouterMove}

theorem unread_of_open (going : router.pump ≠ .ended) :
    router.unread = (EventStream.readAll router.feed).1 := by
  unfold unread
  split
  · rename_i ended
    exact absurd ended going
  · rfl

theorem InTurn.calling (inTurn : InTurn router) {index : Nat} {caller : Caller}
    (found : router.callers[index]? = some caller) (busy : caller ≠ ⟨[], .none⟩) :
    index = 0 ∧ router.callers = [caller] ∧ router.pump = .absent := by
  have few := inTurn.few
  have below := (List.getElem?_eq_some_iff.mp found).1
  have first : index = 0 := by omega
  subst first
  have alone : router.callers = [caller] := by
    obtain ⟨only, single⟩ := List.length_eq_one_iff.mp (by omega : router.callers.length = 1)
    rw [single, List.getElem?_cons_zero] at found
    rw [single, Option.some.inj found]
  refine ⟨rfl, alone, ?_⟩
  rcases inTurn.handover with absent | through
  · exact absent
  · exact absurd (through caller (List.mem_of_getElem? found)) busy

structure Calling (router : Router η) (caller : Caller) : Prop where
  inTurn : InTurn router
  held : router.held = caller.hand.events
  pressed : router.pressed = caller.hand.pressed
  ahead : router.ahead = caller.inlet ++ (EventStream.readAll router.feed).1

theorem calling_of_alone {caller : Caller} (alone : router.callers = [caller])
    (absent : router.pump = .absent) : Calling router caller := by
  refine ⟨⟨by simp [alone], .inl absent⟩, ?_, ?_, ?_⟩
  · simp [held, alone, absent, Pump.events]
  · simp [pressed, alone, absent, Pump.pressed]
  · simp [ahead, unread, alone, absent]

structure Pumping (router : Router η) (pump : Pump) : Prop where
  inTurn : InTurn router
  held : router.held = pump.events
  pressed : router.pressed = pump.pressed
  ahead : router.ahead = router.unread

theorem pumping_of_through (few : router.callers.length ≤ 1)
    (through : ∀ caller ∈ router.callers, caller = ⟨[], .none⟩) : Pumping router router.pump := by
  have hands : router.callers.flatMap (·.hand.events) = [] :=
    List.flatMap_eq_nil_iff.mpr fun caller member => by rw [through caller member]; rfl
  have pressing : router.callers.flatMap (·.hand.pressed) = [] :=
    List.flatMap_eq_nil_iff.mpr fun caller member => by rw [through caller member]; rfl
  have inlets : router.callers.flatMap (·.inlet) = [] :=
    List.flatMap_eq_nil_iff.mpr fun caller member => by rw [through caller member]
  refine ⟨⟨few, .inr through⟩, ?_, ?_, ?_⟩
  · rw [held, hands, List.nil_append]
  · rw [pressed, pressing, List.nil_append]
  · rw [ahead, inlets, List.nil_append]

theorem InTurn.pumping (inTurn : InTurn router) (present : router.pump ≠ .absent) (pump : Pump)
    (feed : List (Outcome Json)) : Pumping { router with pump, feed } pump :=
  pumping_of_through inTurn.few (inTurn.handover.resolve_left present)

theorem caller_of_handOf {index : Nat} {hand : Submission}
    (found : router.handOf (.caller index) = hand) (busy : hand ≠ .none) :
    ∃ inlet, router.callers[index]? = some ⟨inlet, hand⟩ := by
  simp only [handOf] at found
  split at found
  · rename_i caller there
    rw [← found]
    exact ⟨caller.inlet, there⟩
  · exact absurd found.symm busy

theorem pump_of_handOf {hand : Submission} (found : router.handOf .pump = hand) (busy : hand ≠ .none) :
    router.pump = .submitting hand := by
  simp only [handOf] at found
  split at found
  · rename_i submitting
    rw [submitting, found]
  · exact absurd found.symm busy

structure Moved (router next : Router η) (hand other : Submission) : Prop where
  inTurn : InTurn next
  held : router.held = hand.events ∧ next.held = other.events
  pressed : router.pressed = hand.pressed ∧ next.pressed = other.pressed
  ahead : next.ahead = router.ahead
  line : next.line = router.line
  stopped : next.stopped = router.stopped

variable {who : Submitter} {hand : Submission}

theorem InTurn.movePump (inTurn : InTurn router) (submitting : router.pump = .submitting hand)
    (pump : Pump) (going : pump ≠ .ended) (other : Submission) (events : pump.events = other.events)
    (pressed : pump.pressed = other.pressed) : Moved router { router with pump } hand other := by
  have before := inTurn.pumping (by simp [submitting]) router.pump router.feed
  have after := inTurn.pumping (by simp [submitting]) pump router.feed
  refine ⟨after.inTurn, ⟨?_, after.held.trans events⟩, ⟨?_, after.pressed.trans pressed⟩, ?_, rfl, rfl⟩
  · rw [before.held, submitting]
    rfl
  · rw [before.pressed, submitting]
    rfl
  · rw [after.ahead, before.ahead, unread_of_open going, unread_of_open (by simp [submitting])]

theorem InTurn.setHand (inTurn : InTurn router) (found : router.handOf who = hand)
    (busy : hand ≠ .none) (other : Submission) :
    Moved router (router.setHand other who) hand other := by
  cases who with
  | caller index =>
    obtain ⟨inlet, there⟩ := caller_of_handOf found busy
    obtain ⟨rfl, alone, absent⟩ := inTurn.calling there (by simp [busy])
    have before := calling_of_alone alone absent
    have replaced : (router.setHand other (.caller 0)).callers = [⟨inlet, other⟩] := by
      simp [Router.setHand, alone]
    have after := calling_of_alone replaced absent
    exact ⟨after.inTurn, ⟨before.held, after.held⟩, ⟨before.pressed, after.pressed⟩,
      after.ahead.trans before.ahead.symm, rfl, rfl⟩
  | pump =>
    exact inTurn.movePump (pump_of_handOf found busy) (.submitting other) (by simp) other rfl rfl

theorem InTurn.letGo (inTurn : InTurn router) (found : router.handOf who = hand) (busy : hand ≠ .none) :
    Moved router (router.letGo who) hand .none := by
  cases who with
  | caller index => exact inTurn.setHand found busy .none
  | pump => exact inTurn.movePump (pump_of_handOf found busy) .pulling (by simp) .none rfl rfl

theorem InTurn.submitter (inTurn : InTurn router) :
    (∃ caller, Calling router caller) ∨ Pumping router router.pump := by
  rcases inTurn.handover with absent | through
  · have few := inTurn.few
    cases callers : router.callers with
    | nil => exact .inr (pumping_of_through few (by simp [callers]))
    | cons caller rest =>
      rw [callers, List.length_cons] at few
      have none : rest = [] := List.eq_nil_of_length_eq_zero (by omega)
      subst none
      exact .inl ⟨caller, calling_of_alone callers absent⟩
  · exact .inr (pumping_of_through inTurn.few through)

theorem InTurn.pressed_prefix (inTurn : InTurn router) : router.pressed <+: router.held := by
  rcases inTurn.submitter with ⟨caller, calling⟩ | pumping
  · rw [calling.pressed, calling.held]
    exact caller.hand.pressed_prefix
  · rw [pumping.pressed, pumping.held]
    exact router.pump.pressed_prefix

theorem InTurn.held_length (inTurn : InTurn router) : router.held.length ≤ 1 := by
  rcases inTurn.submitter with ⟨caller, calling⟩ | pumping
  · rw [calling.held]
    exact caller.hand.length_events
  · rw [pumping.held]
    exact router.pump.length_events

/-- Events come into the line in their order. As long as the router is not stopped none is lost; after
    that only those get into the line that are about to be put there already. -/
structure Flows (events : List LifecycleEvent) (router : Router η) : Prop where
  inTurn : InTurn router
  whole : router.stopped = false → router.line ++ router.held ++ router.ahead = events
  front : router.line ++ router.pressed <+: events

variable {events : List LifecycleEvent}

theorem Flows.shift (kept : Flows events router) (inTurn : InTurn next)
    (stopped : next.stopped = router.stopped)
    (whole : router.stopped = false →
      next.line ++ next.held ++ next.ahead = router.line ++ router.held ++ router.ahead)
    (front : router.stopped = true → next.line ++ next.pressed <+: router.line ++ router.pressed) :
    Flows events next := by
  -- While nothing is lost the prefix follows from the whole; after stop it has to be kept by itself.
  cases going : router.stopped with
  | false =>
    have same : next.line ++ next.held ++ next.ahead = events := (whole going).trans (kept.whole going)
    refine ⟨inTurn, fun _ => same, ?_⟩
    rw [← same, List.append_assoc, List.prefix_append_right_inj]
    exact inTurn.pressed_prefix.trans (List.prefix_append _ _)
  | true =>
    refine ⟨inTurn, ?_, (front going).trans kept.front⟩
    rw [stopped, going]
    exact nofun

theorem Flows.moved (kept : Flows events router) {hand other : Submission}
    (moved : Moved router next hand other) (same : other.events = hand.events)
    (pressed : router.stopped = true → other.pressed <+: hand.pressed) : Flows events next := by
  refine kept.shift moved.inTurn moved.stopped ?_ ?_
  · intro _
    rw [moved.line, moved.held.1, moved.held.2, moved.ahead, same]
  · intro stopped
    rw [moved.line, moved.pressed.1, moved.pressed.2, List.prefix_append_right_inj]
    exact pressed stopped

theorem Flows.pump (kept : Flows events router) (present : router.pump ≠ .absent) (pump : Pump)
    (feed : List (Outcome Json))
    (whole : router.stopped = false →
      pump.events ++ unread { router with pump, feed } = router.pump.events ++ router.unread)
    (front : pump.pressed <+: router.pump.pressed) : Flows events { router with pump, feed } := by
  have before := kept.inTurn.pumping present router.pump router.feed
  have after := kept.inTurn.pumping present pump feed
  refine kept.shift after.inTurn rfl ?_ ?_
  · intro going
    rw [after.held, after.ahead, List.append_assoc, whole going]
    rw [before.held, before.ahead, List.append_assoc]
    rfl
  · intro _
    rw [after.pressed, before.pressed]
    exact (List.prefix_append_right_inj _).mpr front

theorem Flows.intake (kept : Flows events router) (turn : Intake plan router move next)
    (own : move.ofStart = false) : Flows events next := by
  cases turn with
  | listen | listening | bring => cases own
  | stop => exact ⟨⟨kept.inTurn.few, kept.inTurn.handover⟩, nofun, kept.front⟩
  | shutDown =>
    exact kept.shift ⟨kept.inTurn.few, kept.inTurn.handover⟩ rfl (fun _ => rfl) fun _ => List.prefix_rfl
  | @next index event rest found =>
    obtain ⟨rfl, alone, absent⟩ := kept.inTurn.calling found (by simp)
    have before := calling_of_alone alone absent
    have replaced : ({ router with callers := router.callers.set 0 ⟨rest, .seeking event⟩ } :
        Router η).callers = [⟨rest, .seeking event⟩] := by simp [alone]
    have after := calling_of_alone replaced absent
    refine kept.shift after.inTurn rfl ?_ ?_
    · intro _
      rw [after.held, after.ahead, before.held, before.ahead]
      simp [line, Submission.events]
    · intro _
      rw [after.pressed, before.pressed]
      exact List.prefix_rfl
  | draw pulling news =>
    refine kept.pump (by simp [pulling]) _ _ ?_ ?_
    · intro _
      rw [pulling, unread_of_open (by simp), unread_of_open (by simp [pulling]),
        EventStream.readAll_of_pull_event news]
      rfl
    · rw [pulling]
      exact List.prefix_rfl
  | @«break» fault feed pulling failed =>
    have dry : router.unread = [] := by
      rw [unread_of_open (by simp [pulling]), EventStream.readAll_of_pull_fault failed]
    have shifted : Flows events { router with pump := .ended, feed } := by
      refine kept.pump (by simp [pulling]) .ended feed ?_ List.nil_prefix
      intro _
      rw [pulling, dry]
      rfl
    exact ⟨⟨shifted.inTurn.few, shifted.inTurn.handover⟩, shifted.whole, shifted.front⟩
  | @dry feed pulling empty =>
    have dry : router.unread = [] := by
      rw [unread_of_open (by simp [pulling]), EventStream.readAll_of_pull_none empty]
    refine kept.pump (by simp [pulling]) .ended feed ?_ List.nil_prefix
    intro _
    rw [pulling, dry]
    rfl
  | quit drawn stopped =>
    refine kept.pump (by simp [drawn]) .ended router.feed ?_ List.nil_prefix
    intro going
    cases going.symm.trans stopped
  | consider drawn going =>
    refine kept.pump (by simp [drawn]) (.submitting _) router.feed ?_ List.nil_prefix
    intro _
    rw [drawn, unread_of_open (by simp), unread_of_open (by simp [drawn])]
    rfl
  | giveUp seeking stopped =>
    have moved := kept.inTurn.letGo seeking nofun
    refine kept.shift moved.inTurn moved.stopped ?_ ?_
    · intro going
      cases going.symm.trans stopped
    · intro _
      rw [moved.line, moved.pressed.1, moved.pressed.2]
      exact List.prefix_rfl
  | press seeking going =>
    refine kept.moved (kept.inTurn.setHand seeking nofun _) rfl ?_
    intro stopped
    cases going.symm.trans stopped
  | @place who event pressing room =>
    have inTurn : InTurn { router with queue := router.queue ++ [event] } :=
      ⟨kept.inTurn.few, kept.inTurn.handover⟩
    have found : handOf { router with queue := router.queue ++ [event] } who = .pressing event := by
      cases who <;> exact pressing
    have moved := inTurn.letGo found nofun
    have held : router.held = [event] := moved.held.1
    have pressed : router.pressed = [event] := moved.pressed.1
    have line : Router.line { router with queue := router.queue ++ [event] } = router.line ++ [event] :=
      (List.append_assoc ..).symm
    refine kept.shift moved.inTurn moved.stopped ?_ ?_
    · intro _
      rw [moved.line, moved.held.2, moved.ahead, line, held]
      simp only [Submission.events, List.append_nil]
      rfl
    · intro _
      rw [moved.line, moved.pressed.2, line, pressed]
      simp only [Submission.pressed, List.append_nil, List.prefix_rfl]
  | tire pressing full =>
    exact kept.moved (kept.inTurn.setHand pressing nofun _) rfl fun _ => List.nil_prefix

theorem Flows.same (kept : Flows events router) (same : SameInlet router next)
    (line : next.line = router.line) : Flows events next := by
  have inTurn : InTurn next := by
    constructor
    · rw [same.callers]
      exact kept.inTurn.few
    · rw [same.pump, same.callers]
      exact kept.inTurn.handover
  refine kept.shift inTurn same.stopped ?_ ?_
  · intro _
    unfold held ahead unread
    rw [line, same.callers, same.pump, same.feed]
  · intro _
    have pressed : next.pressed = router.pressed := by
      unfold Router.pressed
      rw [same.callers, same.pump]
    simp only [line, pressed, List.prefix_rfl]

theorem Dispatch.line (turn : Dispatch plan router move next) : next.line = router.line := by
  cases turn with
  | take watching first => simp [Router.line, first]
  | _ => rfl

theorem Flows.turn (kept : Flows events router) (turn : Turn plan router move next)
    (own : move.ofStart = false) : Flows events next := by
  cases turn with
  | intake turn => exact kept.intake turn own
  | dispatch turn => exact kept.same turn.same turn.line
  | work turn =>
    obtain ⟨slots, work, calls, rfl⟩ := turn.frame
    exact ⟨⟨kept.inTurn.few, kept.inTurn.handover⟩, kept.whole, kept.front⟩

end Router

end ContainerWarden

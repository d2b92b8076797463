import ContainerWarden.Proofs.Router.Intake

namespace ContainerWarden

variable {η : Type}

theorem Caller.eq_of_isThrough {caller : Caller} (through : caller.isThrough = true) :
    caller = ⟨[], .none⟩ := by
  obtain ⟨inlet, hand⟩ := caller
  cases inlet <;> cases hand <;> first | rfl | cases through

namespace Router

variable {plan : RouterPlan η} {router next : Router η} {move : RouterMove}
  {events : List LifecycleEvent} {feed : List (Outcome Json)}

structure Blank (feed : List (Outcome Json)) (router : Router η) : Prop where
  callers : router.callers = []
  pump : router.pump = .absent
  line : router.line = []
  feed : router.feed = feed

theorem blank_fresh (feed : List (Outcome Json)) (finite : Bool) : Blank feed (fresh plan feed finite) :=
  ⟨rfl, rfl, rfl, rfl⟩

theorem Blank.handOf (blank : Blank feed router) (who : Submitter) : router.handOf who = .none := by
  cases who with
  | caller index => simp [Router.handOf, blank.callers]
  | pump => simp [Router.handOf, blank.pump]

theorem Blank.same (blank : Blank feed router) (same : SameInlet router next)
    (line : next.line = router.line) : Blank feed next :=
  ⟨same.callers.trans blank.callers, same.pump.trans blank.pump, line.trans blank.line,
    same.feed.trans blank.feed⟩

theorem Blank.turn (blank : Blank feed router) (turn : Turn plan router move next)
    (own : move.ofStart = false) : Blank feed next := by
  cases turn with
  | dispatch turn => exact blank.same turn.same turn.line
  | work turn =>
    obtain ⟨slots, work, calls, rfl⟩ := turn.frame
    exact ⟨blank.callers, blank.pump, blank.line, blank.feed⟩
  | intake turn =>
    cases turn with
    | listen | listening | bring => cases own
    | stop | shutDown => exact ⟨blank.callers, blank.pump, blank.line, blank.feed⟩
    | next found => simp [blank.callers] at found
    | draw pulling | «break» pulling | dry pulling => cases blank.pump.symm.trans pulling
    | quit drawn | consider drawn => cases blank.pump.symm.trans drawn
    | giveUp hand | press hand | place hand | tire hand => cases (blank.handOf _).symm.trans hand

theorem Blank.bring (blank : Blank feed router) (inlet : List LifecycleEvent) :
    Flows (inlet ++ (EventStream.readAll feed).1)
      { router with callers := router.callers ++ [{ inlet }] } := by
  have alone : ({ router with callers := router.callers ++ [{ inlet }] } : Router η).callers =
      [⟨inlet, .none⟩] := by simp [blank.callers]
  have calling := calling_of_alone alone blank.pump
  have line : Router.line { router with callers := router.callers ++ [{ inlet }] } = [] := blank.line
  refine ⟨calling.inTurn, ?_, ?_⟩
  · intro _
    rw [line, calling.held, calling.ahead, ← blank.feed]
    rfl
  · rw [line, calling.pressed]
    exact List.nil_prefix

theorem Blank.stop (blank : Blank feed router) (events : List LifecycleEvent) (closes : Nat) :
    Flows events { router with stopped := true, closes } := by
  refine ⟨⟨by simp [blank.callers], .inl blank.pump⟩, nofun, ?_⟩
  have line : Router.line { router with stopped := true, closes } = [] := blank.line
  have pressed : Router.pressed { router with stopped := true, closes } = [] := by
    simp [Router.pressed, blank.callers, blank.pump, Pump.pressed]
  rw [line, pressed]
  exact List.nil_prefix

theorem Flows.listen (kept : Flows events router) (absent : router.pump = .absent)
    (through : ∀ caller ∈ router.callers, caller = ⟨[], .none⟩) (streamFault : Option Fault) :
    Flows events { router with pump := .pulling, streamFault } := by
  have before := pumping_of_through kept.inTurn.few through
  have after : Pumping { router with pump := .pulling, streamFault } .pulling :=
    pumping_of_through kept.inTurn.few through
  refine kept.shift after.inTurn rfl ?_ ?_
  · intro _
    rw [after.held, after.ahead, before.held, before.ahead, absent, unread_of_open (by simp),
      unread_of_open (by simp [absent])]
    rfl
  · intro _
    rw [after.pressed, before.pressed, absent]
    exact List.prefix_rfl

theorem pump_absent_turn (absent : router.pump = .absent) (turn : Turn plan router move next)
    (own : move.ofStart = false) : next.pump = .absent := by
  cases turn with
  | dispatch turn => exact turn.same.pump.trans absent
  | work turn =>
    obtain ⟨slots, work, calls, rfl⟩ := turn.frame
    exact absent
  | intake turn =>
    cases turn with
    | listen | listening | bring => cases own
    | stop | shutDown | next => exact absent
    | draw pulling | «break» pulling | dry pulling => cases absent.symm.trans pulling
    | quit drawn | consider drawn => cases absent.symm.trans drawn
    | @giveUp who _ hand | @press who _ hand | @place who _ hand | @tire who _ hand =>
      cases who with
      | caller index => exact absent
      | pump => cases absent.symm.trans (pump_of_handOf hand nofun)

end Router

end ContainerWarden

import Mathlib.Algebra.Order.Group.Defs
import Mathlib.Algebra.Order.Group.Int
import Mathlib.Algebra.Order.Sub.Defs
import Mathlib.Tactic.Abel
import ContainerWarden.Proofs.Watcher.Changes

namespace ContainerWarden.Watcher

structure Moment (τ : Type) where
  time : τ
  move : WatchMove τ

def readings : WatchMove τ → List τ
  | .look now => [now]
  | .answer _ seen later => [seen, later]
  | _ => []

structure Timed (τ : Type) where
  watcher : Watcher τ
  /-- When the last move was over. -/
  now : τ
  /-- When the last rest began. -/
  restSince : τ

def Poll.IsIdle [OfNat τ 0] [BEq τ] [Sub τ] [LE τ] [DecidableLE τ] (recheck : Option τ)
    (changes : Changes τ) (poll : Poll τ) : Prop :=
  ∀ version, poll.outcome = .ok version → changes.isHit recheck version poll.seen = false

namespace Timed

/-- The seconds for which the watcher still rests when a move ends its rest. Once stop is set they do not
    matter. -/
def rest? (watcher : Watcher τ) : WatchMove τ → Option τ
  | .wake (.ok ()) =>
    match watcher.phase with
    | .resting seconds => if watcher.stopping then none else some seconds
    | _ => none
  | _ => none

/-- The time of the last rest after a move. A rest begins when the move that leads to it is over. -/
def restAfter (restSince time : τ) : WatchMove τ → τ
  | .answer _ _ _ | .report _ => time
  | _ => restSince

variable {τ : Type} [AddCommGroup τ] [LinearOrder τ]

def fresh (policy : WatchPolicy τ) (start : τ) : Timed τ := ⟨.fresh policy start, start, start⟩

/-- The clock never goes back, be it read or not, and a rest takes its time. -/
def IsTimely (timed : Timed τ) (moment : Moment τ) : Prop :=
  (timed.now :: (readings moment.move ++ [moment.time])).Pairwise (· ≤ ·) ∧
    (rest? timed.watcher moment.move).all (timed.restSince + · ≤ moment.time) = true

instance (timed : Timed τ) (moment : Moment τ) : Decidable (timed.IsTimely moment) :=
  inferInstanceAs (Decidable (_ ∧ _))

def step (policy : WatchPolicy τ) (timed : Timed τ) (moment : Moment τ) : Option (Timed τ) :=
  if timed.IsTimely moment then
    (timed.watcher.step policy moment.move).map
      (⟨·, moment.time, restAfter timed.restSince moment.time moment.move⟩)
  else none

variable {policy : WatchPolicy τ} {timed next : Timed τ} {moment : Moment τ} {bound start : τ}

theorem moved_of_step (moved : timed.step policy moment = some next) : timed.IsTimely moment ∧
    ∃ watcher, timed.watcher.step policy moment.move = some watcher ∧
      next = ⟨watcher, moment.time, restAfter timed.restSince moment.time moment.move⟩ := by
  unfold step at moved
  split at moved
  · rename_i timely
    obtain ⟨watcher, moved, same⟩ := Option.map_eq_some_iff.mp moved
    exact ⟨timely, watcher, moved, same.symm⟩
  · cases moved

theorem turn_of_step {time : τ} {move : WatchMove τ} (moved : timed.step policy ⟨time, move⟩ = some next) :
    timed.IsTimely ⟨time, move⟩ ∧ ∃ watcher, Turn policy timed.watcher move watcher ∧
      next = ⟨watcher, time, restAfter timed.restSince time move⟩ := by
  obtain ⟨timely, watcher, moved, same⟩ := moved_of_step moved
  exact ⟨timely, watcher, Watcher.turn_of_step moved, same⟩

theorem IsTimely.now_le (timely : timed.IsTimely moment) : timed.now ≤ moment.time :=
  (List.pairwise_cons.mp timely.1).1 _ (by simp)

theorem IsTimely.look {now time : τ} (timely : timed.IsTimely ⟨time, .look now⟩) :
    timed.now ≤ now ∧ now ≤ time := by
  have order := timely.1
  simp only [readings, List.singleton_append, List.pairwise_cons] at order
  exact ⟨order.1 now (by simp), order.2.1 time (by simp)⟩

theorem IsTimely.answer {outcome : Outcome String} {seen later time : τ}
    (timely : timed.IsTimely ⟨time, .answer outcome seen later⟩) :
    timed.now ≤ later ∧ later ≤ time := by
  have order := timely.1
  simp only [readings, List.cons_append, List.nil_append, List.pairwise_cons] at order
  exact ⟨order.1 later (by simp), order.2.2.1 time (by simp)⟩

theorem IsTimely.wake {time seconds : τ} (timely : timed.IsTimely ⟨time, .wake (.ok ())⟩)
    (resting : timed.watcher.phase = .resting seconds) :
    timed.watcher.stopping = true ∨ timed.restSince + seconds ≤ time := by
  have rested := timely.2
  simp only [rest?, resting] at rested
  cases stopping : timed.watcher.stopping with
  | true => exact .inl rfl
  | false =>
    rw [stopping] at rested
    simpa using rested

/-- Under a clock a watcher makes no other moves than without. -/
theorem follow_watcher {moments : List (Moment τ)}
    (run : follow (step policy) timed moments = some next) :
    follow (Watcher.step policy) timed.watcher (moments.map (·.move)) = some next.watcher := by
  refine follow_induction (motive := fun moments next =>
    follow (Watcher.step policy) timed.watcher (moments.map (·.move)) = some next.watcher) rfl ?_ run
  intro before state moment next _ followed moved
  rw [List.map_append, List.map_singleton]
  obtain ⟨-, watcher, stepped, rfl⟩ := moved_of_step moved
  exact follow_snoc.mpr ⟨state.watcher, followed, stepped⟩

def IsPast (timed : Timed τ) : Prop := ∀ since, timed.watcher.phase = .polling since → since ≤ timed.now

theorem isPast_of_run {moments : List (Moment τ)}
    (run : follow (step policy) (fresh policy start) moments = some timed) : timed.IsPast := by
  refine follow_induction (motive := fun _ timed => timed.IsPast) nofun ?_ run
  intro _ state ⟨time, move⟩ next _ past moved since polling
  obtain ⟨timely, watcher, turn, rfl⟩ := turn_of_step moved
  have same : state.watcher.phase = .polling since → since ≤ time :=
    fun earlier => (past since earlier).trans timely.now_le
  dsimp only at polling ⊢
  cases turn with
  | ask =>
    cases polling
    exact timely.look.2
  | start | conclude | record | release | stop => exact same polling
  | quit | fail | cut | hit | same | reported | unreported | woken | unrested | take | miss | drop
  | retry | submit | leave => cases polling

/-- No request will begin before a time: a rest lies ahead that lasts until then, or none will begin at
    all. -/
def Waits (policy : WatchPolicy τ) (bound : τ) (timed : Timed τ) : Prop :=
  match timed.watcher.phase with
  | .reporting _ => bound ≤ timed.now + policy.interval
  | .resting seconds => bound ≤ timed.restSince + seconds
  | .leaving _ | .ended _ => True
  | _ => False

structure Spaced (policy : WatchPolicy τ) (bound : τ) (timed : Timed τ) : Prop where
  polls : ∀ since, timed.watcher.phase = .polling since → bound ≤ since
  ahead : timed.watcher.stopping = true ∨ bound ≤ timed.now ∨ timed.Waits policy bound

theorem stopping_of_turn {watcher other : Watcher τ} {move : WatchMove τ}
    (turn : Turn policy watcher move other) (stopping : watcher.stopping = true) :
    other.stopping = true := by
  cases turn with
  | stop => rfl
  | _ => exact stopping

theorem le_remaining (policy : WatchPolicy τ) (since now : τ) :
    policy.interval - (now - since) ≤ remaining policy since now := by
  unfold remaining Cadence.greater
  split
  · exact le_rfl
  · rename_i least
    exact not_lt.mp least

variable [IsOrderedAddMonoid τ]

theorem Waits.same {time : τ} {watcher : Watcher τ} (waits : timed.Waits policy bound)
    (passes : timed.now ≤ time) (phase : watcher.phase = timed.watcher.phase) :
    (⟨watcher, time, timed.restSince⟩ : Timed τ).Waits policy bound := by
  unfold Waits at waits ⊢
  dsimp only
  rw [phase]
  cases same : timed.watcher.phase with
  | reporting fault =>
    rw [same] at waits
    exact waits.trans (add_le_add_left passes _)
  | _ =>
    rw [same] at waits
    exact waits

theorem Waits.turn {time : τ} {move : WatchMove τ} {watcher : Watcher τ}
    (waits : timed.Waits policy bound) (timely : timed.IsTimely ⟨time, move⟩)
    (turn : Turn policy timed.watcher move watcher) :
    watcher.stopping = true ∨ bound ≤ time ∨
      (⟨watcher, time, restAfter timed.restSince time move⟩ : Timed τ).Waits policy bound := by
  have passes := timely.now_le
  cases turn with
  | reported failed =>
    unfold Waits at waits
    rw [failed] at waits
    exact .inr (.inr (waits.trans (add_le_add_left passes _)))
  | woken resting =>
    unfold Waits at waits
    rw [resting] at waits
    exact (timely.wake resting).imp_right fun rested => .inl (waits.trans rested)
  | unreported | unrested | leave => exact .inr (.inr True.intro)
  | start | conclude | record | release | stop => exact .inr (.inr (waits.same passes rfl))
  | quit idle | ask idle | fail idle | cut idle | hit idle | same idle | take idle | miss idle | drop idle
  | retry idle | submit idle => simp [Waits, idle] at waits

theorem Spaced.step (spaced : timed.Spaced policy bound) (moved : timed.step policy moment = some next) :
    next.Spaced policy bound := by
  obtain ⟨time, move⟩ := moment
  obtain ⟨timely, watcher, turn, rfl⟩ := turn_of_step moved
  constructor
  case polls =>
    intro since polling
    dsimp only at polling
    have same := spaced.polls since
    cases turn with
    | ask idle going =>
      cases polling
      rcases spaced.ahead with stopping | reached | waits
      · cases stopping.symm.trans going
      · exact reached.trans timely.look.1
      · simp [Waits, idle] at waits
    | start | conclude | record | release | stop => exact same polling
    | quit | fail | cut | hit | same | reported | unreported | woken | unrested | take | miss | drop
    | retry | submit | leave => cases polling
  case ahead =>
    rcases spaced.ahead with stopping | reached | waits
    · exact .inl (stopping_of_turn turn stopping)
    · exact .inr (.inl (reached.trans timely.now_le))
    · exact waits.turn timely turn

theorem spaced_of_idle {since seen later time : τ} {outcome : Outcome String} (past : timed.IsPast)
    (asked : timed.watcher.phase = .polling since)
    (idle : ∀ version, outcome = .ok version → timed.watcher.isHit policy version seen = false)
    (moved : timed.step policy ⟨time, .answer outcome seen later⟩ = some next) :
    next.Spaced policy (since + policy.interval) := by
  obtain ⟨timely, watcher, turn, rfl⟩ := turn_of_step moved
  have begun := (past since asked).trans timely.now_le
  cases turn with
  | fail => exact ⟨nofun, .inr (.inr (add_le_add_left begun _))⟩
  | cut => exact ⟨nofun, .inr (.inr True.intro)⟩
  | hit asking news => cases news.symm.trans (idle _ rfl)
  | same asking =>
    cases asked.symm.trans asking
    refine ⟨nofun, .inr (.inr ?_)⟩
    calc since + policy.interval
        = later + (policy.interval - (later - since)) := by abel
      _ ≤ time + remaining policy since later := add_le_add timely.answer.2 (le_remaining ..)

end Timed

/-- After a poll that was idle the next one begins no sooner than the interval after it began. -/
theorem idle_polls_keep_interval {τ : Type} [AddCommGroup τ] [LinearOrder τ] [IsOrderedAddMonoid τ]
    {interval : τ} {recheck : Option τ} {concurrency : Int} {start : τ} {before after : List (Moment τ)}
    {asking last : Timed τ} {poll : Poll τ} {since next time : τ}
    (reached : follow (Timed.step (.make interval recheck concurrency))
      (.fresh (.make interval recheck concurrency) start) before = some asking)
    (asked : asking.watcher.phase = .polling since)
    (idle : poll.IsIdle recheck (Changes.ofMoves recheck start (before.map (·.move))))
    (run : follow (Timed.step (.make interval recheck concurrency)) asking
      (⟨time, .answer poll.outcome poll.seen poll.later⟩ :: after) = some last)
    (again : last.watcher.phase = .polling next) : since + interval ≤ next := by
  have tracked := tracked_of_run (Timed.follow_watcher reached)
  obtain ⟨answered, moved, later⟩ := Option.bind_eq_some_iff.mp run
  have spaced := Timed.spaced_of_idle (Timed.isPast_of_run reached) asked (fun version known => by
    rw [isHit_make interval recheck concurrency tracked.version tracked.lastRun]
    exact idle version known) moved
  have kept := follow_induction
    (motive := fun _ timed => timed.Spaced (.make interval recheck concurrency) (since + interval))
    spaced (fun _ _ _ _ _ spaced moved => spaced.step moved) later
  exact kept.polls next again

def hastyRun : List (Moment Int) :=
  [⟨0, .look 0⟩, ⟨1, .answer (.ok "1") 1 1⟩, ⟨1, .take⟩, ⟨1, .submit⟩, ⟨2, .look 2⟩]

def hastyRest : List (Moment Int) :=
  [⟨2, .answer (.ok "1") 2 2⟩, ⟨4, .start 0⟩, ⟨7, .wake (.ok ())⟩, ⟨7, .look 7⟩]

theorem idle_polls_keep_interval_in_hastyRun :
    ∃ asking again, follow (Timed.step (.make 5 (some 60) 1)) (.fresh (.make 5 (some 60) 1) 0) hastyRun =
        some asking ∧
      asking.watcher.phase = .polling 2 ∧
      follow (Timed.step (.make 5 (some 60) 1)) asking hastyRest = some again ∧
      again.watcher.phase = .polling 7 ∧ (2 : Int) + 5 ≤ 7 := by
  have reached : follow (Timed.step (.make 5 (some 60) 1)) (.fresh (.make 5 (some 60) 1) 0) hastyRun =
    some _ := rfl
  have idle : Poll.IsIdle (some 60) (Changes.ofMoves (some 60) 0 (hastyRun.map (·.move)))
      ⟨.ok "1", 2, 2⟩ := by
    intro version same
    cases same
    rfl
  refine ⟨_, _, reached, rfl, rfl, rfl, ?_⟩
  apply idle_polls_keep_interval reached rfl idle
  · show follow _ _ hastyRest = some _
    rfl
  · rfl

end ContainerWarden.Watcher

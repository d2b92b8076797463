import ContainerWarden.Proofs.Metadata.Requests
import ContainerWarden.Proofs.Watcher.Turn
import ContainerWarden.World

namespace ContainerWarden.Watcher

structure Poll (τ : Type) where
  outcome : Outcome String
  seen : τ
  later : τ

def poll? : WatchMove τ → Option (Poll τ)
  | .answer outcome seen later => some ⟨outcome, seen, later⟩
  | _ => none

structure Changes (τ : Type) where
  current : String := "init"
  lastRun : τ
  hits : List String := []

namespace Changes

variable [OfNat τ 0] [BEq τ] [Sub τ] [LE τ] [DecidableLE τ]

def isHit (recheck : Option τ) (changes : Changes τ) (version : String) (seen : τ) : Bool :=
  version != changes.current ||
    recheck.any fun period => period != 0 && decide (period ≤ seen - changes.lastRun)

def after (recheck : Option τ) (changes : Changes τ) (poll : Poll τ) : Changes τ :=
  match poll.outcome with
  | .error _ => changes
  | .ok version =>
    if changes.isHit recheck version poll.seen then
      { current := version, lastRun := poll.later, hits := changes.hits ++ [version] }
    else changes

def ofMoves (recheck : Option τ) (start : τ) (moves : List (WatchMove τ)) : Changes τ :=
  (moves.filterMap poll?).foldl (after recheck) { lastRun := start }

variable {recheck : Option τ} {start : τ} {moves : List (WatchMove τ)} {move : WatchMove τ}

theorem ofMoves_snoc_of_none (quiet : poll? move = none) :
    ofMoves recheck start (moves ++ [move]) = ofMoves recheck start moves := by
  simp [ofMoves, quiet]

theorem ofMoves_snoc_of_some {poll : Poll τ} (told : poll? move = some poll) :
    ofMoves recheck start (moves ++ [move]) = (ofMoves recheck start moves).after recheck poll := by
  simp [ofMoves, told]

end Changes

def inHand (watcher : Watcher τ) : List String :=
  match watcher.phase with
  | .acquiring version | .balked version | .submitting version => [version]
  | _ => []

variable {watcher next middle : Watcher τ}

/-- While a watcher that is to stop may still come to drop a version, no slot was taken since stop was
    set. Once it has found all slots busy, only the state in which it found them matters. -/
def Crowded (watcher middle : Watcher τ) : Prop :=
  match watcher.phase with
  | .polling _ | .acquiring _ => middle.slots.free ≤ watcher.slots.free
  | .balked version => middle.slots.free = 0 ∨ middle.phase = .balked version
  | _ => True

theorem Crowded.mono (crowded : Crowded watcher middle) (phase : next.phase = watcher.phase)
    (free : watcher.slots.free ≤ next.slots.free) : Crowded next middle := by
  unfold Crowded at crowded ⊢
  rw [phase]
  cases same : watcher.phase with
  | polling since =>
    rw [same] at crowded
    exact Nat.le_trans crowded free
  | acquiring version =>
    rw [same] at crowded
    exact Nat.le_trans crowded free
  | balked version =>
    rw [same] at crowded
    exact crowded
  | _ => exact True.intro

theorem crowded_self (watcher : Watcher τ) : Crowded watcher watcher := by
  unfold Crowded
  split
  · exact Nat.le_refl _
  · exact Nat.le_refl _
  · rename_i balked
    exact .inr balked
  · exact True.intro

variable [OfNat τ 0] [Sub τ] [LE τ] [DecidableLE τ]

theorem isHit_make [BEq τ] (interval : τ) (recheck : Option τ) (concurrency : Int)
    {changes : Changes τ} (version : watcher.version = changes.current)
    (lastRun : watcher.lastRun = changes.lastRun) (answer : String) (seen : τ) :
    watcher.isHit (.make interval recheck concurrency) answer seen =
      changes.isHit recheck answer seen := by
  unfold isHit Changes.isHit isDue WatchPolicy.make
  rw [version, lastRun]
  -- A period of zero is left out of the policy, but seen as such by the fold.
  cases recheck with
  | none => rfl
  | some period =>
    cases nonzero : period != 0 with
    | false => simp [Option.filter, nonzero]
    | true => simp [Option.filter, nonzero]

variable [LT τ] [DecidableLT τ]

def StoppedAt (policy : WatchPolicy τ) (start : τ) (moves : List (WatchMove τ))
    (holds : Watcher τ → Prop) : Prop :=
  ∃ earlier later middle, moves = earlier ++ .stop :: later ∧
    follow (Watcher.step policy) (fresh policy start) earlier = some middle ∧
    middle.stopping = false ∧ holds middle

variable {policy : WatchPolicy τ} {start : τ} {moves : List (WatchMove τ)} {move : WatchMove τ}
  {holds other : Watcher τ → Prop}

theorem StoppedAt.snoc (stopped : StoppedAt policy start moves holds)
    (weaker : ∀ middle, holds middle → other middle) :
    StoppedAt policy start (moves ++ [move]) other := by
  obtain ⟨earlier, later, middle, rfl, reached, going, held⟩ := stopped
  refine ⟨earlier, later ++ [move], middle, ?_, reached, going, weaker middle held⟩
  rw [List.append_assoc, List.cons_append]

theorem Crowded.turn (crowded : Crowded watcher middle) (stopping : watcher.stopping = true)
    (turn : Turn policy watcher move next) : Crowded next middle := by
  cases turn with
  | ask _ going | retry _ going => cases stopping.symm.trans going
  | hit asking =>
    unfold Crowded at crowded
    rw [asking] at crowded
    exact crowded
  | miss wanting busy =>
    -- No slot was taken since stop was set, so all of them were busy then as well.
    unfold Crowded at crowded
    rw [wanting] at crowded
    left
    exact Nat.le_zero.mp (busy ▸ crowded)
  | start | conclude | record | stop => exact crowded.mono rfl (Nat.le_refl _)
  | release => exact crowded.mono rfl (Slots.free_le_giveBack _)
  | quit | fail | cut | same | reported | unreported | woken | unrested | take | drop | submit
  | leave => exact True.intro

theorem stopping_turn (turn : Turn policy watcher move next) (stopping : next.stopping = true) :
    watcher.stopping = true ∨ move = .stop := by
  cases turn with
  | stop => exact .inr rfl
  | _ => exact .inl stopping

theorem stoppedAt_of_run
    (run : follow (Watcher.step policy) (fresh policy start) moves = some watcher) :
    watcher.stopping = true → StoppedAt policy start moves (Crowded watcher) := by
  refine follow_induction
    (motive := fun moves watcher => watcher.stopping = true →
      StoppedAt policy start moves (Crowded watcher)) Bool.noConfusion ?_ run
  intro before state move next reached kept moved stopping
  have turn := turn_of_step moved
  -- The first stop counts: one that is set again finds the watcher stopping already.
  by_cases already : state.stopping = true
  · exact (kept already).snoc fun middle crowded => crowded.turn already turn
  · rcases stopping_turn turn stopping with earlier | rfl
    · exact absurd earlier already
    · cases turn
      exact ⟨before, [], state, rfl, reached, Bool.eq_false_iff.mpr already,
        (crowded_self state).mono rfl (Nat.le_refl _)⟩

def Left (watcher : Watcher τ) : Prop :=
  watcher.phase = .leaving (.ok ()) ∨ watcher.phase = .ended (.ok ())

/-- The last hit was given up, as stop was set while no slot was free or when the hit had just waited for
    one in vain. -/
structure Dropped (policy : WatchPolicy τ) (start : τ) (moves : List (WatchMove τ)) (watcher : Watcher τ)
    (version : String) : Prop where
  left : Left watcher
  stopped : StoppedAt policy start moves fun middle =>
    middle.slots.free = 0 ∨ middle.phase = .balked version

structure Tracked [BEq τ] (recheck : Option τ) (policy : WatchPolicy τ) (start : τ)
    (moves : List (WatchMove τ)) (watcher : Watcher τ) : Prop where
  version : watcher.version = (Changes.ofMoves recheck start moves).current
  lastRun : watcher.lastRun = (Changes.ofMoves recheck start moves).lastRun
  hits : (Changes.ofMoves recheck start moves).hits = watcher.submitted.reverse ++ watcher.inHand ∨
    ∃ version, (Changes.ofMoves recheck start moves).hits = watcher.submitted.reverse ++ [version] ∧
      Dropped policy start moves watcher version
  callbacks : watcher.callbacks.Ledger Callback.version watcher.submitted

section

variable [BEq τ] {recheck : Option τ}

theorem Tracked.ahead (kept : Tracked recheck policy start moves watcher) (going : ¬ Left watcher) :
    (Changes.ofMoves recheck start moves).hits = watcher.submitted.reverse ++ watcher.inHand := by
  rcases kept.hits with same | ⟨_, _, dropped⟩
  · exact same
  · exact absurd dropped.left going

theorem Tracked.quiet (kept : Tracked recheck policy start moves watcher) (silent : poll? move = none)
    (version : next.version = watcher.version) (lastRun : next.lastRun = watcher.lastRun)
    (submitted : next.submitted = watcher.submitted) (hand : next.inHand = watcher.inHand)
    (left : Left watcher → Left next)
    (callbacks : next.callbacks.Ledger Callback.version watcher.submitted) :
    Tracked recheck policy start (moves ++ [move]) next := by
  refine ⟨?_, ?_, ?_, ?_⟩
  · rw [Changes.ofMoves_snoc_of_none silent, version]
    exact kept.version
  · rw [Changes.ofMoves_snoc_of_none silent, lastRun]
    exact kept.lastRun
  · rw [Changes.ofMoves_snoc_of_none silent, submitted, hand]
    rcases kept.hits with same | ⟨version, same, dropped⟩
    · exact .inl same
    · exact .inr ⟨version, same, left dropped.left, dropped.stopped.snoc fun _ holds => holds⟩
  · rw [submitted]
    exact callbacks

theorem Tracked.pass (kept : Tracked recheck policy start moves watcher) {poll : Poll τ}
    (told : poll? move = some poll)
    (same : (Changes.ofMoves recheck start moves).after recheck poll =
      Changes.ofMoves recheck start moves)
    (going : ¬ Left watcher) (idle : watcher.inHand = []) (phase : WatchPhase τ)
    (empty : inHand { watcher with phase } = []) :
    Tracked recheck policy start (moves ++ [move]) { watcher with phase } := by
  have ahead := kept.ahead going
  rw [idle] at ahead
  have whole : Changes.ofMoves recheck start (moves ++ [move]) = Changes.ofMoves recheck start moves := by
    rw [Changes.ofMoves_snoc_of_some told, same]
  refine ⟨?_, ?_, .inl ?_, kept.callbacks⟩
  · rw [whole]
    exact kept.version
  · rw [whole]
    exact kept.lastRun
  · rw [whole, empty]
    exact ahead

variable {interval : τ} {concurrency : Int}

theorem Tracked.turn {policy : WatchPolicy τ} (own : policy = .make interval recheck concurrency)
    (kept : Tracked recheck policy start moves watcher)
    (reached : follow (Watcher.step policy) (fresh policy start) moves = some watcher)
    (turn : Turn policy watcher move next) :
    Tracked recheck policy start (moves ++ [move]) next := by
  cases turn with
  | quit idle
  | ask idle
  | reported idle
  | unreported idle
  | woken idle
  | unrested idle
  | take idle
  | miss idle
  | retry idle =>
    exact kept.quiet rfl rfl rfl rfl (by simp [inHand, idle]) (by simp [Left, idle]) kept.callbacks
  | start found | conclude found | record found =>
    exact kept.quiet rfl rfl rfl rfl rfl id (kept.callbacks.update found rfl)
  | release found => exact kept.quiet rfl rfl rfl rfl rfl id (kept.callbacks.finish _)
  | stop => exact kept.quiet rfl rfl rfl rfl rfl id kept.callbacks
  | leave leaving =>
    refine kept.quiet rfl rfl rfl rfl (by simp [inHand, leaving]) ?_ kept.callbacks
    simp [Left, leaving]
  | fail asking | cut asking =>
    exact kept.pass rfl rfl (by simp [Left, asking]) (by simp [inHand, asking]) _ rfl
  | same asking nothing =>
    subst own
    rw [isHit_make interval recheck concurrency kept.version kept.lastRun] at nothing
    refine kept.pass rfl ?_ (by simp [Left, asking]) (by simp [inHand, asking]) _ rfl
    simp [Changes.after, nothing]
  | hit asking news =>
    subst own
    rw [isHit_make interval recheck concurrency kept.version kept.lastRun] at news
    have ahead := kept.ahead (by simp [Left, asking])
    have idle : watcher.inHand = [] := by simp [inHand, asking]
    rw [idle, List.append_nil] at ahead
    refine ⟨?_, ?_, .inl ?_, kept.callbacks⟩ <;>
      rw [Changes.ofMoves_snoc_of_some rfl] <;> simp only [Changes.after, news, if_true]
    rw [ahead]
    rfl
  | @submit version ready =>
    have ahead := kept.ahead (by simp [Left, ready])
    have hand : watcher.inHand = [version] := by simp only [inHand, ready]
    rw [hand] at ahead
    refine ⟨?_, ?_, .inl ?_, kept.callbacks.accept _⟩ <;> rw [Changes.ofMoves_snoc_of_none rfl]
    · exact kept.version
    · exact kept.lastRun
    · show _ = (version :: watcher.submitted).reverse ++ []
      rw [ahead, List.reverse_cons, List.append_nil]
  | @drop version balked stopping =>
    have ahead := kept.ahead (by simp [Left, balked])
    have hand : watcher.inHand = [version] := by simp only [inHand, balked]
    rw [hand] at ahead
    have stopped : StoppedAt policy start (moves ++ [.heed]) fun middle =>
        middle.slots.free = 0 ∨ middle.phase = .balked version := by
      refine (stoppedAt_of_run reached stopping).snoc fun middle crowded => ?_
      unfold Crowded at crowded
      rw [balked] at crowded
      exact crowded
    refine ⟨?_, ?_, .inr ⟨version, ?_, .inl rfl, stopped⟩, kept.callbacks⟩ <;>
      rw [Changes.ofMoves_snoc_of_none rfl]
    · exact kept.version
    · exact kept.lastRun
    · exact ahead

theorem tracked_of_run
    (run : follow (Watcher.step (.make interval recheck concurrency))
      (fresh (.make interval recheck concurrency) start) moves = some watcher) :
    Tracked recheck (.make interval recheck concurrency) start moves watcher :=
  follow_induction (motive := Tracked recheck (.make interval recheck concurrency) start)
    ⟨rfl, rfl, .inl rfl, Pool.ledger_empty⟩
    (fun _ _ _ _ reached kept moved => kept.turn rfl reached (turn_of_step moved)) run

end

theorem nothing_follows {outcome : Outcome Unit}
    (gone : watcher.phase = .leaving outcome ∨ watcher.phase = .ended outcome)
    {more : List (WatchMove τ)} (run : follow (Watcher.step policy) watcher more = some next) :
    next.submitted = watcher.submitted ∧ more.filterMap poll? = [] := by
  have kept := follow_induction
    (motive := fun more next => (next.phase = .leaving outcome ∨ next.phase = .ended outcome) ∧
      next.submitted = watcher.submitted ∧ more.filterMap poll? = []) ⟨gone, rfl, rfl⟩ ?_ run
  · exact kept.2
  intro before state move after _ ⟨gone, submitted, silent⟩ moved
  have quiet : poll? move = none → (before ++ [move]).filterMap poll? = [] := by
    intro own
    rw [List.filterMap_append, silent]
    simp [own]
  cases turn_of_step moved with
  | @leave ending leaving =>
    rw [leaving] at gone
    have same : ending = outcome := by simpa using gone
    exact ⟨.inr (congrArg _ same), submitted, quiet rfl⟩
  | start | conclude | record | release | stop => exact ⟨gone, submitted, quiet rfl⟩
  | quit idle
  | ask idle
  | fail idle
  | cut idle
  | hit idle
  | same idle
  | reported idle
  | unreported idle
  | woken idle
  | unrested idle
  | take idle
  | miss idle
  | drop idle
  | retry idle
  | submit idle => simp [idle] at gone

/-- What a watcher has submitted and what it asks the service after some moves, beside the changes that the
    polls among these moves come to. -/
structure ChangeLaw [BEq τ] (recheck : Option τ) (policy : WatchPolicy τ) (start : τ)
    (moves : List (WatchMove τ)) (watcher : Watcher τ) : Prop where
  submitted :
    (Changes.ofMoves recheck start moves).hits = watcher.submitted.reverse ++ watcher.inHand ∨
    ∃ version, (Changes.ofMoves recheck start moves).hits = watcher.submitted.reverse ++ [version] ∧
      Dropped policy start moves watcher version ∧
      ∀ more next, follow (Watcher.step policy) watcher more = some next →
        next.submitted = watcher.submitted ∧ more.filterMap poll? = []
  callbacks : watcher.callbacks.Ledger Callback.version watcher.submitted
  asks : ∀ since, watcher.phase = .polling since → ∀ settings maxWait trace outcome,
    (watcher.ask settings maxWait).Runs trace outcome →
      Metadata.Asked settings (Changes.ofMoves recheck start moves).current maxWait trace outcome
  lastRun : watcher.lastRun = (Changes.ofMoves recheck start moves).lastRun

theorem hits_submitted [BEq τ] {interval : τ} {recheck : Option τ} {concurrency : Int}
    (run : follow (Watcher.step (.make interval recheck concurrency))
      (fresh (.make interval recheck concurrency) start) moves = some watcher) :
    ChangeLaw recheck (.make interval recheck concurrency) start moves watcher := by
  have kept := tracked_of_run run
  constructor
  case submitted =>
    rcases kept.hits with ahead | ⟨version, same, dropped⟩
    · exact .inl ahead
    · exact .inr ⟨version, same, dropped, fun _ _ later => nothing_follows dropped.left later⟩
  case callbacks => exact kept.callbacks
  case asks =>
    intro since _ settings maxWait trace outcome run
    rw [ask, kept.version] at run
    exact Metadata.asked_of_version run
  case lastRun => exact kept.lastRun

def recheckRun : List (WatchMove Int) :=
  [.look 0, .answer (.ok "1") 2 3, .take, .submit,
    .look 4, .answer (.error (.reported .httpError "no answer")) 5 5, .report (.ok ()), .wake (.ok ()),
    .look 9, .answer (.ok "1") 10 11, .stop, .miss, .heed]

theorem hits_submitted_in_recheckRun :
    ∃ watcher, follow (Watcher.step (.make 5 (some 7) 1)) (fresh (.make 5 (some 7) 1) 0) recheckRun =
        some watcher ∧
      watcher.submitted = ["1"] ∧ (Changes.ofMoves (some 7) 0 recheckRun).hits = ["1", "1"] ∧
      ChangeLaw (some 7) (.make 5 (some 7) 1) 0 recheckRun watcher := by
  have run : follow (Watcher.step (.make 5 (some 7) 1)) (fresh (.make 5 (some 7) 1) 0) recheckRun =
    some _ := rfl
  exact ⟨_, run, rfl, rfl, hits_submitted run⟩

def lateSlotRun : List (WatchMove Int) :=
  [.look 0, .answer (.ok "1") 0 0, .take, .submit, .start 0, .look 1, .answer (.ok "2") 1 1, .miss,
    .conclude 0 (.ok ()), .release 0, .stop, .heed, .leave]

def speechless : Fault := .reported .httpError (Text.ofPoints [0xD800])

def unwrittenRun : List (WatchMove Int) :=
  [.look 0, .answer (.error speechless) 0 0, .report (({} : World).perform (logFailure speechless)).1, .leave]

/-- A hit is dropped with a slot free, and a watcher ends before the hit that the service has next. -/
theorem hit_dropped_with_slot_free :
    (∃ before after, follow (Watcher.step (.make 5 none 1)) (fresh (.make 5 none 1) 0) (lateSlotRun.take 10) =
        some before ∧ before.slots.free = 1 ∧ before.stopping = false ∧
      follow (Watcher.step (.make 5 none 1)) before (lateSlotRun.drop 10) = some after ∧
      after.phase = .ended (.ok ()) ∧ after.submitted = ["1"] ∧
      (Changes.ofMoves none 0 lateSlotRun).hits = ["1", "2"]) ∧
    ∃ fault after, follow (Watcher.step (.make 5 none 1)) (fresh (.make 5 none 1) 0) unwrittenRun = some after ∧
      after.phase = .ended (.error fault) ∧ after.submitted = [] ∧
      (Changes.ofMoves none 0 (unwrittenRun ++ [WatchMove.answer (.ok "1") 1 1])).hits = ["1"] := by
  have refused : (({} : World).perform (logFailure speechless)).1.isOk = false := by decide +kernel
  refine ⟨⟨_, _, rfl, rfl, rfl, rfl, rfl, rfl, rfl⟩, ?_⟩
  unfold unwrittenRun
  cases written : (({} : World).perform (logFailure speechless)).1 with
  | ok _ =>
    rw [written] at refused
    cases refused
  | error fault => exact ⟨fault, _, rfl, rfl, rfl, rfl⟩

end ContainerWarden.Watcher

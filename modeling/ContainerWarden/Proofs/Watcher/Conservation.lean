import ContainerWarden.Proofs.Watcher.Turn

namespace ContainerWarden.Watcher

variable {τ : Type}

def unsubmitted (watcher : Watcher τ) : Nat :=
  match watcher.phase with
  | .submitting _ => 1
  | _ => 0

structure Conserved (most : Nat) (watcher : Watcher τ) : Prop where
  held : watcher.slots.Held (watcher.unsubmitted + watcher.callbacks.size)
  total : watcher.slots.total = most
  finished : ∀ outcome, watcher.phase = .ended outcome → watcher.callbacks.size = 0

variable {policy : WatchPolicy τ} {most : Nat} {watcher next : Watcher τ}

theorem conserved_fresh (now : τ) : Conserved policy.slots (fresh policy now) :=
  ⟨Slots.held_allFree _, rfl, fun _ _ => rfl⟩

theorem Conserved.phase (kept : Conserved most watcher) (idle : watcher.unsubmitted = 0)
    (slots : next.slots = watcher.slots) (callbacks : next.callbacks = watcher.callbacks)
    (quiet : next.unsubmitted = 0) (going : ∀ outcome, next.phase ≠ .ended outcome) :
    Conserved most next := by
  refine ⟨?_, ?_, fun outcome ended => absurd ended (going outcome)⟩
  · rw [slots, callbacks, quiet, ← idle]
    exact kept.held
  · rw [slots]
    exact kept.total

theorem Conserved.setStage (kept : Conserved most watcher) (number : Nat) (version : String)
    (stage : Stage) : Conserved most (watcher.setStage number version stage) := by
  refine ⟨?_, kept.total, ?_⟩
  · show watcher.slots.Held (watcher.unsubmitted + (watcher.callbacks.update number _).size)
    rw [Pool.size_update]
    exact kept.held
  · intro outcome ended
    show (watcher.callbacks.update number _).size = 0
    rw [Pool.size_update]
    exact kept.finished outcome ended

theorem setStage_setStage (number : Nat) (version : String) (first second : Stage) :
    (watcher.setStage number version first).setStage number version second =
      watcher.setStage number version second := by
  simp only [setStage, Pool.update_update]

variable [OfNat τ 0] [Sub τ] [LT τ] [LE τ] [DecidableLT τ] [DecidableLE τ] {move : WatchMove τ}

theorem Conserved.turn (kept : Conserved most watcher) (turn : Turn policy watcher move next) :
    Conserved most next := by
  cases turn with
  | quit idle
  | ask idle
  | fail idle
  | cut idle
  | hit idle
  | same idle
  | reported idle
  | unreported idle
  | woken idle
  | unrested idle
  | miss idle
  | drop idle
  | retry idle => exact kept.phase (by simp [unsubmitted, idle]) rfl rfl rfl (by simp)
  | take wanting took =>
    have idle : watcher.unsubmitted = 0 := by simp [unsubmitted, wanting]
    have held := kept.held
    rw [idle, Nat.zero_add] at held
    obtain ⟨taken, same⟩ := held.take took
    refine ⟨?_, same.trans kept.total, nofun⟩
    show Slots.Held _ (1 + watcher.callbacks.size)
    rw [Nat.add_comm]
    exact taken
  | submit ready =>
    have own : watcher.unsubmitted = 1 := by simp [unsubmitted, ready]
    have held := kept.held
    rw [own, Nat.add_comm] at held
    refine ⟨?_, kept.total, nofun⟩
    show watcher.slots.Held (0 + (watcher.callbacks.accept _).size)
    rw [Nat.zero_add, Pool.size_accept]
    exact held
  | start _ | conclude _ | record _ => exact kept.setStage ..
  | release found =>
    have size := Pool.size_finish found
    have held := kept.held
    rw [← size, ← Nat.add_assoc] at held
    refine ⟨held.giveBack, (Slots.total_giveBack _).trans kept.total, ?_⟩
    intro outcome ended
    have none := kept.finished outcome ended
    show (watcher.callbacks.finish _).size = 0
    omega
  | leave leaving finished =>
    have idle : watcher.unsubmitted = 0 := by simp [unsubmitted, leaving]
    refine ⟨?_, kept.total, fun _ _ => finished⟩
    show watcher.slots.Held (0 + watcher.callbacks.size)
    rw [← idle]
    exact kept.held
  | stop => exact ⟨kept.held, kept.total, kept.finished⟩

theorem conserved_of_run {start : τ} {moves : List (WatchMove τ)}
    (run : follow (Watcher.step policy) (fresh policy start) moves = some watcher) :
    Conserved policy.slots watcher :=
  follow_induction (motive := fun _ watcher => Conserved policy.slots watcher) (conserved_fresh start)
    (fun _ _ _ _ _ kept moved => kept.turn (turn_of_step moved)) run

def conclusion (number : Nat) (outcome written : Outcome Unit) : List (WatchMove τ) :=
  match outcome with
  | .ok () => [.conclude number outcome, .release number]
  | .error _ => [.conclude number outcome, .record number written, .release number]

theorem release_setStage {number : Nat} {version : String} {callback : Callback}
    (found : watcher.callbacks.task? number = some callback) (outcome : Outcome Unit) :
    (watcher.setStage number version (.settled outcome)).step policy (.release number) =
      some { watcher with
        slots := watcher.slots.giveBack
        callbacks := watcher.callbacks.finish number } := by
  have settled : (watcher.setStage number version (.settled outcome)).callbacks.task? number =
      some ⟨version, .settled outcome⟩ := Pool.task?_update found _
  rw [step_of_turn (.release settled)]
  simp only [setStage, Pool.finish_update]

theorem follow_conclusion {number : Nat} {version : String}
    (found : watcher.callbacks.task? number = some ⟨version, .running⟩)
    (outcome written : Outcome Unit) :
    follow (Watcher.step policy) watcher (conclusion number outcome written) =
      some { watcher with
        slots := watcher.slots.giveBack
        callbacks := watcher.callbacks.finish number } := by
  -- The outcome of the log row does not matter: the slot is given back from any settled stage.
  cases outcome with
  | ok =>
    simp only [conclusion, follow, step_of_turn (.conclude found), Option.bind_some, Stage.concluded,
      release_setStage found]
  | error fault =>
    have failed : (watcher.setStage number version (.failed fault)).callbacks.task? number =
        some ⟨version, .failed fault⟩ := Pool.task?_update found _
    simp only [conclusion, follow, step_of_turn (.conclude found), Option.bind_some, Stage.concluded,
      step_of_turn (.record failed), setStage_setStage, release_setStage found]

structure SlotLaw (policy : WatchPolicy τ) (most : Nat) (watcher : Watcher τ) : Prop where
  sum : watcher.slots.free + watcher.unsubmitted + watcher.callbacks.size = most
  inFlight : watcher.callbacks.size ≤ most
  neverBeyond : watcher.slots.total = most ∧ watcher.slots.refused = false
  waitsWhenAllBusy : ∀ version, watcher.phase = .acquiring version →
    watcher.step policy .take = none → watcher.callbacks.size = most
  missesWhenAllBusy : watcher.step policy .miss ≠ none → watcher.callbacks.size = most
  givesBack : ∀ number version, watcher.callbacks.task? number = some ⟨version, .running⟩ →
    ∀ outcome written,
      follow (Watcher.step policy) watcher (conclusion number outcome written) =
        some { watcher with
          slots := { watcher.slots with free := watcher.slots.free + 1 }
          callbacks := watcher.callbacks.finish number }
  dropTakesNone : ∀ version dropped, watcher.phase = .balked version →
    watcher.step policy .heed = some dropped →
      dropped.slots = watcher.slots ∧ dropped.callbacks = watcher.callbacks
  allFree : ∀ outcome, watcher.phase = .ended outcome →
    watcher.callbacks.size = 0 ∧ watcher.slots.free = most

theorem slots_conserved [BEq τ] {interval : τ} {recheck : Option τ} {concurrency : Int} {start : τ}
    {moves : List (WatchMove τ)} {watcher : Watcher τ}
    (run : follow (Watcher.step (.make interval recheck concurrency))
      (fresh (.make interval recheck concurrency) start) moves = some watcher) :
    SlotLaw (.make interval recheck concurrency) (max 1 concurrency).toNat watcher := by
  have kept := conserved_of_run run
  have sum := kept.held.sum
  have total : watcher.slots.total = (max 1 concurrency).toNat := kept.total
  have full : ∀ version, watcher.phase = .acquiring version → watcher.slots.free = 0 →
      watcher.callbacks.size = (max 1 concurrency).toNat := by
    intro version wanting busy
    have idle : watcher.unsubmitted = 0 := by simp [unsubmitted, wanting]
    omega
  constructor
  case sum => omega
  case inFlight => omega
  case neverBeyond => exact ⟨total, kept.held.never⟩
  case waitsWhenAllBusy =>
    intro version wanting stuck
    simp only [step, wanting, Option.map_eq_none_iff, Slots.take?_eq_none] at stuck
    exact full version wanting stuck
  case missesWhenAllBusy =>
    intro possible
    obtain ⟨next, moved⟩ := Option.ne_none_iff_exists'.mp possible
    cases turn_of_step moved with
    | miss wanting busy => exact full _ wanting busy
  case givesBack =>
    intro number version found outcome written
    have size := Pool.size_finish found
    have held := kept.held
    rw [← size, ← Nat.add_assoc] at held
    rw [follow_conclusion found, held.giveBack_eq]
  case dropTakesNone =>
    intro version dropped _ moved
    cases turn_of_step moved with
    | drop | retry => exact ⟨rfl, rfl⟩
  case allFree =>
    intro outcome ended
    have none := kept.finished outcome ended
    have idle : watcher.unsubmitted = 0 := by simp [unsubmitted, ended]
    exact ⟨none, by omega⟩

def failingRun : List (WatchMove Int) :=
  [.look 0, .answer (.ok "1") 1 1, .take, .submit, .start 0, .look 2, .answer (.ok "2") 3 3, .miss, .stop,
    .conclude 0 (.error .routerNotStarted), .heed, .record 0 (.error .routerNotStarted), .release 0,
    .leave]

theorem slots_conserved_in_failingRun :
    ∃ watcher, follow (Watcher.step (.make 5 none 0)) (fresh (.make 5 none 0) 0) failingRun = some watcher ∧
      watcher.phase = .ended (.ok ()) ∧ SlotLaw (.make 5 none 0) 1 watcher := by
  have run : follow (Watcher.step (.make 5 none 0)) (fresh (.make 5 none 0) 0) failingRun = some _ := rfl
  exact ⟨_, run, rfl, slots_conserved run⟩

end ContainerWarden.Watcher

import ContainerWarden.Watcher

namespace ContainerWarden.Watcher

variable {τ : Type} [OfNat τ 0] [Sub τ] [LT τ] [LE τ] [DecidableLT τ] [DecidableLE τ]

inductive Turn (policy : WatchPolicy τ) (watcher : Watcher τ) : WatchMove τ → Watcher τ → Prop where
  | quit {now} (idle : watcher.phase = .checking) (stopping : watcher.stopping = true) :
      Turn policy watcher (.look now) { watcher with phase := .leaving (.ok ()) }
  | ask {now} (idle : watcher.phase = .checking) (going : watcher.stopping = false) :
      Turn policy watcher (.look now) { watcher with phase := .polling now }
  | fail {since fault seen later} (asking : watcher.phase = .polling since)
      (known : fault.isMetadata = true) :
      Turn policy watcher (.answer (.error fault) seen later) { watcher with phase := .reporting fault }
  | cut {since fault seen later} (asking : watcher.phase = .polling since)
      (unknown : fault.isMetadata = false) :
      Turn policy watcher (.answer (.error fault) seen later)
        { watcher with phase := .leaving (.error fault) }
  | hit {since version seen later} (asking : watcher.phase = .polling since)
      (news : watcher.isHit policy version seen = true) :
      Turn policy watcher (.answer (.ok version) seen later)
        { watcher with version, lastRun := later, phase := .acquiring version }
  | same {since version seen later} (asking : watcher.phase = .polling since)
      (nothing : watcher.isHit policy version seen = false) :
      Turn policy watcher (.answer (.ok version) seen later)
        { watcher with phase := .resting (remaining policy since later) }
  | reported {fault} (failed : watcher.phase = .reporting fault) :
      Turn policy watcher (.report (.ok ())) { watcher with phase := .resting policy.interval }
  | unreported {fault refusal} (failed : watcher.phase = .reporting fault) :
      Turn policy watcher (.report (.error refusal)) { watcher with phase := .leaving (.error refusal) }
  | woken {seconds} (resting : watcher.phase = .resting seconds) :
      Turn policy watcher (.wake (.ok ())) { watcher with phase := .checking }
  | unrested {seconds fault} (resting : watcher.phase = .resting seconds) :
      Turn policy watcher (.wake (.error fault)) { watcher with phase := .leaving (.error fault) }
  | take {version slots} (wanting : watcher.phase = .acquiring version)
      (took : watcher.slots.take? = some slots) :
      Turn policy watcher .take { watcher with slots, phase := .submitting version }
  | miss {version} (wanting : watcher.phase = .acquiring version) (busy : watcher.slots.free = 0) :
      Turn policy watcher .miss { watcher with phase := .balked version }
  | drop {version} (balked : watcher.phase = .balked version) (stopping : watcher.stopping = true) :
      Turn policy watcher .heed { watcher with phase := .leaving (.ok ()) }
  | retry {version} (balked : watcher.phase = .balked version) (going : watcher.stopping = false) :
      Turn policy watcher .heed { watcher with phase := .acquiring version }
  | submit {version} (ready : watcher.phase = .submitting version) :
      Turn policy watcher .submit { watcher with
        phase := .checking
        callbacks := watcher.callbacks.accept { version }
        submitted := version :: watcher.submitted }
  | start {number version} (found : watcher.callbacks.task? number = some ⟨version, .waiting⟩) :
      Turn policy watcher (.start number) (watcher.setStage number version .running)
  | conclude {number version outcome}
      (found : watcher.callbacks.task? number = some ⟨version, .running⟩) :
      Turn policy watcher (.conclude number outcome)
        (watcher.setStage number version (.concluded outcome))
  | record {number version fault written}
      (found : watcher.callbacks.task? number = some ⟨version, .failed fault⟩) :
      Turn policy watcher (.record number written) (watcher.setStage number version (.settled written))
  | release {number version outcome}
      (found : watcher.callbacks.task? number = some ⟨version, .settled outcome⟩) :
      Turn policy watcher (.release number) { watcher with
        slots := watcher.slots.giveBack
        callbacks := watcher.callbacks.finish number }
  | leave {outcome} (leaving : watcher.phase = .leaving outcome) (finished : watcher.callbacks.size = 0) :
      Turn policy watcher .leave { watcher with phase := .ended outcome }
  | stop : Turn policy watcher .stop { watcher with stopping := true }

variable {policy : WatchPolicy τ} {watcher next : Watcher τ} {move : WatchMove τ}

theorem turn_of_step (moved : watcher.step policy move = some next) : Turn policy watcher move next := by
  cases move with
  | look now =>
    simp only [step] at moved
    split at moved
    · rename_i idle
      split at moved
      · rename_i stopping
        cases moved
        exact .quit idle stopping
      · rename_i going
        cases moved
        exact .ask idle (Bool.eq_false_iff.mpr going)
    · cases moved
  | answer outcome seen later =>
    simp only [step] at moved
    split at moved
    · rename_i asking
      cases moved
      cases outcome with
      | error fault =>
        simp only [afterAnswer]
        split
        · rename_i known
          exact .fail asking known
        · rename_i unknown
          exact .cut asking (Bool.eq_false_iff.mpr unknown)
      | ok version =>
        simp only [afterAnswer]
        split
        · rename_i news
          exact .hit asking news
        · rename_i nothing
          exact .same asking (Bool.eq_false_iff.mpr nothing)
    · cases moved
  | report written =>
    simp only [step] at moved
    split at moved
    · rename_i failed
      cases moved
      cases written with
      | ok => exact .reported failed
      | error fault => exact .unreported failed
    · cases moved
  | wake rested =>
    simp only [step] at moved
    split at moved
    · rename_i resting
      cases moved
      cases rested with
      | ok => exact .woken resting
      | error fault => exact .unrested resting
    · cases moved
  | take =>
    simp only [step] at moved
    split at moved
    · rename_i wanting
      obtain ⟨slots, took, rfl⟩ := Option.map_eq_some_iff.mp moved
      exact .take wanting took
    · cases moved
  | miss =>
    simp only [step] at moved
    split at moved
    · rename_i wanting
      split at moved
      · rename_i busy
        cases moved
        exact .miss wanting busy
      · cases moved
    · cases moved
  | heed =>
    simp only [step] at moved
    split at moved
    · rename_i balked
      split at moved
      · rename_i stopping
        cases moved
        exact .drop balked stopping
      · rename_i going
        cases moved
        exact .retry balked (Bool.eq_false_iff.mpr going)
    · cases moved
  | submit =>
    simp only [step] at moved
    split at moved
    · rename_i ready
      cases moved
      exact .submit ready
    · cases moved
  | start number =>
    simp only [step] at moved
    split at moved
    · rename_i found
      cases moved
      exact .start found
    · cases moved
  | conclude number outcome =>
    simp only [step] at moved
    split at moved
    · rename_i found
      cases moved
      exact .conclude found
    · cases moved
  | record number written =>
    simp only [step] at moved
    split at moved
    · rename_i found
      cases moved
      exact .record found
    · cases moved
  | release number =>
    simp only [step] at moved
    split at moved
    · rename_i found
      cases moved
      exact .release found
    · cases moved
  | leave =>
    simp only [step] at moved
    split at moved
    · rename_i leaving
      split at moved
      · rename_i finished
        cases moved
        exact .leave leaving finished
      · cases moved
    · cases moved
  | stop =>
    cases moved
    exact .stop

theorem step_of_turn (turn : Turn policy watcher move next) : watcher.step policy move = some next := by
  cases turn with
  | drop balked stopping | quit balked stopping => simp [step, balked, stopping]
  | ask idle going | retry idle going => simp [step, idle, going]
  | take wanting took => simp [step, wanting, took]
  | miss wanting busy => simp [step, wanting, busy]
  | leave leaving finished => simp [step, leaving, finished]
  | stop => rfl
  | fail asking known => simp [step, afterAnswer, asking, known]
  | cut asking unknown => simp [step, afterAnswer, asking, unknown]
  | hit asking news => simp [step, afterAnswer, asking, news]
  | same asking nothing => simp [step, afterAnswer, asking, nothing]
  | reported failed | unreported failed => simp [step, failed, WatchPhase.unless]
  | woken resting | unrested resting => simp [step, resting, WatchPhase.unless]
  | submit ready => simp [step, ready]
  | start found | conclude found | record found | release found => simp [step, found]

end ContainerWarden.Watcher

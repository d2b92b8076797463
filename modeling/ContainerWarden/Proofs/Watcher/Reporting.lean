import ContainerWarden.Proofs.Orphan.Change
import ContainerWarden.Proofs.Watcher.Callbacks

namespace ContainerWarden

def Effect.onStatus : Effect → Status → Status
  | .count field amount, status => status.count field amount
  | .assign field value, status => status.put field.label value
  | _, status => status

def versionOf : Exchange → Option Json
  | ⟨.assign .metadataVersion version, _⟩ => some version
  | _ => none

/-- Steps that change the version, if they do, by setting it. -/
def Effect.keepsVersion : Effect → Bool
  | .count .metadataVersion _ => false
  | _ => true

theorem value_onStatus {effect : Effect} (keeps : effect.keepsVersion = true) (reply : effect.Reply)
    (status : Status) : (effect.onStatus status).value .metadataVersion =
      (versionOf ⟨effect, reply⟩).getD (status.value .metadataVersion) := by
  cases effect with
  | count field amount =>
    have other : .metadataVersion ≠ field := by
      intro same
      subst same
      cases keeps
    exact Status.value_count_of_ne other amount
  | assign field value =>
    by_cases own : field = .metadataVersion
    · subst own
      exact Status.value_put value
    · have silent : versionOf ⟨.assign field value, reply⟩ = none := by
        unfold versionOf
        split
        · rename_i same
          cases same
          exact absurd rfl own
        · rfl
      rw [silent]
      exact Status.value_put_of_ne (Ne.symm own) value
  | _ => rfl

def Stage.isOver : Stage → Bool
  | .failed _ | .settled _ => true
  | _ => false

namespace WatchWork

def statusAfter : List (Nat × Exchange) → Status
  | [] => .fresh
  | (_, exchange) :: earlier => exchange.1.onStatus (statusAfter earlier)

def reports (history : List (Nat × Exchange)) : List (Nat × Json) :=
  history.filterMap fun entry => (versionOf entry.2).map (entry.1, ·)

def order (history : List (Nat × Exchange)) : List Nat := (reports history).map (·.1)

theorem reports_cons (number : Nat) (exchange : Exchange) (earlier : List (Nat × Exchange)) :
    reports ((number, exchange) :: earlier) =
      ((versionOf exchange).map (number, ·)).toList ++ reports earlier := by
  rw [reports, List.filterMap_cons]
  cases versionOf exchange <;> rfl

theorem order_cons (number : Nat) (exchange : Exchange) (earlier : List (Nat × Exchange)) :
    order ((number, exchange) :: earlier) =
      if (versionOf exchange).isSome then number :: order earlier else order earlier := by
  rw [order, reports_cons]
  cases versionOf exchange <;> rfl

theorem value_statusAfter {history : List (Nat × Exchange)}
    (keeps : ∀ entry ∈ history, entry.2.1.keepsVersion = true) :
    (statusAfter history).value .metadataVersion = ((reports history).head?.map (·.2)).getD .null := by
  induction history with
  | nil => rfl
  | cons entry earlier ih =>
    obtain ⟨own, others⟩ := List.forall_mem_cons.mp keeps
    obtain ⟨number, exchange⟩ := entry
    have step := value_onStatus own exchange.2 (statusAfter earlier)
    show (exchange.1.onStatus (statusAfter earlier)).value .metadataVersion = _
    rw [step, ih others, reports_cons]
    cases versionOf exchange <;> rfl

theorem count_order (number : Nat) (history : List (Nat × Exchange)) :
    (order history).count number = ((exchangesOf number history).filterMap versionOf).length := by
  induction history with
  | nil => rfl
  | cons entry earlier ih =>
    obtain ⟨other, exchange⟩ := entry
    rw [order_cons]
    by_cases own : other = number
    · subst own
      rw [exchangesOf_cons_self, List.filterMap_append, List.length_append, ← ih]
      cases found : versionOf exchange <;> simp [found]
    · rw [exchangesOf_cons_of_ne (Ne.symm own), ← ih]
      cases versionOf exchange <;> simp [own]

theorem mem_reports {number : Nat} {version : Json} {history : List (Nat × Exchange)}
    (member : (number, version) ∈ reports history) :
    version ∈ (exchangesOf number history).filterMap versionOf := by
  obtain ⟨⟨own, exchange⟩, there, found⟩ := List.mem_filterMap.mp member
  obtain ⟨value, set, same⟩ := Option.map_eq_some_iff.mp found
  cases same
  exact List.mem_filterMap.mpr ⟨exchange, mem_exchangesOf.mpr there, set⟩

def pendingBefore (number : Nat) (order : List Nat) : List Nat :=
  (List.range number).filter (· ∉ order)

theorem mem_pendingBefore {number other : Nat} {order : List Nat} :
    other ∈ pendingBefore number order ↔ other < number ∧ other ∉ order := by
  simp [pendingBefore]

theorem nodup_pendingBefore (number : Nat) (order : List Nat) : (pendingBefore number order).Nodup :=
  List.nodup_range.filter _

theorem pendingBefore_cons (number other : Nat) (order : List Nat) :
    pendingBefore number (other :: order) = (pendingBefore number order).erase other := by
  rw [(nodup_pendingBefore number order).erase_eq_filter, pendingBefore, pendingBefore, List.filter_filter]
  congr 1
  funext candidate
  by_cases same : candidate = other <;> simp [same]

/-- In an order with the newest first, fewer than `slots` callbacks that are before another one in number come
    after it or are still to come. -/
def Bounded (slots : Nat) (order : List Nat) : Prop :=
  ∀ later number earlier, order = later ++ number :: earlier →
    (later.filter (· < number)).length + (pendingBefore number order).length < slots

theorem Bounded.cons {slots number : Nat} {order : List Nat} (bounded : Bounded slots order)
    (new : number ∉ order) (few : (pendingBefore number order).length < slots) :
    Bounded slots (number :: order) := by
  intro later other earlier split
  rw [pendingBefore_cons]
  cases later with
  | nil =>
    cases split
    have absent : number ∉ pendingBefore number order := by simp [mem_pendingBefore]
    rw [List.erase_of_not_mem absent]
    simpa using few
  | cons head later =>
    obtain ⟨rfl, rest⟩ := List.cons.inj split
    have before := bounded later other earlier rest
    by_cases overtaken : number < other
    · have due := List.length_erase_of_mem (mem_pendingBefore.mpr ⟨overtaken, new⟩)
      have some := List.length_pos_of_mem (mem_pendingBefore.mpr ⟨overtaken, new⟩)
      rw [List.filter_cons_of_pos (by simpa using overtaken), List.length_cons, due]
      omega
    · have fewer := (pendingBefore other order).length_erase_le (a := number)
      rw [List.filter_cons_of_neg (by simpa using overtaken)]
      omega

structure ReportsOnce (callback : String → Plan (Outcome α)) : Prop where
  once : ∀ version trace outcome, (callback version).Runs trace outcome →
    trace.filterMap versionOf = [.str version]
  keeps : ∀ version trace outcome, (callback version).Runs trace outcome →
    ∀ exchange ∈ trace, exchange.1.keepsVersion = true

section Order

variable {τ α : Type} {callback : String → Plan (Outcome α)} {work : WatchWork τ α}

theorem Traced.begun (traced : Traced callback work) {number : Nat} {version : String}
    (submitted : work.watcher.submitted.reverse[number]? = some version) :
    ∃ rest, (callback version).Steps (exchangesOf number work.history) rest := by
  have progress := traced.progress number version submitted
  unfold Progress at progress
  split at progress
  · rw [progress]
    exact ⟨_, .refl _⟩
  · obtain ⟨rest, _, begun⟩ := progress
    exact ⟨rest, begun⟩
  · obtain ⟨outcome, run⟩ := progress
    exact ⟨_, run⟩

theorem Traced.submitted (traced : Traced callback work) {number : Nat}
    (accepted : number < work.watcher.callbacks.accepted) :
    ∃ version, work.watcher.submitted.reverse[number]? = some version := by
  rw [← traced.ledger.length, ← List.length_reverse] at accepted
  exact ⟨_, List.getElem?_eq_getElem accepted⟩

variable (reporting : ReportsOnce callback)
include reporting

theorem Traced.versions_prefix (traced : Traced callback work) {number : Nat} {version : String}
    (submitted : work.watcher.submitted.reverse[number]? = some version) :
    (exchangesOf number work.history).filterMap versionOf <+: [.str version] := by
  obtain ⟨rest, begun⟩ := traced.begun submitted
  obtain ⟨later, outcome, run⟩ := begun.completes
  rw [← reporting.once version _ outcome run, List.filterMap_append]
  exact List.prefix_append _ _

theorem Traced.keepsVersion (traced : Traced callback work) :
    ∀ entry ∈ work.history, entry.2.1.keepsVersion = true := by
  intro ⟨number, exchange⟩ member
  obtain ⟨version, submitted⟩ := traced.submitted (traced.known _ member)
  obtain ⟨rest, begun⟩ := traced.begun submitted
  obtain ⟨later, outcome, run⟩ := begun.completes
  exact reporting.keeps version _ outcome run exchange
    (List.mem_append_left _ (mem_exchangesOf.mpr member))

theorem Traced.report_eq (traced : Traced callback work) {number : Nat} {value : Json}
    (member : (number, value) ∈ reports work.history) :
    (work.watcher.submitted.reverse[number]?).map Json.str = some value := by
  have set := mem_reports member
  obtain ⟨exchange, there, _⟩ := List.mem_filterMap.mp set
  obtain ⟨version, submitted⟩ := traced.submitted (traced.known _ (mem_exchangesOf.mp there))
  have own := (traced.versions_prefix reporting submitted).subset set
  rw [submitted, List.mem_singleton.mp own]
  rfl

theorem Traced.count_order_le (traced : Traced callback work) (number : Nat) :
    (order work.history).count number ≤ 1 := by
  rw [count_order]
  by_cases accepted : number < work.watcher.callbacks.accepted
  · obtain ⟨version, submitted⟩ := traced.submitted accepted
    exact (traced.versions_prefix reporting submitted).length_le
  · have nothing : exchangesOf number work.history = [] := by
      refine List.eq_nil_iff_forall_not_mem.mpr fun exchange member => ?_
      exact accepted (traced.known _ (mem_exchangesOf.mp member))
    simp [nothing]

theorem Traced.count_order_eq (traced : Traced callback work) {number : Nat}
    (accepted : number < work.watcher.callbacks.accepted)
    (finished : ∀ stage, work.stageOf number = some stage → stage.isOver = true) :
    (order work.history).count number = 1 := by
  obtain ⟨version, submitted⟩ := traced.submitted accepted
  have progress := traced.progress number version submitted
  rw [count_order]
  unfold Progress at progress
  split at progress
  · rename_i waiting
    cases finished _ waiting
  · rename_i running
    cases finished _ running
  · obtain ⟨outcome, run⟩ := progress
    rw [reporting.once version _ outcome run]
    rfl

/-- A callback that is not in the order yet is among those that are not finished. -/
theorem Traced.mem_tasks (traced : Traced callback work) {number : Nat}
    (accepted : number < work.watcher.callbacks.accepted) (silent : number ∉ order work.history) :
    number ∈ work.watcher.callbacks.tasks.map (·.1) := by
  cases found : work.watcher.callbacks.task? number with
  | some task => exact List.mem_map.mpr ⟨_, Pool.mem_of_task? found, rfl⟩
  | none =>
    have one := traced.count_order_eq reporting accepted (by simp [stageOf, found])
    rw [List.count_eq_zero_of_not_mem silent] at one
    cases one

theorem Traced.pendingBefore_lt (traced : Traced callback work) {number : Nat} {task : Callback}
    (found : work.watcher.callbacks.task? number = some task) :
    (pendingBefore number (order work.history)).length < work.watcher.callbacks.size := by
  have bound := Pool.task?_lt found
  -- It and those pending before it are all unfinished, and of these there are no more than the pool holds.
  have distinct : (number :: pendingBefore number (order work.history)).Nodup :=
    List.nodup_cons.mpr ⟨by simp [mem_pendingBefore], nodup_pendingBefore _ _⟩
  have unfinished : number :: pendingBefore number (order work.history) ⊆
      work.watcher.callbacks.tasks.map (·.1) := by
    intro other member
    rcases List.mem_cons.mp member with rfl | pending
    · exact List.mem_map.mpr ⟨_, Pool.mem_of_task? found, rfl⟩
    · obtain ⟨before, silent⟩ := mem_pendingBefore.mp pending
      exact traced.mem_tasks reporting (Nat.lt_trans before bound) silent
  have fits := distinct.length_le_of_subset unfinished
  rw [List.length_map] at fits
  exact fits

variable [OfNat τ 0] [Sub τ] [LT τ] [LE τ] [DecidableLT τ] [DecidableLE τ] {policy : WatchPolicy τ}
  {start : τ} {moves : List (WorkMove τ)}

theorem bounded_of_run (run : follow (step callback policy) (fresh policy start) moves = some work) :
    Bounded policy.slots (order work.history) := by
  refine follow_induction (motive := fun _ work => Bounded policy.slots (order work.history)) ?_ ?_ run
  · intro later number earlier split
    cases later <;> cases split
  intro before state move next reached bounded moved
  have reachedNext := follow_snoc.mpr ⟨state, reached, moved⟩
  have traced := traced_of_run reachedNext
  have conserved := conserved_of_run reachedNext
  cases turn_of_step moved with
  | watch | start | conclude => exact bounded
  -- Only a step that sets a version adds to the order, and an unfinished callback takes it.
  | @advance number version effect rest reply found due =>
    have once := traced.count_order_le reporting number
    have few := traced.pendingBefore_lt reporting found
    have sum := conserved.held.sum
    have total := conserved.total
    dsimp only at once few sum total ⊢
    rw [order_cons] at once few ⊢
    cases reported : versionOf ⟨effect, reply effect⟩ with
    | none => exact bounded
    | some value =>
      rw [reported, Option.isSome_some, if_pos rfl] at once few
      have new : number ∉ order state.history := by
        rw [List.count_cons_self] at once
        exact List.count_eq_zero.mp (by omega)
      rw [pendingBefore_cons, List.erase_of_not_mem (by simp [mem_pendingBefore])] at few
      exact bounded.cons new (by omega)

end Order

structure ReportLaw (slots : Nat) (work : WatchWork τ α) : Prop where
  once : (order work.history).Perm (List.range work.watcher.callbacks.accepted)
  last : (statusAfter work.history).value .metadataVersion =
    (((order work.history).head?.bind (work.watcher.submitted.reverse[·]?)).map Json.str).getD .null
  overtaken : ∀ later number earlier, order work.history = later ++ number :: earlier →
    (later.filter (· < number)).length < slots
  serial : slots = 1 → (statusAfter work.history).value .metadataVersion =
    (work.watcher.submitted.head?.map Json.str).getD .null

section Law

variable {τ α : Type} {callback : String → Plan (Outcome α)} {work : WatchWork τ α}

theorem head?_of_bounded {slots accepted : Nat} {order : List Nat} (bounded : Bounded slots order)
    (perm : order.Perm (List.range accepted)) (single : slots = 1) :
    order.head? = (List.range accepted).getLast? := by
  cases accepted with
  | zero => simp [List.perm_nil.mp perm]
  | succ last =>
    have member : last ∈ order := perm.mem_iff.mpr (List.mem_range.mpr (Nat.lt_succ_self last))
    obtain ⟨later, earlier, split⟩ := List.append_of_mem member
    have bound := bounded later last earlier split
    -- All others are before the last one, so that none of them can come after it.
    have others : later.filter (· < last) = later := by
      refine List.filter_eq_self.mpr fun other there => ?_
      have below := List.mem_range.mp (perm.mem_iff.mp (split ▸ List.mem_append_left _ there))
      have distinct := perm.nodup_iff.mpr List.nodup_range
      rw [split, List.nodup_append] at distinct
      have different := distinct.2.2 other there last List.mem_cons_self
      simpa using (show other < last by omega)
    rw [others] at bound
    have empty : later = [] := List.eq_nil_of_length_eq_zero (by omega)
    rw [split, empty, List.range_succ]
    simp

theorem reportLaw_of_traced {slots : Nat} (reporting : ReportsOnce callback)
    (traced : Traced callback work) (bounded : Bounded slots (order work.history))
    (finished : ∀ number stage, work.stageOf number = some stage → stage.isOver = true) :
    ReportLaw slots work := by
  have once : (order work.history).Perm (List.range work.watcher.callbacks.accepted) := by
    refine List.perm_iff_count.mpr fun number => ?_
    rw [List.count_range]
    split
    · rename_i accepted
      exact traced.count_order_eq reporting accepted (finished number)
    · rename_i unknown
      refine List.count_eq_zero.mpr fun member => unknown ?_
      obtain ⟨⟨own, value⟩, there, rfl⟩ := List.mem_map.mp member
      obtain ⟨exchange, set, _⟩ := List.mem_filterMap.mp (mem_reports there)
      exact traced.known _ (mem_exchangesOf.mp set)
  have last : (statusAfter work.history).value .metadataVersion =
      (((order work.history).head?.bind (work.watcher.submitted.reverse[·]?)).map Json.str).getD
        .null := by
    rw [value_statusAfter (traced.keepsVersion reporting)]
    cases reported : reports work.history with
    | nil => simp [order, reported]
    | cons latest earlier =>
      have member : (latest.1, latest.2) ∈ reports work.history := reported ▸ List.mem_cons_self
      simp [order, reported, traced.report_eq reporting member]
  refine ⟨once, last, ?_, ?_⟩
  · intro later number earlier split
    have bound := bounded later number earlier split
    omega
  · intro single
    rw [last, head?_of_bounded bounded once single, ← traced.ledger.length]
    cases work.watcher.submitted with
    | nil => rfl
    | cons latest earlier => simp [List.range_succ]

end Law

end WatchWork

namespace Orphan

theorem keepsVersion_of_isOfPass {effect : Effect} (own : effect.isOfPass = true) :
    effect.keepsVersion = true := by
  cases effect
  case count field amount =>
    cases field
    case containersRemoved => rfl
    all_goals cases own
  all_goals rfl

theorem versionOf_of_isOfPass {exchange : Exchange} (own : exchange.1.isOfPass = true) :
    versionOf exchange = none := by
  obtain ⟨effect, reply⟩ := exchange
  cases effect
  case assign field value => cases own
  all_goals rfl

theorem onChange_reportsOnce (settings : Settings) :
    WatchWork.ReportsOnce fun version => ExceptT.run (onChange settings (.str version)) := by
  constructor
  · intro version trace outcome run
    have silent {trace : List Exchange} {outcome : Outcome (List String)}
        (run : (pass settings).Runs trace outcome) : trace.filterMap versionOf = [] := by
      refine List.filterMap_eq_nil_iff.mpr fun exchange member => ?_
      exact versionOf_of_isOfPass (pass_only settings _ _ run exchange member)
    cases onChange_exchanges run with
    | returned pass => simp [versionOf, silent pass]
    | failed pass known logged => simp [versionOf, changeFailure, silent pass]
    | broken pass unknown => simp [versionOf, silent pass]
  · intro version trace outcome run
    have keeps {trace : List Exchange} {outcome : Outcome (List String)}
        (run : (pass settings).Runs trace outcome) :
        ∀ exchange ∈ trace, exchange.1.keepsVersion = true := by
      intro exchange member
      exact keepsVersion_of_isOfPass (pass_only settings _ _ run exchange member)
    cases onChange_exchanges run with
    | returned pass =>
      refine List.forall_mem_cons.mpr ⟨rfl, List.forall_mem_append.mpr ⟨keeps pass, ?_⟩⟩
      exact List.forall_mem_singleton.mpr rfl
    | failed pass known logged =>
      refine List.forall_mem_cons.mpr ⟨rfl, List.forall_mem_append.mpr ⟨keeps pass, ?_⟩⟩
      exact List.forall_mem_cons.mpr ⟨rfl, List.forall_mem_singleton.mpr rfl⟩
    | broken pass unknown => exact List.forall_mem_cons.mpr ⟨rfl, keeps pass⟩

/-- All callbacks report their versions. The status shows the last report, and fewer callbacks than there are
    slots report after a later one, so that with a single slot it shows the last version. -/
theorem version_reported {τ : Type} [OfNat τ 0] [BEq τ] [Sub τ] [LT τ] [LE τ] [DecidableLT τ]
    [DecidableLE τ] {settings : Settings} {interval : τ} {recheck : Option τ} {concurrency : Int}
    {start : τ} {moves : List (WorkMove τ)} {work : WatchWork τ (List String)}
    (run : follow
      (WatchWork.step (fun version => ExceptT.run (onChange settings (.str version)))
        (.make interval recheck concurrency))
      (WatchWork.fresh (.make interval recheck concurrency) start) moves = some work)
    (finished : ∀ number stage, work.stageOf number = some stage → stage.isOver = true) :
    WatchWork.ReportLaw (max 1 concurrency).toNat work :=
  have reporting := onChange_reportsOnce settings
  WatchWork.reportLaw_of_traced reporting (WatchWork.traced_of_run run)
    (WatchWork.bounded_of_run reporting run) finished

def offline : (effect : Effect) → effect.Reply
  | .fetch _ => .error (.reported .connectError "no route")
  | .list _ | .inspect _ => .error .clientClosed
  | .remove _ _ | .stop _ _ | .subscribe | .log _ | .rest _ => .ok ()
  | .count _ _ | .assign _ _ | .note _ _ => ()
  | .stopping => false

def overtakingRun : List (WorkMove Int) :=
  [.watch (.look 0), .watch (.answer (.ok "1") 0 0), .watch .take, .watch .submit,
    .watch (.look 0), .watch (.answer (.ok "2") 0 0), .watch .take, .watch .submit, .start 0, .start 1] ++
  List.replicate 4 (.advance 1 offline) ++ [.conclude 1, .watch (.release 1)] ++
  List.replicate 4 (.advance 0 offline) ++ [.conclude 0, .watch (.release 0)]

def overtaken : Option (WatchWork Int (List String)) :=
  follow
    (WatchWork.step (fun version => ExceptT.run (onChange {} (.str version))) (.make 0 none 2))
    (WatchWork.fresh (.make 0 none 2) 0) overtakingRun

theorem version_reported_in_overtakingRun :
    ∃ work, overtaken = some work ∧ WatchWork.order work.history = [0, 1] ∧
      WatchWork.ReportLaw 2 work := by
  have facts : overtaken.any (fun work =>
      work.watcher.callbacks.tasks.isEmpty && WatchWork.order work.history == [0, 1]) = true := by
    decide +kernel
  obtain ⟨work, run, shown⟩ := (Option.any_eq_true _ _).mp facts
  obtain ⟨empty, order⟩ := Bool.and_eq_true_iff.mp shown
  have finished : ∀ number stage, work.stageOf number = some stage → stage.isOver = true := by
    intro number stage found
    rw [WatchWork.stageOf, Pool.task?, List.isEmpty_iff.mp empty] at found
    cases found
  exact ⟨work, run, eq_of_beq order, version_reported run finished⟩

/-- With two slots the status may end with a version that is not the last one. -/
theorem earlier_version_reported :
    ∃ work, overtaken = some work ∧ work.watcher.callbacks.size = 0 ∧
      work.watcher.submitted.head? = some "2" ∧
      (WatchWork.statusAfter work.history).value .metadataVersion = .str "1" := by
  have facts : overtaken.any (fun work => work.watcher.callbacks.size == 0 &&
      work.watcher.submitted.head? == some "2" &&
      ((WatchWork.statusAfter work.history).value .metadataVersion).isText "1") = true := by
    decide +kernel
  obtain ⟨work, run, shown⟩ := (Option.any_eq_true _ _).mp facts
  simp only [Bool.and_eq_true, beq_iff_eq, Json.isText_iff] at shown
  obtain ⟨⟨finished, last⟩, earlier⟩ := shown
  exact ⟨work, run, finished, last, earlier⟩

end Orphan

end ContainerWarden

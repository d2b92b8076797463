import ContainerWarden.Fault

namespace ContainerWarden

inductive Stage where
  | waiting
  | running
  /-- Something failed, which is about to be logged. -/
  | failed (fault : Fault)
  | settled (outcome : Outcome Unit)

def Stage.concluded : Outcome Unit → Stage
  | .ok () => .settled (.ok ())
  | .error fault => .failed fault

structure Pool (α : Type) where
  tasks : List (Nat × α)
  accepted : Nat
  below : ∀ task ∈ tasks, task.1 < accepted
  distinct : (tasks.map (·.1)).Nodup

namespace Pool

def empty : Pool α := ⟨[], 0, fun _ member => absurd member List.not_mem_nil, List.nodup_nil⟩

def size (pool : Pool α) : Nat := pool.tasks.length

def task? (pool : Pool α) (number : Nat) : Option α := pool.tasks.lookup number

def accept (pool : Pool α) (task : α) : Pool α where
  tasks := pool.tasks ++ [(pool.accepted, task)]
  accepted := pool.accepted + 1
  below := by
    intro other member
    rcases List.mem_append.mp member with earlier | latest
    · exact Nat.lt_succ_of_lt (pool.below other earlier)
    · rw [List.mem_singleton.mp latest]
      exact Nat.lt_succ_self _
  distinct := by
    rw [List.map_append, List.map_singleton, List.nodup_append]
    refine ⟨pool.distinct, by simp, ?_⟩
    intro number member other latest
    obtain ⟨task, earlier, rfl⟩ := List.mem_map.mp member
    rw [List.mem_singleton.mp latest]
    exact Nat.ne_of_lt (pool.below task earlier)

def replace (number : Nat) (task : α) (entry : Nat × α) : Nat × α :=
  if entry.1 = number then (entry.1, task) else entry

theorem replace_fst (number : Nat) (task : α) (entry : Nat × α) :
    (replace number task entry).1 = entry.1 := by
  unfold replace
  split <;> rfl

theorem map_fst_replace (number : Nat) (task : α) (tasks : List (Nat × α)) :
    (tasks.map (replace number task)).map (·.1) = tasks.map (·.1) := by
  rw [List.map_map]
  exact List.map_congr_left fun entry _ => replace_fst number task entry

def update (pool : Pool α) (number : Nat) (task : α) : Pool α where
  tasks := pool.tasks.map (replace number task)
  accepted := pool.accepted
  below := by
    intro entry member
    obtain ⟨earlier, there, rfl⟩ := List.mem_map.mp member
    rw [replace_fst]
    exact pool.below earlier there
  distinct := by
    rw [map_fst_replace]
    exact pool.distinct

def finish (pool : Pool α) (number : Nat) : Pool α where
  tasks := pool.tasks.filter (·.1 != number)
  accepted := pool.accepted
  below := fun entry member => pool.below entry (List.mem_filter.mp member).1
  distinct := (List.filter_sublist.map _).nodup pool.distinct

variable {pool : Pool α} {number : Nat} {task : α}

theorem size_accept : (pool.accept task).size = pool.size + 1 := by
  simp [size, accept]

theorem size_update : (pool.update number task).size = pool.size := by
  simp [size, update]

theorem mem_of_task? (found : pool.task? number = some task) : (number, task) ∈ pool.tasks := by
  obtain ⟨before, after, whole, -⟩ := List.lookup_eq_some_iff.mp found
  rw [whole]
  simp

theorem size_finish (found : pool.task? number = some task) :
    (pool.finish number).size + 1 = pool.size := by
  obtain ⟨before, after, whole⟩ := List.append_of_mem (mem_of_task? found)
  have distinct := pool.distinct
  rw [whole, List.map_append, List.map_cons, List.nodup_append, List.nodup_cons] at distinct
  obtain ⟨-, ⟨last, -⟩, first⟩ := distinct
  have earlier : ∀ entry ∈ before, (entry.1 != number) = true := by
    intro entry member
    rw [bne_iff_ne]
    exact first entry.1 (List.mem_map_of_mem member) number List.mem_cons_self
  have later : ∀ entry ∈ after, (entry.1 != number) = true := by
    intro entry member
    rw [bne_iff_ne]
    intro same
    exact last (List.mem_map.mpr ⟨entry, member, same⟩)
  show (pool.tasks.filter (·.1 != number)).length + 1 = pool.tasks.length
  rw [whole, List.filter_append, List.filter_cons_of_neg (by simp),
    List.filter_eq_self.mpr earlier, List.filter_eq_self.mpr later]
  simp only [List.length_append, List.length_cons]
  omega

theorem task?_update (found : pool.task? number = some task) (other : α) :
    (pool.update number other).task? number = some other := by
  obtain ⟨before, after, whole, first⟩ := List.lookup_eq_some_iff.mp found
  apply List.lookup_eq_some_iff.mpr
  refine ⟨before.map (replace number other), after.map (replace number other), ?_, ?_⟩
  · show pool.tasks.map (replace number other) = _
    rw [whole, List.map_append, List.map_cons]
    simp [replace]
  · intro entry member
    obtain ⟨earlier, there, rfl⟩ := List.mem_map.mp member
    rw [replace_fst]
    exact first earlier there

theorem task?_lt (found : pool.task? number = some task) : number < pool.accepted :=
  pool.below _ (mem_of_task? found)

theorem task?_accept (number : Nat) : (pool.accept task).task? number =
    if number = pool.accepted then some task else pool.task? number := by
  show (pool.tasks ++ [(pool.accepted, task)]).lookup number = _
  rw [List.lookup_append]
  by_cases own : number = pool.accepted
  · subst own
    have missing : pool.tasks.lookup pool.accepted = none := by
      refine List.lookup_eq_none_iff.mpr fun entry member => ?_
      exact bne_iff_ne.mpr (Nat.ne_of_gt (pool.below entry member))
    simp [missing]
  · simp [own, List.lookup_cons, beq_false_of_ne own, task?]

theorem task?_update_of_ne {other : Nat} (different : number ≠ other) (task : α) :
    (pool.update other task).task? number = pool.task? number := by
  show (pool.tasks.map (replace other task)).lookup number = pool.tasks.lookup number
  induction pool.tasks with
  | nil => rfl
  | cons entry rest ih =>
    obtain ⟨first, earlier⟩ := entry
    by_cases own : first = other
    · subst own
      simp [List.lookup_cons, replace, beq_false_of_ne different, ih]
    · simp [List.lookup_cons, replace, own, ih]

theorem task?_finish (number other : Nat) : (pool.finish other).task? number =
    if number = other then none else pool.task? number := by
  show (pool.tasks.filter (·.1 != other)).lookup number = _
  by_cases own : number = other
  · subst own
    rw [if_pos rfl]
    refine List.lookup_eq_none_iff.mpr fun entry member => ?_
    have kept := (List.mem_filter.mp member).2
    exact bne_iff_ne.mpr (bne_iff_ne.mp kept).symm
  · rw [if_neg own]
    show _ = pool.tasks.lookup number
    induction pool.tasks with
    | nil => rfl
    | cons entry rest ih =>
      obtain ⟨first, earlier⟩ := entry
      by_cases gone : first = other
      · subst gone
        simp [List.lookup_cons, beq_false_of_ne own, ih]
      · simp [List.lookup_cons, gone, ih]

theorem finish_update (other : α) : (pool.update number other).finish number = pool.finish number := by
  have tasks : (pool.tasks.map (replace number other)).filter (·.1 != number) =
      pool.tasks.filter (·.1 != number) := by
    induction pool.tasks with
    | nil => rfl
    | cons entry rest ih =>
      by_cases own : entry.1 = number
      · simp [replace, own, ih]
      · simp [replace, own, ih]
  simp only [finish, update, tasks]

theorem update_update (first second : α) :
    (pool.update number first).update number second = pool.update number second := by
  have tasks : (pool.tasks.map (replace number first)).map (replace number second) =
      pool.tasks.map (replace number second) := by
    rw [List.map_map]
    apply List.map_congr_left
    intro entry _
    by_cases own : entry.1 = number
    · simp [replace, own]
    · simp [replace, own]
  simp only [update, tasks]

theorem mem_accept {entry : Nat × α} :
    entry ∈ (pool.accept task).tasks ↔ entry ∈ pool.tasks ∨ entry = (pool.accepted, task) := by
  simp [accept]

theorem mem_update {other : α} {entry : Nat × α} (member : entry ∈ (pool.update number other).tasks) :
    entry = (number, other) ∨ entry ∈ pool.tasks := by
  obtain ⟨⟨own, earlier⟩, there, rfl⟩ := List.mem_map.mp member
  by_cases same : own = number
  · subst same
    left
    simp [replace]
  · right
    simpa [replace, same] using there

theorem mem_finish {entry : Nat × α} (member : entry ∈ (pool.finish number).tasks) :
    entry ∈ pool.tasks := (List.mem_filter.mp member).1

/-- The labels of all tasks that were ever accepted, newest first. -/
structure Ledger (pool : Pool α) (label : α → β) (entries : List β) : Prop where
  length : entries.length = pool.accepted
  entry : ∀ task ∈ pool.tasks, entries.reverse[task.1]? = some (label task.2)

variable {label : α → β} {entries : List β}

theorem ledger_empty : (empty : Pool α).Ledger label [] :=
  ⟨rfl, fun _ member => absurd member List.not_mem_nil⟩

theorem Ledger.accept (kept : pool.Ledger label entries) (task : α) :
    (pool.accept task).Ledger label (label task :: entries) := by
  refine ⟨congrArg (· + 1) kept.length, ?_⟩
  intro entry member
  rw [List.reverse_cons]
  rcases mem_accept.mp member with earlier | rfl
  · have below : entry.1 < entries.reverse.length := by
      rw [List.length_reverse, kept.length]
      exact pool.below entry earlier
    rw [List.getElem?_append_left below]
    exact kept.entry entry earlier
  · have last : pool.accepted = entries.reverse.length := by rw [List.length_reverse, kept.length]
    rw [last]
    exact List.getElem?_concat_length

theorem Ledger.update (kept : pool.Ledger label entries) (found : pool.task? number = some task)
    {other : α} (same : label other = label task) : (pool.update number other).Ledger label entries := by
  refine ⟨kept.length, ?_⟩
  intro entry member
  rcases mem_update member with rfl | earlier
  · rw [same]
    exact kept.entry (number, task) (mem_of_task? found)
  · exact kept.entry entry earlier

theorem Ledger.finish (kept : pool.Ledger label entries) (number : Nat) :
    (pool.finish number).Ledger label entries :=
  ⟨kept.length, fun entry member => kept.entry entry (mem_finish member)⟩

end Pool

end ContainerWarden

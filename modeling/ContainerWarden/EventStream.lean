import ContainerWarden.Record.Event

namespace ContainerWarden

structure EventStream where
  feed : List (Outcome Json)
  closes : Option Nat := some 0

namespace EventStream

def pull : List (Outcome Json) → Option (Outcome LifecycleEvent) × List (Outcome Json)
  | [] => (none, [])
  | .error fault :: rest => (some (.error fault), rest)
  | .ok report :: rest =>
    match LifecycleEvent.ofJson report with
    | .error fault => (some (.error fault), rest)
    | .ok (some event) => (some (.ok event), rest)
    | .ok none => pull rest

def readAll : List (Outcome Json) → List LifecycleEvent × Outcome Unit
  | [] => ([], .ok ())
  | .error fault :: _ => ([], .error fault)
  | .ok report :: rest =>
    match LifecycleEvent.ofJson report with
    | .error fault => ([], .error fault)
    | .ok none => readAll rest
    | .ok (some event) =>
      let (events, finish) := readAll rest
      (event :: events, finish)

theorem readAll_pull (feed : List (Outcome Json)) :
    (readAll feed).1 =
      match pull feed with
      | (some (.ok event), rest) => event :: (readAll rest).1
      | _ => [] := by
  induction feed with
  | nil => rfl
  | cons report rest ih =>
    cases report with
    | error fault => rfl
    | ok report =>
      simp only [readAll, pull]
      cases LifecycleEvent.ofJson report with
      | error fault => rfl
      | ok event =>
        cases event with
        | none => exact ih
        | some event => rfl

variable {feed rest : List (Outcome Json)}

theorem readAll_of_pull_event {event : LifecycleEvent} (news : pull feed = (some (.ok event), rest)) :
    (readAll feed).1 = event :: (readAll rest).1 := by
  rw [readAll_pull, news]

theorem readAll_of_pull_fault {fault : Fault} (failed : pull feed = (some (.error fault), rest)) :
    (readAll feed).1 = [] := by
  rw [readAll_pull, failed]

theorem readAll_of_pull_none (empty : pull feed = (none, rest)) : (readAll feed).1 = [] := by
  rw [readAll_pull, empty]

def close (stream : EventStream) : EventStream :=
  { stream with closes := stream.closes.map (· + 1) }

end EventStream

end ContainerWarden

import ContainerWarden.Duplicate
import Mathlib.Data.List.Basic
import Mathlib.Data.List.Forall2
import Mathlib.Data.List.Nodup

namespace ContainerWarden.Duplicate

structure Container where
  id : String
  labels : Labels
  running : Bool

def Shown (summary : ContainerSummary) (container : Container) : Prop :=
  summary.id = .str container.id ∧ summary.running = container.running ∧
    summary.labels = container.labels

def isInstance (settings : Settings) (service : String) (running : Bool) (labels : Labels) : Bool :=
  running && (labels.get? settings.uuidLabel).any Json.isPresent &&
    labels.holds settings.serviceNameLabel service

def Container.serves (settings : Settings) (service : String) (container : Container) : Bool :=
  isInstance settings service container.running container.labels

def instances (settings : Settings) (service : String) (fleet : List Container) : List Container :=
  fleet.filter (·.serves settings service)

def newest (settings : Settings) (service : String) (fleet : List Container) : Option Container :=
  fleet.find? (·.serves settings service)

def surplus (settings : Settings) (service : String) (fleet : List Container) : Option Container :=
  if 1 < (instances settings service fleet).length then (instances settings service fleet).getLast?
  else none

theorem holds_unique {labels : Labels} {key value other : String}
    (first : labels.holds key value = true) (second : labels.holds key other = true) :
    value = other := by
  rw [Labels.holds_iff] at first second
  rw [first] at second
  cases second
  rfl

theorem Container.serves_unique {settings : Settings} {service other : String}
    {container : Container} (first : container.serves settings service = true)
    (second : container.serves settings other = true) : service = other := by
  simp only [serves, isInstance, Bool.and_eq_true] at first second
  exact holds_unique first.2 second.2

theorem serviceOf?_eq_some {settings : Settings} {summary : ContainerSummary} {service : String} :
    serviceOf? settings summary = some service ↔ service ∈ settings.singletonServices ∧
      isInstance settings service summary.running summary.labels = true := by
  unfold serviceOf? isInstance
  cases present : summary.running && (summary.labels.get? settings.uuidLabel).any Json.isPresent with
  | false => simp
  | true =>
    simp only [if_true, Bool.true_and]
    constructor
    · intro found
      exact ⟨List.mem_of_find?_eq_some found, List.find?_some found⟩
    · intro ⟨member, holds⟩
      cases found : settings.singletonServices.find?
          (summary.labels.holds settings.serviceNameLabel ·) with
      | none => exact absurd holds (List.find?_eq_none.mp found service member)
      | some other => rw [holds_unique holds (List.find?_some found)]

theorem Groups.ids_cons (own other : String) (found : List Json) (groups : Groups) :
    Groups.ids ((own, found) :: groups) other = if other = own then found else groups.ids other := by
  by_cases same : other = own
  · simp [ids, same]
  · have differs : (other == own) = false := beq_false_of_ne same
    simp [ids, List.lookup_cons, differs, same]

theorem Groups.ids_add (groups : Groups) (service other : String) (id : Json) :
    (groups.add service id).ids other =
      if other = service then groups.ids other ++ [id] else groups.ids other := by
  induction groups with
  | nil =>
    rw [add, ids_cons]
    simp [ids]
  | cons entry groups ih =>
    obtain ⟨own, found⟩ := entry
    by_cases first : own = service
    · subst first
      by_cases same : other = own
      · simp [add, ids_cons, same]
      · simp [add, ids_cons, same]
    · have differs : (own == service) = false := beq_false_of_ne first
      simp only [add, differs, Bool.false_eq_true, if_false, ids_cons, ih]
      by_cases same : other = own
      · subst same
        simp [first]
      · simp [same]

theorem Groups.ids_collect {settings : Settings} {service : String}
    (singleton : service ∈ settings.singletonServices) (groups : Groups)
    (summary : ContainerSummary) : (groups.collect settings summary).ids service =
      if isInstance settings service summary.running summary.labels = true then
        groups.ids service ++ [summary.id]
      else groups.ids service := by
  unfold collect
  by_cases own : isInstance settings service summary.running summary.labels = true
  · rw [serviceOf?_eq_some.mpr ⟨singleton, own⟩, if_pos own]
    simp [ids_add]
  · rw [if_neg own]
    cases found : serviceOf? settings summary with
    | none => rfl
    | some other =>
      have different : service ≠ other := by
        intro same
        subst same
        exact own (serviceOf?_eq_some.mp found).2
      simp [ids_add, different]

def serving (settings : Settings) (service : String) (listing : List ContainerSummary) : List Json :=
  (listing.filter fun container =>
    isInstance settings service container.running container.labels).map (·.id)

def oldest? (settings : Settings) (service : String) (listing : List ContainerSummary) : Option Json :=
  if 1 < (serving settings service listing).length then (serving settings service listing).getLast?
  else none

theorem ids_group {settings : Settings} {service : String}
    (singleton : service ∈ settings.singletonServices) (listing : List ContainerSummary) :
    (group settings listing).ids service = serving settings service listing := by
  have folded (groups : Groups) : (listing.foldl (Groups.collect settings) groups).ids service =
      groups.ids service ++ serving settings service listing := by
    unfold serving
    induction listing generalizing groups with
    | nil => simp
    | cons container listing ih =>
      rw [List.foldl_cons, ih, Groups.ids_collect singleton, List.filter_cons]
      split
      · simp
      · rfl
  exact folded []

theorem select_eq_filterMap (settings : Settings) (listing : List ContainerSummary) :
    select settings listing = settings.singletonServices.filterMap (oldest? settings · listing) := by
  unfold select
  apply List.filterMap_congr
  intro service singleton
  rw [ids_group singleton]
  rfl

theorem serving_of_shown {settings : Settings} {service : String} {summaries : List ContainerSummary}
    {fleet : List Container} (shown : List.Forall₂ Shown summaries fleet) :
    serving settings service summaries =
      (instances settings service fleet).map fun container => Json.str container.id := by
  unfold serving instances
  induction shown with
  | nil => rfl
  | @cons summary container summaries fleet first others ih =>
    obtain ⟨same, running, labels⟩ := first
    simp only [List.filter_cons, running, labels]
    change _ = List.map _ (if isInstance settings service container.running container.labels = true
      then _ else _)
    split
    · rw [List.map_cons, List.map_cons, same, ih]
    · exact ih

/-- The selection is one instance at most of each service, whatever the listing looks like. -/
theorem select_of_shown {settings : Settings} {summaries : List ContainerSummary}
    {fleet : List Container} (shown : List.Forall₂ Shown summaries fleet) :
    select settings summaries = settings.singletonServices.filterMap fun service =>
      (surplus settings service fleet).map fun container => .str container.id := by
  rw [select_eq_filterMap]
  apply List.filterMap_congr
  intro service _
  simp only [oldest?, serving_of_shown shown, List.length_map, List.getLast?_map, surplus]
  split
  · rfl
  · rfl

theorem mem_select {settings : Settings} {summaries : List ContainerSummary}
    {fleet : List Container} (shown : List.Forall₂ Shown summaries fleet) {id : Json} :
    id ∈ select settings summaries ↔ ∃ service ∈ settings.singletonServices, ∃ container,
      surplus settings service fleet = some container ∧ id = .str container.id := by
  rw [select_of_shown shown, List.mem_filterMap]
  simp only [Option.map_eq_some_iff, eq_comm (a := id)]

theorem mem_instances {settings : Settings} {service : String} {fleet : List Container}
    {container : Container} : container ∈ instances settings service fleet ↔
      container ∈ fleet ∧ container.serves settings service = true := List.mem_filter

theorem surplus_eq_some {settings : Settings} {service : String} {fleet : List Container}
    {last : Container} (found : surplus settings service fleet = some last) :
    ∃ first others, instances settings service fleet = first :: others ++ [last] := by
  unfold surplus at found
  split at found
  · rename_i several
    obtain ⟨before, whole⟩ := List.getLast?_eq_some_iff.mp found
    cases before with
    | nil =>
      rw [whole] at several
      exact absurd several (by simp)
    | cons first others => exact ⟨first, others, whole⟩
  · cases found

theorem mem_of_surplus {settings : Settings} {service : String} {fleet : List Container}
    {last : Container} (found : surplus settings service fleet = some last) :
    last ∈ instances settings service fleet := by
  obtain ⟨first, others, whole⟩ := surplus_eq_some found
  rw [whole]
  simp

theorem newest_eq_head? (settings : Settings) (service : String) (fleet : List Container) :
    newest settings service fleet = (instances settings service fleet).head? :=
  (List.head?_filter ..).symm

theorem instances_nodup {fleet : List Container} (distinct : (fleet.map (·.id)).Nodup)
    (settings : Settings) (service : String) :
    ((instances settings service fleet).map (·.id)).Nodup :=
  distinct.sublist (List.filter_sublist.map _)

theorem surplus_ne_newest {settings : Settings} {service : String} {fleet : List Container}
    (distinct : (fleet.map (·.id)).Nodup) {first last : Container}
    (found : surplus settings service fleet = some last)
    (latest : newest settings service fleet = some first) : first.id ≠ last.id := by
  obtain ⟨head, others, whole⟩ := surplus_eq_some found
  have apart := instances_nodup distinct settings service
  rw [newest_eq_head?, whole] at latest
  cases latest
  rw [whole] at apart
  simp only [List.cons_append, List.map_cons, List.map_append, List.nodup_cons] at apart
  intro same
  apply apart.1
  simp [same]

end ContainerWarden.Duplicate

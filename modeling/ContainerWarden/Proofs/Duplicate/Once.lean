import ContainerWarden.Proofs.Duplicate.Calls

namespace ContainerWarden.Duplicate

variable {settings : Settings} {service : String} {listing : List ContainerSummary}

theorem mem_serving {id : Json} : id ∈ serving settings service listing ↔
    ∃ container ∈ listing, isInstance settings service container.running container.labels = true ∧
      container.id = id := by
  simp only [serving, List.mem_map, List.mem_filter, and_assoc]

theorem mem_serving_of_oldest? {id : Json} (found : oldest? settings service listing = some id) :
    id ∈ serving settings service listing := by
  unfold oldest? at found
  split at found
  · exact List.mem_of_getLast? found
  · cases found

theorem oldest?_isSome : (oldest? settings service listing).isSome ↔
    1 < (serving settings service listing).length := by
  unfold oldest?
  split
  · rename_i several
    have shown : serving settings service listing ≠ [] := by
      intro empty
      simp [empty] at several
    simp [List.getLast?_eq_some_getLast shown, several]
  · rename_i few
    simp [few]

/-- A container is an instance of one service only. -/
theorem service_of_serving {other : String} {id : Json} (distinct : (listing.map (·.id)).Nodup)
    (first : id ∈ serving settings service listing) (second : id ∈ serving settings other listing) :
    service = other := by
  obtain ⟨one, here, serves, rfl⟩ := mem_serving.mp first
  obtain ⟨same, there, also, equal⟩ := mem_serving.mp second
  obtain rfl := List.inj_on_of_nodup_map distinct there here equal
  simp only [isInstance, Bool.and_eq_true] at serves also
  exact holds_unique serves.2 also.2

def IsDoubled (settings : Settings) (listing : List ContainerSummary) : Prop :=
  settings.metadataService = settings.dnsService ∧
    1 < (serving settings settings.metadataService listing).length

theorem due_of_isDoubled (doubled : IsDoubled settings listing) : ∃ id, due settings listing = [id, id] := by
  obtain ⟨id, found⟩ := Option.isSome_iff_exists.mp (oldest?_isSome.mpr doubled.2)
  refine ⟨id, ?_⟩
  unfold due
  rw [← doubled.1, found]
  rfl

theorem due_nodup_iff (distinct : (listing.map (·.id)).Nodup) :
    (due settings listing).Nodup ↔ ¬ IsDoubled settings listing := by
  constructor
  · intro apart doubled
    obtain ⟨id, twice⟩ := due_of_isDoubled doubled
    simp [twice] at apart
  · intro single
    unfold due
    cases first : oldest? settings settings.metadataService listing with
    | none => cases oldest? settings settings.dnsService listing <;> simp
    | some id =>
      cases second : oldest? settings settings.dnsService listing with
      | none => simp
      | some other =>
        have several := oldest?_isSome.mp (Option.isSome_of_eq_some first)
        have apart : id ≠ other := by
          rintro rfl
          exact single ⟨service_of_serving distinct (mem_serving_of_oldest? first)
            (mem_serving_of_oldest? second), several⟩
        simpa using apart

structure StopsOnce (settings : Settings) (listing : List ContainerSummary) (trace : List Exchange)
    (outcome : Outcome (List Json)) : Prop where
  returned : ∀ ids, outcome = .ok ids → (ids.Nodup ↔ ¬ IsDoubled settings listing)
  single : ¬ IsDoubled settings listing →
    ∃ made, made.Nodup ∧ Issues made trace ∧ (stopped trace).Nodup
  doubled : IsDoubled settings listing → (∀ exchange ∈ trace, isOrderly exchange = true) →
    ∃ id, Issues [id, id] trace ∧ outcome = .ok [id, id]

/-- A pass stops a container at most once, unless both services go by one name. -/
theorem stopped_once {records : List Json} {trace : List Exchange} {outcome : Outcome (List Json)}
    (read : records.mapM ContainerSummary.ofJson = .ok listing)
    (run : (pass settings).Runs (⟨.list true, .ok records⟩ :: trace) outcome)
    (distinct : (listing.map (·.id)).Nodup) : StopsOnce settings listing trace outcome := by
  obtain ⟨made, begins, issues, all⟩ := issued_of_pass read run
  constructor
  case returned =>
    intro ids reached
    rw [(all ids reached).1]
    exact due_nodup_iff distinct
  case single =>
    intro single
    have apart := ((due_nodup_iff distinct).mpr single).sublist begins.sublist
    exact ⟨made, apart, issues, apart.sublist issues.successes⟩
  case doubled =>
    intro doubled orderly
    obtain ⟨id, twice⟩ := due_of_isDoubled doubled
    obtain ⟨_, _, _, _, _, reached⟩ := settled_of_pass read run orderly
    obtain ⟨-, rfl⟩ := all _ reached
    rw [twice] at issues reached
    exact ⟨id, issues, reached⟩

theorem stopped_once_of_mixed :
    ∃ listing, mixedRecords.mapM ContainerSummary.ofJson = .ok listing ∧
      (listing.map (·.id)).Nodup ∧ ¬ IsDoubled {} listing ∧
      StopsOnce {} listing mixedTrace (.ok [.str "m2", .str "n2"]) := by
  have read : ∃ listing, mixedRecords.mapM ContainerSummary.ofJson = .ok listing ∧
      listing.map (·.id) = ["m1", "n1", "w", "m2", "n2"].map Json.str := ⟨_, rfl, rfl⟩
  obtain ⟨listing, read, ids⟩ := read
  have distinct : (listing.map (·.id)).Nodup := by
    rw [ids]
    simp
  have single : ¬ IsDoubled {} listing := fun doubled => absurd doubled.1 (by decide)
  exact ⟨listing, read, distinct, single, stopped_once read runs_mixed distinct⟩

/-- Under one name for both services, the same container is stopped twice and counted twice. -/
theorem one_name_stops_twice :
    let settings : Settings := { dnsService := "network-services/metadata" }
    ∃ listing, doubledService.containers.mapM ContainerSummary.ofJson = .ok listing ∧
      listing.map (·.id) = [.str "new", .str "old"] ∧
      ((pass settings).run World.answer doubledService).1 = .ok [.str "old", .str "old"] ∧
      (runtimeCalls ((pass settings).history World.answer doubledService)).map (·.1) =
        [.list true, .stop (.str "old") 0, .stop (.str "old") 0] ∧
      counted .duplicatesStopped ((pass settings).history World.answer doubledService) = 2 :=
  ⟨_, rfl, rfl, rfl, rfl, rfl⟩

end ContainerWarden.Duplicate

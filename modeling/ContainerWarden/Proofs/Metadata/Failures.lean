import ContainerWarden.Proofs.Metadata.Answers

namespace ContainerWarden

def Outcome.Fails (kind : Fault → Prop) (outcome : Outcome α) : Prop :=
  ∀ fault, outcome = .error fault → kind fault

namespace Outcome.Fails

variable {kind : Fault → Prop}

theorem ok (a : α) : Fails kind (.ok a) := by
  intro fault impossible
  cases impossible

theorem error_iff {fault : Fault} : Fails kind (.error fault : Outcome α) ↔ kind fault := by
  constructor
  · intro fails
    exact fails fault rfl
  · intro known other same
    cases same
    exact known

theorem bind {outcome : Outcome α} {f : α → Outcome β} (first : Fails kind outcome)
    (rest : ∀ a, outcome = .ok a → Fails kind (f a)) : Fails kind (outcome.bind f) := by
  cases outcome with
  | error fault => exact error_iff.mpr (first fault rfl)
  | ok a => exact rest a rfl

theorem mapError {reached : Except ε α} {f : ε → Fault} (known : ∀ reason, kind (f reason)) :
    Fails kind (reached.mapError f) := by
  cases reached with
  | error reason => exact error_iff.mpr (known reason)
  | ok a => exact ok a

end Outcome.Fails

namespace Metadata

open Outcome (Fails)

def FailsKnown (outcome : Outcome α) : Prop := Fails (·.isMetadata = true) outcome

def isTooDeep : Except Json.Malformed Json → Bool
  | .error (.tooDeep _) => true
  | _ => false

def leadsOn (address : Address) (response : HttpResponse) : Bool :=
  match checkRedirection address response with
  | .ok () => true
  | .error fault => fault.isMetadata

/-- Answers to a request: a failure of the service, or a page of any status with any octets, which
    the decoder either reads or finds malformed. -/
def isTransported : Exchange → Bool
  | ⟨.fetch _, .error fault⟩ => fault.isMetadata
  | ⟨.fetch request, .ok response⟩ => leadsOn request.address response && !isTooDeep response.document
  | _ => true

theorem leadsOn_iff {address : Address} {response : HttpResponse} :
    leadsOn address response = true ↔ FailsKnown (checkRedirection address response) := by
  unfold leadsOn
  split
  · rename_i checked
    rw [checked]
    exact iff_of_true rfl (.ok ())
  · rename_i checked
    rw [checked, FailsKnown, Fails.error_iff]

theorem isTransported_page {request : HttpRequest} {response : HttpResponse} :
    isTransported ⟨.fetch request, .ok response⟩ = true ↔
      FailsKnown (checkRedirection request.address response) ∧
        ∀ container, response.document ≠ .error (.tooDeep container) := by
  simp only [isTransported, Bool.and_eq_true, Bool.not_eq_true', leadsOn_iff]
  refine and_congr_right fun _ => ?_
  unfold isTooDeep
  split
  · simp [*]
  · simpa using ‹_›

def Misread : Exchange → Prop
  | ⟨.fetch _, .ok response⟩ =>
    response.isSuccess = true ∧ ∃ items, response.document = .ok (.arr items) ∧
      ∃ item ∈ items, item.isObject = true ∧ ¬ Labels.IsReadable (Record.valueOf item "labels")
  | _ => False

section Requests

variable (settings : Settings) (path : String)

theorem address_fails (fields : List (String × String)) :
    Fails (·.isMetadata = false) (address settings path fields) := by
  have known : ∀ reason, (Fault.invalidAddress reason).isMetadata = false := fun _ => rfl
  have base : Fails (·.isMetadata = false) (service settings) := .mapError known
  refine base.bind fun base _ => ?_
  have place : Fails (·.isMetadata = false) ((base.below path).mapError .invalidAddress) :=
    .mapError known
  refine place.bind fun place _ => ?_
  split
  · exact .ok place
  · split
    · exact Fails.error_iff.mpr rfl
    · exact .mapError known

theorem plainRequest_fails : Fails (·.isMetadata = false) (plainRequest settings path) :=
  (address_fails settings path []).bind fun _ _ => .ok _

theorem versionRequest_fails (current : String) (maxWait : Int) :
    Fails (·.isMetadata = false) (versionRequest settings current maxWait) := by
  unfold versionRequest
  refine Fails.bind ?_ fun wait _ => (address_fails settings _ _).bind fun _ _ => .ok _
  cases Number.finiteOfInt? maxWait with
  | none => exact Fails.error_iff.mpr rfl
  | some wait => exact .ok wait

end Requests

section Readers

variable (path : String) (request : HttpRequest) {response : HttpResponse}

theorem documentIn_eq_ok {value : Json} (read : documentIn path request response = .ok value) :
    response.isSuccess = true ∧ response.document = .ok value := by
  unfold documentIn at read
  cases checked : checkRedirection request.address response with
  | error fault =>
    rw [checked] at read
    cases read
  | ok _ =>
    rw [checked] at read
    cases success : response.isSuccess with
    | false =>
      rw [success] at read
      cases read
    | true =>
      rw [success] at read
      refine ⟨rfl, ?_⟩
      change contents path response = .ok value at read
      unfold contents at read
      split at read
      · cases read
        assumption
      · cases read
      · cases read

variable (led : FailsKnown (checkRedirection request.address response))
  (shallow : ∀ container, response.document ≠ .error (.tooDeep container))

theorem redirection?_of_isSuccess (success : response.isSuccess = true) : response.redirection? = none := by
  simp only [HttpResponse.isSuccess, Bool.and_eq_true, decide_eq_true_eq] at success
  have other : HttpResponse.redirects.contains response.code = false := by
    simp only [HttpResponse.redirects, List.contains_cons, List.contains_nil, Bool.or_false, Bool.or_eq_false_iff,
      beq_eq_false_iff_ne]
    omega
  rw [HttpResponse.redirection?, other]
  cases response.location <;> rfl

theorem documentIn_of_document {value : Json} (success : response.isSuccess = true)
    (document : response.document = .ok value) : documentIn path request response = .ok value := by
  unfold documentIn checkRedirection
  rw [redirection?_of_isSuccess success, success]
  show contents path response = .ok value
  rw [contents, document]

include led shallow in
theorem documentIn_failsKnown : FailsKnown (documentIn path request response) := by
  refine led.bind fun _ _ => ?_
  cases success : response.isSuccess with
  | false => exact Fails.error_iff.mpr rfl
  | true =>
    show FailsKnown (contents path response)
    unfold contents
    split
    · exact .ok _
    · rename_i container deep
      exact absurd deep (shallow container)
    · exact Fails.error_iff.mpr rfl

end Readers

theorem hostIn_failsKnown (value : Json) : FailsKnown (hostIn value) := by
  unfold hostIn
  split
  · rename_i object
    rw [HostIdentity.ofJson, Record.text_of_isObject object]
    exact .ok _
  · exact Fails.error_iff.mpr rfl

theorem kind_of_recordsIn {items : List Json} {fault : Fault}
    (unread : recordsIn (.arr items) = .error fault) :
    fault.kind = .typeError ∨ fault.kind = .valueError := by
  obtain ⟨item, member, failed⟩ := Outcome.error_of_mapM unread
  rw [DesiredContainer.ofJson_of_isObject (List.mem_filter.mp member).2] at failed
  cases labels : Labels.ofJson (Record.valueOf item "labels") with
  | ok read =>
    rw [labels] at failed
    cases failed
  | error other =>
    rw [labels] at failed
    cases failed
    exact Labels.kind_of_ofJson labels

theorem recordsIn_isOk_iff {items : List Json} : (∃ records, recordsIn (.arr items) = .ok records) ↔
    ∀ item ∈ items, item.isObject = true → Labels.IsReadable (Record.valueOf item "labels") := by
  simp only [recordsIn, Outcome.mapM_isOk_iff, List.mem_filter, and_imp]
  refine forall₃_congr fun item _ object => ?_
  rw [DesiredContainer.ofJson_of_isObject object, ← Labels.ofJson_isOk_iff]
  cases Labels.ofJson (Record.valueOf item "labels") <;> simp [Except.map]

theorem unknown_of_kind {fault : Fault} (kind : fault.kind = .typeError ∨ fault.kind = .valueError) :
    fault.isMetadata = false := by
  unfold Fault.isMetadata
  rcases kind with same | same <;> rw [same] <;> rfl

theorem recordsIn_failsKnown_iff {value : Json} : FailsKnown (recordsIn value) ↔
    ∀ items, value = .arr items →
      ∀ item ∈ items, item.isObject = true → Labels.IsReadable (Record.valueOf item "labels") := by
  cases value
  case arr items =>
    simp only [Json.arr.injEq, forall_eq', ← recordsIn_isOk_iff]
    cases read : recordsIn (.arr items) with
    | ok records => simp [FailsKnown, Fails.ok]
    | error fault =>
      have unknown := unknown_of_kind (kind_of_recordsIn read)
      simp [FailsKnown, Fails.error_iff, unknown]
  all_goals simp [recordsIn, FailsKnown, Fails.error_iff, Fault.isMetadata, Fault.kind,
    FaultKind.isMetadata]

section Inquiries

variable {settings : Settings} {trace : List Exchange}

theorem inquiry_failsKnown_iff {request : Outcome HttpRequest}
    {read : HttpRequest → HttpResponse → Outcome α} {outcome : Outcome α}
    (unsent : Fails (·.isMetadata = false) request)
    (run : (Job.inquiry request read).Runs trace outcome)
    (transported : ∀ exchange ∈ trace, isTransported exchange = true) :
    FailsKnown outcome ↔ (∃ asked, request = .ok asked) ∧
      ∀ asked response, ⟨.fetch asked, .ok response⟩ ∈ trace → FailsKnown (read asked response) := by
  rcases Job.inquiry_exchanges run with ⟨asked, reply, same, split, ended⟩ | ⟨fault, failed, _, ended⟩
  · subst same split ended
    cases reply with
    | error fault =>
      have known : fault.isMetadata = true := transported _ (List.mem_singleton_self _)
      simp [Except.bind, FailsKnown, Fails.error_iff, known]
    | ok response => simp [Except.bind]
  · subst failed ended
    have unknown := unsent fault rfl
    simp [FailsKnown, Fails.error_iff, unknown]

theorem selfHost_failsKnown_iff {outcome : Outcome HostIdentity}
    (run : (selfHost settings).Runs trace outcome)
    (transported : ∀ exchange ∈ trace, isTransported exchange = true) :
    FailsKnown outcome ↔ ∃ asked, plainRequest settings "/self/host" = .ok asked := by
  rw [selfHost_eq] at run
  rw [inquiry_failsKnown_iff (plainRequest_fails settings _) run transported, and_iff_left]
  intro asked response member
  obtain ⟨led, shallow⟩ := isTransported_page.mp (transported _ member)
  exact (documentIn_failsKnown _ asked led shallow).bind fun value _ => hostIn_failsKnown value

theorem version_failsKnown_iff {current : String} {maxWait : Int} {outcome : Outcome String}
    (run : (version settings current maxWait).Runs trace outcome)
    (transported : ∀ exchange ∈ trace, isTransported exchange = true) :
    FailsKnown outcome ↔ ∃ asked, versionRequest settings current maxWait = .ok asked := by
  rw [version_eq] at run
  rw [inquiry_failsKnown_iff (versionRequest_fails settings _ _) run transported, and_iff_left]
  intro asked response member
  obtain ⟨led, shallow⟩ := isTransported_page.mp (transported _ member)
  exact (documentIn_failsKnown _ asked led shallow).bind fun value _ => .ok _

theorem listing_failsKnown_iff {path : String} {request : HttpRequest} {response : HttpResponse}
    (transported : isTransported ⟨.fetch request, .ok response⟩ = true) :
    FailsKnown ((documentIn path request response).bind recordsIn) ↔
      ¬ Misread ⟨.fetch request, .ok response⟩ := by
  obtain ⟨led, shallow⟩ := isTransported_page.mp transported
  constructor
  · intro reported
    rintro ⟨success, items, document, item, member, object, unreadable⟩
    rw [documentIn_of_document path request success document] at reported
    change FailsKnown (recordsIn (.arr items)) at reported
    exact unreadable (recordsIn_failsKnown_iff.mp reported items rfl item member object)
  · intro legible
    refine (documentIn_failsKnown path request led shallow).bind fun value read => ?_
    obtain ⟨success, document⟩ := documentIn_eq_ok path request read
    refine recordsIn_failsKnown_iff.mpr fun items listed item member object => ?_
    subst listed
    refine Classical.byContradiction fun unreadable => ?_
    exact legible ⟨success, items, document, item, member, object, unreadable⟩

theorem misread_iff {exchange : Exchange} : Misread exchange ↔
    ∃ request response, exchange = ⟨.fetch request, .ok response⟩ ∧
      Misread ⟨.fetch request, .ok response⟩ := by
  constructor
  · intro misread
    unfold Misread at misread
    split at misread
    · exact ⟨_, _, rfl, misread⟩
    · exact misread.elim
  · rintro ⟨request, response, rfl, misread⟩
    exact misread

theorem containers_failsKnown_iff {outcome : Outcome (List DesiredContainer)}
    (run : (containers settings).Runs trace outcome)
    (transported : ∀ exchange ∈ trace, isTransported exchange = true) :
    FailsKnown outcome ↔ (∃ asked, plainRequest settings "/containers" = .ok asked) ∧
      ∀ exchange ∈ trace, ¬ Misread exchange := by
  rw [containers_eq] at run
  rw [inquiry_failsKnown_iff (plainRequest_fails settings _) run transported]
  refine and_congr_right fun _ => ⟨?_, ?_⟩
  · intro reported exchange member misread
    obtain ⟨asked, response, rfl, misread⟩ := misread_iff.mp misread
    exact (listing_failsKnown_iff (transported _ member)).mp (reported asked response member) misread
  · intro legible asked response member
    exact (listing_failsKnown_iff (transported _ member)).mpr (legible _ member)

end Inquiries

end Metadata

end ContainerWarden

import ContainerWarden.Metadata
import ContainerWarden.Proofs.Metadata.Records
import ContainerWarden.Proofs.Plan.Trace

namespace ContainerWarden

def Job.inquiry (request : Outcome HttpRequest) (read : HttpRequest → HttpResponse → Outcome α) :
    Job α := do
  let asked ← Job.ofExcept request
  let response ← Job.fetch asked
  Job.ofExcept (read asked response)

theorem Job.inquiry_exchanges {request : Outcome HttpRequest}
    {read : HttpRequest → HttpResponse → Outcome α} {trace : List Exchange} {outcome : Outcome α}
    (run : (inquiry request read).Runs trace outcome) :
    (∃ asked reply, request = .ok asked ∧ trace = [⟨.fetch asked, reply⟩] ∧
      outcome = reply.bind (read asked)) ∨
    ∃ fault, request = .error fault ∧ trace = [] ∧ outcome = .error fault := by
  cases request with
  | error fault =>
    obtain ⟨empty, failed⟩ := runs_throw.mp run
    exact .inr ⟨fault, rfl, empty, failed⟩
  | ok asked =>
    have asking : (do let response ← fetch asked; ofExcept (read asked response)).Runs trace outcome :=
      run
    rcases call_then runs_fetch.mp asking with ⟨response, later, split, rest⟩ | ⟨fault, split, failed⟩
    · obtain ⟨empty, same⟩ := runs_ofExcept.mp rest
      exact .inl ⟨asked, .ok response, rfl, by rw [split, empty], same⟩
    · exact .inl ⟨asked, .error fault, rfl, split, failed⟩

namespace Metadata

def documentIn (path : String) (request : HttpRequest) (response : HttpResponse) : Outcome Json := do
  checkRedirection request.address response
  if !response.isSuccess then throw (.badStatus (response.failureText request.address.text))
  contents path response

theorem document_eq (path : String) (request : HttpRequest) : document path request =
    Job.fetch request >>= fun response => Job.ofExcept (documentIn path request response) := by
  unfold document documentIn
  congr 1
  funext response
  cases checkRedirection request.address response with
  | error fault => rfl
  | ok _ => cases response.isSuccess <;> rfl

theorem document_then (path : String) (request : Outcome HttpRequest) (read : Json → Outcome α) :
    (do
      let asked ← Job.ofExcept request
      let value ← document path asked
      Job.ofExcept (read value)) =
    Job.inquiry request fun asked response => (documentIn path asked response).bind read := by
  unfold Job.inquiry
  congr 1
  funext asked
  rw [document_eq, bind_assoc]
  congr 1
  funext response
  dsimp only
  cases documentIn path asked response <;> rfl

def hostIn (value : Json) : Outcome HostIdentity :=
  if value.isObject then HostIdentity.ofJson value else .error (.unexpectedHost value)

theorem selfHost_eq (settings : Settings) : selfHost settings =
    Job.inquiry (plainRequest settings "/self/host") fun request response =>
      (documentIn "/self/host" request response).bind hostIn := by
  rw [← document_then, selfHost, plainDocument, bind_assoc]
  congr 1
  funext request
  congr 1
  funext value
  unfold hostIn
  split <;> rfl

def recordsIn : Json → Outcome (List DesiredContainer)
  | .arr items => (items.filter Json.isObject).mapM DesiredContainer.ofJson
  | other => .error (.unexpectedContainers other.typeName)

theorem containers_eq (settings : Settings) : containers settings =
    Job.inquiry (plainRequest settings "/containers") fun request response =>
      (documentIn "/containers" request response).bind recordsIn := by
  rw [← document_then, containers, plainDocument, bind_assoc]
  congr 1
  funext request
  congr 1
  funext value
  cases value <;> rfl

theorem version_eq (settings : Settings) (current : String) (maxWait : Int) :
    version settings current maxWait =
      Job.inquiry (versionRequest settings current maxWait) fun request response =>
        (documentIn "/version" request response).bind fun value => .ok value.text := by
  rw [← document_then]
  rfl

end Metadata

end ContainerWarden

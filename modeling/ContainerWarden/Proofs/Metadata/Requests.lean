import ContainerWarden.Proofs.Metadata.Failures
import ContainerWarden.Proofs.Text.Form

namespace ContainerWarden

theorem Text.percentEncoded_kept {keep : Char → Bool} {s : String}
    (kept : ∀ c ∈ s.toList, keep c = true ∧ c ≠ mark) : percentEncoded keep s = s := by
  unfold percentEncoded
  rw [points_of_unmarked fun c member => (kept c member).2]
  have same : (s.toList.map Char.toNat).flatMap (fun point =>
      if keep (Char.ofNat point) then [Char.ofNat point] else percentPoint point) = s.toList := by
    generalize s.toList = cs at kept
    induction cs with
    | nil => rfl
    | cons c rest ih =>
      obtain ⟨first, others⟩ := List.forall_mem_cons.mp kept
      rw [List.map_cons, List.flatMap_cons, ih others, Char.ofNat_toNat, if_pos first.1, List.singleton_append]
  rw [same, String.ofList_toList]

namespace Address

variable {place address : Address} {fields : List (String × String)}

theorem isQueryChar_of_formQuery {c : Char} (member : c ∈ (Text.formQuery fields).toList) :
    isQueryChar c = true ∧ c ≠ Text.mark := by
  have table : ∀ n < 0x80, Text.isFormChar (Char.ofNat n) = true → isQueryChar (Char.ofNat n) = true := by
    decide +kernel
  rcases Text.mem_formQuery member with rfl | rfl | letter
  · decide +kernel
  · decide +kernel
  · have entry := table c.toNat (Text.isFormChar_lt letter)
    rw [Char.ofNat_toNat] at entry
    exact ⟨entry letter, (Text.isFormChar_apart letter).2.2⟩

theorem query_of_ofParts {parts : AddressParts} (made : ofParts parts = .ok address) :
    address.query = parts.query.map (encodedPart isQueryChar) := by
  unfold ofParts at made
  simp only [bind, Except.bind] at made
  split at made
  · cases made
  split at made
  · cases made
  split at made
  · cases made
  split at made
  all_goals
    cases made
    rfl

theorem query_of_withFields (made : place.withFields fields = .ok address) :
    address.query = some (Text.formQuery fields) := by
  unfold withFields rebuilt at made
  dsimp only at made
  split at made
  · cases made
  · rw [query_of_ofParts made]
    show some (Text.percentEncoded isQueryChar (String.ofList (Text.formQuery fields).toList)) = _
    rw [String.ofList_toList, Text.percentEncoded_kept fun c => isQueryChar_of_formQuery]

theorem fields_of_withFields (present : fields ≠ [])
    (unicode : ∀ field ∈ fields, Text.isUnicode field.1 = true ∧ Text.isUnicode field.2 = true)
    (made : place.withFields fields = .ok address) : address.fields = fields.map Text.reread := by
  rw [Address.fields, query_of_withFields made]
  exact Text.formFields_formQuery present unicode

end Address

namespace Metadata

variable {settings : Settings} {current : String} {maxWait : Int} {request : HttpRequest}

def IsPlace (settings : Settings) (current : String) (maxWait : Int) (address : Address) : Prop :=
  ∃ service place, Metadata.service settings = .ok service ∧ service.below "/version" = .ok place ∧
    place.withFields [("wait", "true"), ("value", current), ("maxWait", toString maxWait)] = .ok address

/-- The request goes to the place of the versions, where its fields are read as they were told. -/
structure AsksBeyond (settings : Settings) (current : String) (maxWait : Int) (request : HttpRequest) : Prop where
  place : IsPlace settings current maxWait request.address
  fields : request.address.fields.map (fun (name, value) => (name, Text.points value)) =
    [("wait", Text.points "true"), ("value", Text.points current), ("maxWait", Text.points (toString maxWait))]

structure IsAskable (settings : Settings) (current : String) (maxWait : Int) : Prop where
  place : ∃ address, IsPlace settings current maxWait address
  unicode : ∀ text ∈ [current, toString maxWait], Text.isUnicode text = true
  finite : (Number.finiteOfInt? maxWait).isSome = true

theorem mapError_eq_ok {reached : Except ε α} {f : ε → Fault} {a : α} :
    reached.mapError f = .ok a ↔ reached = .ok a := by
  cases reached with
  | ok b => simp [Except.mapError]
  | error reason => exact ⟨nofun, nofun⟩

theorem asksBeyond_of_versionRequest (made : versionRequest settings current maxWait = .ok request) :
    AsksBeyond settings current maxWait request := by
  obtain ⟨_, _, made⟩ := Outcome.bind_eq_ok.mp made
  obtain ⟨address, addressed, made⟩ := Outcome.bind_eq_ok.mp made
  cases made
  obtain ⟨service, served, addressed⟩ := Outcome.bind_eq_ok.mp addressed
  obtain ⟨place, placed, addressed⟩ := Outcome.bind_eq_ok.mp addressed
  split at addressed
  · rename_i none
    cases none
  split at addressed
  · cases addressed
  rename_i encodable
  have put := mapError_eq_ok.mp addressed
  refine ⟨⟨service, place, served, mapError_eq_ok.mp placed, put⟩, ?_⟩
  have unicode : ∀ field ∈ versionFields current maxWait,
      Text.isUnicode field.1 = true ∧ Text.isUnicode field.2 = true := by
    intro field member
    refine ⟨?_, Text.unencodable?_eq_none.mp (List.findSome?_eq_none_iff.mp encodable field member)⟩
    simp only [versionFields, List.mem_cons, List.not_mem_nil, or_false] at member
    have names : Text.isUnicode "wait" = true ∧ Text.isUnicode "value" = true ∧
        Text.isUnicode "maxWait" = true := by decide +kernel
    rcases member with rfl | rfl | rfl
    · exact names.1
    · exact names.2.1
    · exact names.2.2
  rw [Address.fields_of_withFields (by simp [versionFields]) unicode put]
  simp only [versionFields, List.map_cons, List.map_nil, Text.reread, Text.points_ofPoints_points]
  rfl

theorem versionRequest_of_isAskable (askable : IsAskable settings current maxWait) :
    ∃ request, versionRequest settings current maxWait = .ok request := by
  obtain ⟨address, service, place, served, placed, put⟩ := askable.place
  obtain ⟨wait, finite⟩ := Option.isSome_iff_exists.mp askable.finite
  have encodable : (versionFields current maxWait).findSome? (fun (_, value) => Text.unencodable? value) = none := by
    refine List.findSome?_eq_none_iff.mpr fun field member => Text.unencodable?_eq_none.mpr ?_
    simp only [versionFields, List.mem_cons, List.not_mem_nil, or_false] at member
    rcases member with rfl | rfl | rfl
    · decide +kernel
    · exact askable.unicode _ (by simp)
    · exact askable.unicode _ (by simp)
  have addressed : Metadata.address settings "/version" (versionFields current maxWait) = .ok address := by
    have below : (service.below "/version").mapError Fault.invalidAddress = .ok place := mapError_eq_ok.mpr placed
    refine Outcome.bind_eq_ok.mpr ⟨service, served, Outcome.bind_eq_ok.mpr ⟨place, below, ?_⟩⟩
    rw [if_neg (by simp [versionFields]), encodable]
    exact mapError_eq_ok.mpr put
  refine ⟨⟨address, wait + settings.metadataTimeout⟩, ?_⟩
  unfold versionRequest
  rw [finite, addressed]
  rfl

/-- How the service is asked for another version than the current one: with one request at most, and what
    comes back is the text of the document that a success holds. -/
inductive Asked (settings : Settings) (current : String) (maxWait : Int) : List Exchange → Outcome String → Prop
  | answered {request : HttpRequest} {response : HttpResponse} {document : Json}
      (asks : AsksBeyond settings current maxWait request) (success : response.isSuccess = true)
      (read : response.document = .ok document) :
      Asked settings current maxWait [⟨.fetch request, .ok response⟩] (.ok document.text)
  | failed {request : HttpRequest} {reply : Outcome HttpResponse} {fault : Fault}
      (asks : AsksBeyond settings current maxWait request) (same : ∀ other, reply = .error other → fault = other)
      (unread : ∀ response document, reply = .ok response → response.isSuccess = true →
        response.document ≠ .ok document) :
      Asked settings current maxWait [⟨.fetch request, reply⟩] (.error fault)
  | unsent {fault : Fault} (unaskable : ¬ IsAskable settings current maxWait) :
      Asked settings current maxWait [] (.error fault)

theorem asked_of_version {trace : List Exchange} {outcome : Outcome String}
    (run : (version settings current maxWait).Runs trace outcome) : Asked settings current maxWait trace outcome := by
  rw [version_eq] at run
  rcases Job.inquiry_exchanges run with ⟨request, reply, made, rfl, rfl⟩ | ⟨fault, unmade, rfl, rfl⟩
  · have asks := asksBeyond_of_versionRequest made
    cases reply with
    | error fault => exact .failed asks (fun _ same => Except.error.inj same) nofun
    | ok response =>
      cases reached : documentIn "/version" request response with
      | ok document =>
        obtain ⟨success, read⟩ := documentIn_eq_ok "/version" request reached
        simp only [Except.bind, reached]
        exact .answered asks success read
      | error fault =>
        simp only [Except.bind, reached]
        refine .failed asks nofun fun other document same success read => ?_
        cases same
        cases (documentIn_of_document "/version" request success read).symm.trans reached
  · refine .unsent fun askable => ?_
    obtain ⟨request, made⟩ := versionRequest_of_isAskable askable
    cases unmade.symm.trans made

end Metadata

end ContainerWarden

import ContainerWarden.Proofs.Orphan.Residence

namespace ContainerWarden

theorem Labels.get?_ofMembers (members : List (String × Json)) (key : String) :
    (ofMembers members).get? key = members.lookup key := by
  induction members with
  | nil => rfl
  | cons entry rest ih =>
    obtain ⟨name, value⟩ := entry
    have head : (Json.str name).isText key = (name == key) := rfl
    unfold get? ofMembers at ih ⊢
    rw [List.map_cons, List.find?_cons, List.lookup_cons, head, ← ih]
    by_cases same : name = key
    · simp [same]
    · simp [beq_eq_false_iff_ne.mpr same, beq_eq_false_iff_ne.mpr (Ne.symm same)]

theorem Labels.ofJson_of_member {value found : Json} {key : String}
    (labelled : value.member? key = some found) :
    ∃ labels, ofJson value = .ok labels ∧ labels.get? key = some found := by
  cases value
  case obj members =>
    have some : (Json.obj members).isPresent = true := by
      cases members with
      | nil => cases labelled
      | cons entry rest => rfl
    refine ⟨ofMembers members, ?_, (get?_ofMembers members key).trans labelled⟩
    rw [ofJson, some]
    rfl
  all_goals cases labelled

theorem Record.textOf_str (s : String) : textOf (.str s) = s := by
  by_cases empty : s = ""
  · subst empty
    rfl
  · have present : (Json.str s).isPresent = true := bne_iff_ne.mpr empty
    rw [textOf, if_pos present]
    rfl

namespace Orphan

open Record (textOf valueOf)

structure Agrees (settings : Settings) (item value : Json) : Prop where
  object : item.isObject = true
  own : valueOf item "uuid" = value
  labelled : (valueOf item "labels").member? settings.uuidLabel = some value

def IsTextual (value : Json) : Prop := ∃ s, value = .str s

variable {settings : Settings} {trace : List Exchange} {host item value : Json} {items : List Json}
  {id : String}

theorem eq_textOf_iff : value = .str (textOf value) ↔ IsTextual value := by
  constructor
  · intro same
    exact ⟨_, same⟩
  · intro ⟨s, same⟩
    rw [same, Record.textOf_str]

theorem Agrees.read (agrees : Agrees settings item value) :
    ∃ container, DesiredContainer.ofJson item = .ok container ∧
      (container.isOrphan settings = false ↔ IsTextual value) := by
  obtain ⟨labels, read, found⟩ := Labels.ofJson_of_member agrees.labelled
  refine ⟨.ofMembers item labels, ?_, ?_⟩
  · rw [DesiredContainer.ofJson_of_isObject agrees.object, read]
    rfl
  · have recognised : labels.holds settings.uuidLabel (textOf value) = true ↔ IsTextual value := by
      rw [Labels.holds_iff, found, Option.some.injEq, eq_textOf_iff]
    unfold DesiredContainer.isOrphan DesiredContainer.ofMembers
    rw [agrees.own, Bool.not_eq_false', recognised]

theorem Agrees.strays_iff (agrees : Agrees settings item value) : Strays settings host item id ↔
    textOf (valueOf item "external_id") = id ∧
      textOf (valueOf item "host_uuid") = textOf (valueOf host "uuid") ∧ ¬ IsTextual value := by
  obtain ⟨labels, read, found⟩ := Labels.ofJson_of_member agrees.labelled
  constructor
  · intro strays
    refine ⟨strays.id, strays.residence, fun textual => strays.labels labels read ?_⟩
    rw [found, agrees.own, ← eq_textOf_iff.mpr textual]
  · intro ⟨same, resident, untextual⟩
    refine ⟨agrees.object, same, resident, fun other readAgain recognised => untextual ?_⟩
    cases read.symm.trans readAgain
    rw [found, agrees.own] at recognised
    exact eq_textOf_iff.mp (Option.some.inj recognised)

/-- A record whose label agrees with its uuid is recognised if what they agree on is a text. If it is not,
    they are compared as a text and a value of another type, and its container is removed. -/
theorem agreement_needs_text (agrees : Agrees settings item value) :
    (∃ container, DesiredContainer.ofJson item = .ok container ∧
      (container.isOrphan settings = false ↔ IsTextual value)) ∧
    ∀ (trace : List Exchange) (rest : Plan (Outcome (List String))) (host : Json) (items : List Json),
      (ExceptT.run (pass settings)).Steps trace rest → Told settings trace host items → item ∈ items →
      (IsTextual value → ∀ id, Removes id trace →
        ∃ other ∈ items, other ≠ item ∧ Strays settings host other id) ∧
      (¬ IsTextual value → textOf (valueOf item "host_uuid") = textOf (valueOf host "uuid") →
        (∃ removed, rest = .done (.ok removed)) →
        (∀ exchange ∈ trace, showsOther settings (textOf (valueOf item "external_id")) exchange = true) →
        Removes (textOf (valueOf item "external_id")) trace) := by
  refine ⟨agrees.read, fun trace rest host items begun told member => ⟨?_, ?_⟩⟩
  · intro textual id removes
    obtain ⟨named, listed, again, other, there, strays⟩ := told_of_removes begun removes
    obtain ⟨rfl, rfl⟩ := told.unique again
    refine ⟨other, there, fun same => ?_, strays⟩
    subst same
    exact (agrees.strays_iff.mp strays).2.2 textual
  · intro untextual resident ⟨removed, returned⟩ shown
    subst returned
    exact removes_of_strays begun told member (agrees.strays_iff.mpr ⟨rfl, resident, untextual⟩) shown

def numberedRecord : World where
  inspections := [("d", .obj [("Name", .str "/web")]), ("e", .obj [("Name", .str "/db")])]
  pages :=
    [("/self/host", [page "\x7b\"uuid\":\"H\"\x7d"]),
      ("/containers", [page ("[\x7b\"uuid\":\"a\",\"external_id\":\"e\",\"host_uuid\":\"H\"," ++
        "\"labels\":\x7b\"io.rancher.container.uuid\":\"a\"\x7d\x7d," ++
        "\x7b\"uuid\":5,\"external_id\":\"d\",\"host_uuid\":\"H\"," ++
        "\"labels\":\x7b\"io.rancher.container.uuid\":5\x7d\x7d]")])]

def agreesOn (settings : Settings) (isValue : Json → Bool) (item : Json) : Bool :=
  item.isObject && isValue (valueOf item "uuid") &&
    ((valueOf item "labels").member? settings.uuidLabel).any isValue

theorem agrees_of_agreesOn {isValue : Json → Bool} (only : ∀ found, isValue found = true → found = value)
    (checked : agreesOn settings isValue item = true) : Agrees settings item value := by
  unfold agreesOn at checked
  rw [Bool.and_eq_true, Bool.and_eq_true, Option.any_eq_true] at checked
  obtain ⟨⟨object, own⟩, found, labelled, same⟩ := checked
  exact ⟨object, only _ own, by rw [labelled, only found same]⟩

def isFive (value : Json) : Bool :=
  match value with
  | .int n => n == 5
  | _ => false

theorem eq_five {value : Json} (five : isFive value = true) : value = .int 5 := by
  cases value
  case int n => rw [eq_of_beq five]
  all_goals cases five

theorem numberedRecord_facts :
    let trace := (pass {}).history World.answer numberedRecord
    Removes "d" trace ∧ trace.all (showsOther {} "d") = true ∧
    ((pass {}).run World.answer numberedRecord).1.toOption.isSome = true ∧
    (trace.tail.head?.bind Metadata.documentOf).any (fun document =>
      match document with
      | .arr [named, numbered] => agreesOn {} (·.isText "a") named && agreesOn {} isFive numbered
      | _ => false) = true := by
  decide +kernel

theorem Told.items_eq (told : Told settings trace host items) :
    trace.tail.head?.bind Metadata.documentOf = some (.arr items) := by
  obtain ⟨first, second, ⟨rest, split⟩, _, listed⟩ := told.exchanges
  rw [← split]
  exact listed.document

theorem numberedRecord_told :
    let trace := (pass {}).history World.answer numberedRecord
    ∃ host named numbered, Told {} trace host [named, numbered] ∧ Agrees {} named (.str "a") ∧
      Agrees {} numbered (.int 5) ∧ Strays {} host numbered "d" := by
  intro trace
  obtain ⟨removes, _, _, agreements⟩ := numberedRecord_facts
  obtain ⟨host, items, told, item, member, strays⟩ :=
    told_of_removes ((pass {}).runs_history World.answer numberedRecord) removes
  rw [told.items_eq, Option.any_some] at agreements
  split at agreements
  · rename_i named numbered same
    cases same
    obtain ⟨first, second⟩ := Bool.and_eq_true_iff.mp agreements
    have onText : Agrees {} named (.str "a") := agrees_of_agreesOn (fun _ => Json.isText_iff.mp) first
    have onNumber : Agrees {} numbered (.int 5) := agrees_of_agreesOn (fun _ => eq_five) second
    refine ⟨host, named, numbered, told, onText, onNumber, ?_⟩
    rw [List.mem_cons, List.mem_singleton] at member
    rcases member with rfl | rfl
    · exact absurd ⟨"a", rfl⟩ (onText.strays_iff.mp strays).2.2
    · exact strays
  · cases agreements

theorem agreement_needs_text_of_numberedRecord :
    let trace := (pass {}).history World.answer numberedRecord
    ∃ host named numbered, Told {} trace host [named, numbered] ∧ Agrees {} named (.str "a") ∧
      Agrees {} numbered (.int 5) ∧ (∀ id, Removes id trace → Strays {} host numbered id) ∧
      Removes "d" trace := by
  intro trace
  obtain ⟨_, shown, returned, _⟩ := numberedRecord_facts
  obtain ⟨host, named, numbered, told, onText, onNumber, strays⟩ := numberedRecord_told
  obtain ⟨removed, ended⟩ := Option.isSome_iff_exists.mp returned
  have begun : (pass {}).Runs trace (.ok removed) := by
    rw [← Outcome.toOption_eq_some.mp ended]
    exact (pass {}).runs_history World.answer numberedRecord
  have spared := ((agreement_needs_text onText).2 _ _ _ _ begun told (by simp)).1 ⟨"a", rfl⟩
  have removes := ((agreement_needs_text onNumber).2 _ _ _ _ begun told (by simp)).2 nofun strays.residence
    ⟨removed, rfl⟩
  rw [strays.id] at removes
  refine ⟨host, named, numbered, told, onText, onNumber, fun id gone => ?_, ?_⟩
  · obtain ⟨other, member, different, stray⟩ := spared id gone
    rw [List.mem_cons, List.mem_singleton] at member
    rcases member with rfl | rfl
    · exact absurd rfl different
    · exact stray
  · exact removes (List.all_eq_true.mp shown)

/-- A container is removed although its label agrees with its uuid, because both are numbers. -/
theorem numbered_record_removed :
    let trace := (pass {}).history World.answer numberedRecord
    ∃ host items item container, Told {} trace host items ∧ item ∈ items ∧ Agrees {} item (.int 5) ∧
      DesiredContainer.ofJson item = .ok container ∧ container.isOrphan {} = true ∧
      Strays {} host item "d" ∧ Removes "d" trace := by
  intro trace
  obtain ⟨removes, _⟩ := numberedRecord_facts
  obtain ⟨host, named, numbered, told, _, agrees, strays⟩ := numberedRecord_told
  obtain ⟨container, read, recognised⟩ := agrees.read
  have orphan : container.isOrphan {} = true :=
    Bool.eq_true_of_not_eq_false fun spared => by cases (recognised.mp spared).choose_spec
  exact ⟨host, _, numbered, container, told, by simp, agrees, read, orphan, strays, removes⟩

end Orphan

end ContainerWarden

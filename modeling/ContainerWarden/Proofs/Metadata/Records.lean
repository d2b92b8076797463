import ContainerWarden.Record.Desired

namespace ContainerWarden

theorem Number.Decimal.written_ne_nil (layout : Layout) (d : Decimal) : d.written layout ≠ [] := by
  unfold Decimal.written Decimal.positional Decimal.scientific exponentText pointed
  dsimp only
  repeat' split
  all_goals simp

theorem Number.signed_ne_nil {cs : List Char} (some : cs ≠ []) (negative : Bool) :
    signed negative cs ≠ [] := by
  cases negative with
  | true => exact List.cons_ne_nil _ _
  | false => exact some

theorem Number.written_ne_empty (x : Float) : Number.written x ≠ "" := by
  unfold Number.written Number.writtenWith
  split
  · split
    · simpa using signed_ne_nil (Decimal.written_ne_nil _ _) _
    · simpa using signed_ne_nil (Decimal.written_ne_nil _ _) _
  · split
    · decide
    · simpa using signed_ne_nil (by decide) _

theorem Json.text_ne_empty {value : Json} (present : value.isPresent = true) : value.text ≠ "" := by
  cases value with
  | null => cases present
  | bool b => cases b <;> decide
  | int n =>
    show n.repr ≠ ""
    rw [Int.repr_eq_if]
    split
    · exact Nat.repr_ne_empty
    · simp
  | float x => exact Number.written_ne_empty x
  | str s => exact bne_iff_ne.mp present
  | arr items => simp [text, quoted]
  | obj members => simp [text, quoted]

namespace Record

def valueOf (record : Json) (key : String) : Json := (record.member? key).getD .null

theorem member_of_isObject {record : Json} (object : record.isObject = true) (key : String) :
    member record key = .ok (valueOf record key) := by
  cases record
  case obj members => rfl
  all_goals cases object

theorem text_of_isObject {record : Json} (object : record.isObject = true) (key : String) :
    text record key = .ok (textOf (valueOf record key)) := by
  rw [text, member_of_isObject object]
  rfl

theorem textOf_eq_empty {value : Json} : textOf value = "" ↔ value.isPresent = false := by
  unfold textOf
  cases present : value.isPresent with
  | false => simp
  | true => simpa using Json.text_ne_empty present

end Record

namespace Labels

def IsPair (element : Json) : Prop :=
  ∃ key value, items? element = some [key, value] ∧ isKey key = true

def IsReadable (value : Json) : Prop :=
  value.isPresent = false ∨ value.isObject = true ∨
    ∃ elements, items? value = some elements ∧ ∀ element ∈ elements, IsPair element

theorem pair_isOk_iff (index : Nat) {element : Json} :
    (∃ label, pair index element = .ok label) ↔ IsPair element := by
  unfold pair IsPair
  split
  · simp [*]
  · rename_i key value found
    cases hashable : isKey key with
    | true => simp [found, hashable]
    | false => simp [found, hashable]
  · rename_i items other found
    constructor
    · intro ⟨label, impossible⟩
      cases impossible
    · intro ⟨key, value, same, _⟩
      exact absurd (Option.some.inj (found.symm.trans same)) (other key value)

theorem addPairs_isOk_iff {labels : Labels} {index : Nat} {elements : List Json} :
    (∃ read, addPairs labels index elements = .ok read) ↔ ∀ element ∈ elements, IsPair element := by
  induction elements generalizing labels index with
  | nil => simp [addPairs]
  | cons element rest ih =>
    rw [List.forall_mem_cons, ← pair_isOk_iff index, addPairs]
    cases pair index element with
    | error fault => simp [bind, Except.bind]
    | ok label => simpa [bind, Except.bind] using ih

theorem ofJson_isOk_iff {value : Json} : (∃ labels, ofJson value = .ok labels) ↔ IsReadable value := by
  unfold ofJson IsReadable
  cases present : value.isPresent with
  | false => simp
  | true =>
    cases value with
    | obj members => simp [Json.isObject]
    | str s => simp [items?, Json.isObject, addPairs_isOk_iff]
    | arr items => simp [items?, Json.isObject, addPairs_isOk_iff]
    | null | bool | int | float => simp [items?, Json.isObject]

theorem kind_of_pair {index : Nat} {element : Json} {fault : Fault}
    (unread : pair index element = .error fault) :
    fault.kind = .typeError ∨ fault.kind = .valueError := by
  unfold pair at unread
  split at unread
  · cases unread
    exact .inl rfl
  · split at unread
    · cases unread
    · cases unread
      exact .inl rfl
  · cases unread
    exact .inr rfl

theorem kind_of_addPairs {labels : Labels} {index : Nat} {elements : List Json} {fault : Fault}
    (unread : addPairs labels index elements = .error fault) :
    fault.kind = .typeError ∨ fault.kind = .valueError := by
  induction elements generalizing labels index with
  | nil => cases unread
  | cons element rest ih =>
    rw [addPairs] at unread
    cases first : pair index element with
    | error other =>
      rw [first] at unread
      cases unread
      exact kind_of_pair first
    | ok label =>
      rw [first] at unread
      exact ih unread

/-- Labels that cannot be read have a wrong type or a wrong length. -/
theorem kind_of_ofJson {value : Json} {fault : Fault} (unread : ofJson value = .error fault) :
    fault.kind = .typeError ∨ fault.kind = .valueError := by
  unfold ofJson at unread
  split at unread
  · cases unread
  · split at unread
    · cases unread
    · split at unread
      · exact kind_of_addPairs unread
      · cases unread
        exact .inl rfl

end Labels

namespace DesiredContainer

def ofMembers (record : Json) (labels : Labels) : DesiredContainer where
  uuid := Record.textOf (Record.valueOf record "uuid")
  externalId := Record.textOf (Record.valueOf record "external_id")
  hostUuid := Record.textOf (Record.valueOf record "host_uuid")
  name := Record.textOf (Record.valueOf record "name")
  labels

/-- Of an object everything is read as it is, except for the labels. -/
theorem ofJson_of_isObject {record : Json} (object : record.isObject = true) :
    ofJson record = (Labels.ofJson (Record.valueOf record "labels")).map (ofMembers record) := by
  simp only [ofJson, Record.text_of_isObject object, Record.member_of_isObject object, bind,
    Except.bind]
  cases Labels.ofJson (Record.valueOf record "labels") <;> rfl

end DesiredContainer

namespace Outcome

variable {read : α → Outcome β} {items : List α} {results : List β}

theorem mapM_cons_eq_ok {item : α} : (item :: items).mapM read = .ok results ↔
    ∃ head tail, read item = .ok head ∧ items.mapM read = .ok tail ∧ results = head :: tail := by
  rw [List.mapM_cons]
  cases read item with
  | error fault => simp [bind, Except.bind]
  | ok head =>
    cases items.mapM read with
    | error fault => simp [bind, Except.bind]
    | ok tail => simp [bind, Except.bind, pure, Except.pure, eq_comm]

theorem mem_mapM (all : items.mapM read = .ok results) {result : β} :
    result ∈ results ↔ ∃ item ∈ items, read item = .ok result := by
  induction items generalizing results with
  | nil =>
    cases all
    simp
  | cons item rest ih =>
    obtain ⟨head, tail, first, others, rfl⟩ := mapM_cons_eq_ok.mp all
    rw [List.mem_cons, ih others]
    simp [first, eq_comm]

theorem mapM_isOk_iff :
    (∃ results, items.mapM read = .ok results) ↔ ∀ item ∈ items, ∃ result, read item = .ok result := by
  induction items with
  | nil => simp [pure, Except.pure]
  | cons item rest ih =>
    simp only [mapM_cons_eq_ok, List.forall_mem_cons, ← ih]
    constructor
    · intro ⟨_, head, tail, first, others, _⟩
      exact ⟨⟨head, first⟩, tail, others⟩
    · intro ⟨⟨head, first⟩, tail, others⟩
      exact ⟨_, head, tail, first, others, rfl⟩

theorem error_of_mapM {fault : Fault} (failed : items.mapM read = .error fault) :
    ∃ item ∈ items, read item = .error fault := by
  induction items with
  | nil => cases failed
  | cons item rest ih =>
    rw [List.mapM_cons] at failed
    cases first : read item with
    | error other =>
      rw [first] at failed
      cases failed
      exact ⟨item, List.mem_cons_self, first⟩
    | ok head =>
      cases others : rest.mapM read with
      | error other =>
        rw [first, others] at failed
        cases failed
        obtain ⟨source, there, same⟩ := ih others
        exact ⟨source, List.mem_cons_of_mem _ there, same⟩
      | ok tail =>
        rw [first, others] at failed
        cases failed

end Outcome

end ContainerWarden

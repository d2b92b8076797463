import ContainerWarden.Fault

namespace ContainerWarden

inductive StatusField where
  | startedAt | metadataVersion | reconcilePasses | reconcileFailures | containersRemoved
  | dedupPasses | duplicatesStopped | dedupInterval | eventsReplayed | eventsDispatched
  | handlerFailures
  deriving DecidableEq, Repr

namespace StatusField

def label : StatusField → String
  | startedAt => "started_at"
  | metadataVersion => "metadata_version"
  | reconcilePasses => "reconcile_passes"
  | reconcileFailures => "reconcile_failures"
  | containersRemoved => "containers_removed"
  | dedupPasses => "dedup_passes"
  | duplicatesStopped => "duplicates_stopped"
  | dedupInterval => "dedup_interval_s"
  | eventsReplayed => "events_replayed"
  | eventsDispatched => "events_dispatched"
  | handlerFailures => "handler_failures"

def initial : StatusField → Json
  | startedAt => .str ""
  | metadataVersion | dedupInterval => .null
  | _ => .int 0

def reported : List StatusField :=
  [metadataVersion, reconcilePasses, reconcileFailures, containersRemoved, dedupPasses,
    duplicatesStopped, dedupInterval, eventsReplayed, eventsDispatched, handlerFailures]

theorem label_inj {field other : StatusField} (same : field.label = other.label) : field = other := by
  cases field <;> cases other <;> simp_all [label]

end StatusField

namespace Json

def float? : Json → Option (Outcome Float)
  | float x => some (.ok x)
  | value => value.wholeNumber?.map fun n =>
    (Number.finiteOfInt? n).elim (.error .integerBeyondFloat) .ok

def plus (left right : Json) : Outcome Json :=
  match left, right with
  | str s, str t => .ok (str (s ++ t))
  | arr items, arr others => .ok (arr (items ++ others))
  | str _, other => .error (.cannotConcatenate "str" other.typeName)
  | arr _, other => .error (.cannotConcatenate "list" other.typeName)
  | _, _ =>
    match left.wholeNumber?, right.wholeNumber? with
    | some n, some m => .ok (int (n + m))
    | _, _ =>
      match left.float?, right.float? with
      | some x, some y => do return float ((← x) + (← y))
      | _, _ => .error (.cannotAdd left.typeName right.typeName)

end Json

structure Status where
  cells : List (String × Json)

namespace Status

def fresh : Status :=
  ⟨(.startedAt :: StatusField.reported).map fun field => (field.label, field.initial)⟩

def get? (status : Status) (name : String) : Option Json := status.cells.lookup name

def put (status : Status) (name : String) (value : Json) : Status :=
  ⟨Json.insertMember name value status.cells⟩

def typeName : String := "SidecarStatus"

/-- Names that every status answers to, with the types of what is there until something is set. -/
def reserved : List (String × List String) :=
  [("method-wrapper",
      ["__delattr__", "__ge__", "__getattribute__", "__gt__", "__le__", "__lt__", "__ne__",
        "__setattr__", "__str__"]),
    ("builtin_function_or_method",
      ["__dir__", "__format__", "__getstate__", "__init_subclass__", "__new__", "__reduce__",
        "__reduce_ex__", "__sizeof__", "__subclasshook__"]),
    ("method", ["__eq__", "__init__", "__repr__"]),
    ("NoneType", ["__hash__", "__weakref__"]),
    ("dict", ["__annotations__", "__dataclass_fields__", "__dict__"]),
    ("str", ["__doc__", "__module__"]),
    ("type", ["__class__"]),
    ("tuple", ["__match_args__"]),
    ("_DataclassParams", ["__dataclass_params__"])]

def reservedType? (name : String) : Option String :=
  (reserved.find? fun (_, names) => names.contains name).map (·.1)

def plusReserved (type : String) (amount : Json) : Outcome Json :=
  if type == "str" then (Json.str "").plus amount
  else if type == "tuple" then .error (.cannotConcatenate type amount.typeName)
  else .error (.cannotAdd type amount.typeName)

/-- Sets a value under any name. Three of the reserved names are not free: one takes all values at once. -/
def set (status : Status) (name : String) (value : Json) : Outcome Status :=
  match name, value with
  | "__class__", other => .error (.notAClass other.typeName)
  | "__weakref__", _ => .error (.notWritable typeName name)
  | "__dict__", .obj members => .ok ⟨members⟩
  | "__dict__", other => .error (.notADictionary other.typeName)
  | _, _ => .ok (status.put name value)

def initial? (name : String) : Option Json :=
  (StatusField.reported.find? (·.label == name)).map (·.initial)

def add (status : Status) (name : String) (amount : Json) : Outcome Status :=
  match (status.get? name).orElse fun _ => initial? name with
  | some value => do status.set name (← value.plus amount)
  | none =>
    match reservedType? name with
    | some type => do status.set name (← plusReserved type amount)
    | none => .error (.noAttribute typeName name)

def value (status : Status) (field : StatusField) : Json :=
  (status.get? field.label).getD field.initial

/-- Adds to a counter. A field that holds no number stays as it is. -/
def count (status : Status) (field : StatusField) (amount : Nat) : Status :=
  match status.add field.label (.int amount) with
  | .ok counted => counted
  | .error _ => status

section Values

variable {status : Status} {field other : StatusField}

theorem value_put (value : Json) : (status.put field.label value).value field = value := by
  simp [Status.value, get?, put, Json.lookup_insertMember_self]

theorem value_put_of_ne (different : field ≠ other) (value : Json) :
    (status.put other.label value).value field = status.value field := by
  have labels : field.label ≠ other.label := different ∘ StatusField.label_inj
  simp [Status.value, get?, put, Json.lookup_insertMember_of_ne labels]

theorem set_label (value : Json) : status.set field.label value = .ok (status.put field.label value) := by
  cases field <;> rfl

theorem count_cases (status : Status) (field : StatusField) (amount : Nat) :
    status.count field amount = status ∨
      ∃ value, status.count field amount = status.put field.label value := by
  unfold count
  cases added : status.add field.label (.int amount) with
  | error fault => exact .inl rfl
  | ok counted =>
    refine .inr ?_
    unfold add at added
    split at added
    · rename_i before _
      cases total : before.plus (.int amount) with
      | error fault =>
        rw [total] at added
        cases added
      | ok sum =>
        rw [total] at added
        exact ⟨sum, Except.ok.inj (added.symm.trans (set_label sum))⟩
    · split at added
      · rename_i type _
        cases total : plusReserved type (.int amount) with
        | error fault =>
          rw [total] at added
          cases added
        | ok sum =>
          rw [total] at added
          exact ⟨sum, Except.ok.inj (added.symm.trans (set_label sum))⟩
      · cases added

theorem value_count_self {n : Int} (numeric : status.value field = .int n) (amount : Nat) :
    (status.count field amount).value field = .int (n + amount) := by
  have total : (Json.int n).plus (.int amount) = .ok (.int (n + amount)) := rfl
  have kept : (status.get? field.label).orElse (fun _ => initial? field.label) = some (.int n) := by
    unfold value at numeric
    cases found : status.get? field.label with
    | some held => simpa [found] using numeric
    | none =>
      rw [found, Option.getD_none] at numeric
      cases field
      case startedAt | metadataVersion | dedupInterval => cases numeric
      all_goals exact congrArg some numeric
  have added : status.add field.label (.int amount) = .ok (status.put field.label (.int (n + amount))) := by
    simp only [add, kept, total]
    exact set_label _
  rw [count, added, value_put]

theorem value_count_of_ne (different : field ≠ other) (amount : Nat) :
    (status.count other amount).value field = status.value field := by
  rcases count_cases status other amount with same | ⟨value, same⟩
  · rw [same]
  · rw [same, value_put_of_ne different]

end Values

def snapshot (status : Status) : List (String × Json) :=
  StatusField.reported.map fun field => (field.label, status.value field)

def shown (look : Json → Json) (status : Status) : List (String × Json) :=
  status.snapshot.map fun (name, value) => (name, look value)

def changesSince (look : Json → Json) (status earlier : Status) : List (String × Json) :=
  let before := earlier.shown look
  (status.shown look).filter fun (name, value) => !((before.lookup name).any (·.same value))

end Status

end ContainerWarden

import ContainerWarden.EventLog.Basic
import ContainerWarden.Proofs.Text.Unicode

namespace ContainerWarden

namespace EventLog

def isStorable : Json → Bool
  | .int n => fits n
  | .str s => Text.isUnicode s
  | .arr _ | .obj _ => false
  | _ => true

def isUnicode : Json → Bool
  | .str s => Text.isUnicode s
  | _ => true

def isScalar : Json → Bool
  | .int n => fits n
  | .arr _ | .obj _ => false
  | _ => true

theorem isStorable_of_isUnicode {value : Json} (written : isUnicode value = true) :
    isStorable value = isScalar value := by
  cases value with
  | str s => exact written
  | _ => rfl

def textForm : Json → Option String
  | .bool b => some (if b then "1" else "0")
  | .int n => some (toString n)
  | .float x => if x.isNaN then none else some (Number.columnText x)
  | .str s => some s
  | _ => none

theorem columnText_of_isStorable {value : Json} (storable : isStorable value = true) (position : Nat) :
    columnText position value = .ok (textForm value) := by
  cases value with
  | int n => exact if_pos storable
  | str s =>
    simp only [columnText, Text.unencodable?_eq_none.mpr storable]
    rfl
  | arr | obj => cases storable
  | null | bool | float => rfl

theorem isStorable_of_columnText {value : Json} {position : Nat} {text : Option String}
    (kept : columnText position value = .ok text) :
    isStorable value = true ∧ text = textForm value := by
  cases storable : isStorable value with
  | true => exact ⟨rfl, Except.ok.inj (kept.symm.trans (columnText_of_isStorable storable position))⟩
  | false =>
    cases value with
    | int n =>
      have fitting : fits n = false := storable
      simp [columnText, fitting] at kept
    | str s =>
      cases refused : Text.unencodable? s with
      | none => cases storable.symm.trans (Text.unencodable?_eq_none.mp refused)
      | some run => simp [columnText, refused] at kept
    | arr | obj => cases kept
    | null | bool | float => cases storable

end EventLog

/-- A row can be made of the entry: its level is a text, it has a message, and all is storable. -/
def LogEntry.isAccepted (entry : LogEntry) : Bool :=
  (match entry.level with
  | .str level => Text.isUnicode level
  | _ => false) &&
  EventLog.isStorable entry.component && EventLog.isStorable entry.containerId &&
  EventLog.isStorable entry.message && (EventLog.textForm entry.message).isSome

def LogEntry.isUnicode (entry : LogEntry) : Bool :=
  [entry.level, entry.component, entry.containerId, entry.message].all EventLog.isUnicode

/-- The level is a text, there is a message, and nothing is a list, an object or an integer beyond 64 bits. -/
def LogEntry.isTyped (entry : LogEntry) : Bool :=
  (match entry.level with
  | .str _ => true
  | _ => false) &&
  [entry.component, entry.containerId, entry.message].all EventLog.isScalar &&
  (EventLog.textForm entry.message).isSome

theorem LogEntry.isAccepted_of_isUnicode {entry : LogEntry} (written : entry.isUnicode = true) :
    entry.isAccepted = entry.isTyped := by
  obtain ⟨level, message, component, containerId⟩ := entry
  simp only [isUnicode, List.all_cons, List.all_nil, Bool.and_true, Bool.and_eq_true] at written
  obtain ⟨first, second, third, fourth⟩ := written
  unfold isAccepted isTyped
  dsimp only
  rw [EventLog.isStorable_of_isUnicode second, EventLog.isStorable_of_isUnicode third,
    EventLog.isStorable_of_isUnicode fourth]
  cases level with
  | str level =>
    have own : Text.isUnicode level = true := first
    simp [own, Bool.and_assoc]
  | _ => rfl

def LogEntry.row (entry : LogEntry) (id : Nat) : LogRow where
  id
  level := Text.upper ((EventLog.textForm entry.level).getD "")
  component := EventLog.textForm entry.component
  containerId := EventLog.textForm entry.containerId
  message := (EventLog.textForm entry.message).getD ""

namespace EventLog

theorem rowOf_of_isAccepted {entry : LogEntry} (accepted : entry.isAccepted = true) (id : Nat) :
    rowOf id entry = .ok (entry.row id) := by
  obtain ⟨level, message, component, containerId⟩ := entry
  simp only [LogEntry.isAccepted, Bool.and_eq_true] at accepted
  obtain ⟨⟨⟨⟨written, first⟩, second⟩, third⟩, present⟩ := accepted
  cases level with
  | str level =>
    obtain ⟨text, kept⟩ := Option.isSome_iff_exists.mp present
    have upper : isStorable (.str (Text.upper level)) = true := (Text.isUnicode_upper level).trans written
    simp only [rowOf, LogEntry.levelText, columnText_of_isStorable upper, columnText_of_isStorable first,
      columnText_of_isStorable second, columnText_of_isStorable third, kept, bind, Except.bind]
    rw [LogEntry.row, kept]
    rfl
  | _ => cases written

theorem isAccepted_of_rowOf {entry : LogEntry} {id : Nat} {row : LogRow}
    (made : rowOf id entry = .ok row) : entry.isAccepted = true := by
  obtain ⟨level, message, component, containerId⟩ := entry
  cases level with
  | str level =>
    obtain ⟨_, raised, made⟩ := Outcome.bind_eq_ok.mp made
    cases raised
    obtain ⟨_, written, made⟩ := Outcome.bind_eq_ok.mp made
    obtain ⟨_, first, made⟩ := Outcome.bind_eq_ok.mp made
    obtain ⟨_, second, made⟩ := Outcome.bind_eq_ok.mp made
    obtain ⟨text, third, made⟩ := Outcome.bind_eq_ok.mp made
    have upper : Text.isUnicode (Text.upper level) = true := (isStorable_of_columnText written).1
    obtain ⟨storable, rfl⟩ := isStorable_of_columnText third
    cases kept : textForm message with
    | none =>
      rw [kept] at made
      cases made
    | some text =>
      have own := (Text.isUnicode_upper level).symm.trans upper
      simp [LogEntry.isAccepted, (isStorable_of_columnText first).1, (isStorable_of_columnText second).1,
        storable, kept, own]
  | _ => cases made

theorem append_of_isAccepted (log : EventLog) {entry : LogEntry} (accepted : entry.isAccepted = true) :
    log.append entry = .ok ⟨entry.row (log.size + 1) :: log.rows⟩ := by
  unfold append
  rw [rowOf_of_isAccepted accepted]
  rfl

theorem append_of_not_isAccepted (log : EventLog) {entry : LogEntry} (rejected : entry.isAccepted = false) :
    ∃ fault, log.append entry = .error fault := by
  cases made : rowOf (log.size + 1) entry with
  | ok row => cases rejected.symm.trans (isAccepted_of_rowOf made)
  | error fault =>
    refine ⟨fault, ?_⟩
    unfold append
    rw [made]
    rfl

end EventLog

namespace LogEntry

def begins (entry : LogEntry) (lead : String) : Bool :=
  match entry.message with
  | .str text => lead.toList.isPrefixOf text.toList
  | _ => false

theorem begins_of_append {entry : LogEntry} {lead rest : String}
    (shown : entry.message = .str (lead ++ rest)) : entry.begins lead = true := by
  have whole : (lead ++ rest).toList = lead.toList ++ rest.toList := String.toList_append
  rw [begins, shown]
  dsimp only
  rw [whole, List.isPrefixOf_iff_prefix]
  exact List.prefix_append _ _

/-- A text that begins with one of two leads does not begin with the other, where neither goes on the other. -/
theorem not_begins_of_append {entry : LogEntry} {lead other rest : String}
    (shown : entry.message = .str (other ++ rest))
    (apart : (lead.toList.isPrefixOf other.toList || other.toList.isPrefixOf lead.toList) = false) :
    entry.begins lead = false := by
  have whole : (other ++ rest).toList = other.toList ++ rest.toList := String.toList_append
  rw [begins, shown]
  dsimp only
  rw [whole, Bool.eq_false_iff]
  intro inside
  have lead := List.isPrefixOf_iff_prefix.mp inside
  rcases List.prefix_or_prefix_of_prefix lead (List.prefix_append _ _) with front | front
  · simp [List.isPrefixOf_iff_prefix.mpr front] at apart
  · simp [List.isPrefixOf_iff_prefix.mpr front] at apart

end LogEntry

end ContainerWarden

import ContainerWarden.Record.Field

namespace ContainerWarden

structure ContainerSummary where
  id : Json
  state : String
  labels : Labels := .empty
  name : Json := .str ""

namespace ContainerSummary

def running (container : ContainerSummary) : Bool := container.state == "running"

def firstName (names : Json) : Outcome Json :=
  if names.isPresent then Record.first names else .ok (.str "")

def ofJson (record : Json) : Outcome ContainerSummary := do
  let names ← Record.member record "Names"
  let id ← Record.required record "Id"
  let state ← Record.text record "State"
  let labels ← Labels.ofJson (← Record.member record "Labels")
  let name ← firstName names
  return ⟨id, state, labels, name⟩

end ContainerSummary

end ContainerWarden

import ContainerWarden.Record.Field

namespace ContainerWarden

structure HostIdentity where
  uuid : String
  deriving DecidableEq, Repr

def HostIdentity.ofJson (record : Json) : Outcome HostIdentity := do
  return ⟨← Record.text record "uuid"⟩

structure DesiredContainer where
  uuid : String
  externalId : String
  hostUuid : String
  name : String := ""
  labels : Labels := .empty

def DesiredContainer.ofJson (record : Json) : Outcome DesiredContainer := do
  let uuid ← Record.text record "uuid"
  let externalId ← Record.text record "external_id"
  let hostUuid ← Record.text record "host_uuid"
  let name ← Record.text record "name"
  let labels ← Labels.ofJson (← Record.member record "labels")
  return ⟨uuid, externalId, hostUuid, name, labels⟩

end ContainerWarden

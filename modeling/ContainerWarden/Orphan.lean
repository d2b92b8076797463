import ContainerWarden.Metadata
import ContainerWarden.Runtime

namespace ContainerWarden

def DesiredContainer.isOrphan (settings : Settings) (container : DesiredContainer) : Bool :=
  !container.labels.holds settings.uuidLabel container.uuid

namespace Orphan

def eligible (settings : Settings) (host : HostIdentity) (containers : List DesiredContainer) :
    List DesiredContainer :=
  containers.filter fun c => c.hostUuid == host.uuid && c.isOrphan settings

def component : String := "reaper"

def logInfo (container : DesiredContainer) (message : String) : Job Unit :=
  Job.log (.info component message (.str container.externalId))

def logError (container : DesiredContainer) (message : String) : Job Unit :=
  Job.log (.error component message (.str container.externalId))

def discard (container : DesiredContainer) : Job Bool := do
  logInfo container
    ("Removing unmanaged container " ++ container.name ++ " " ++ container.externalId)
  Job.recover Fault.isRuntime
    (do
      let _ ← Runtime.remove container.externalId true
      Job.count .containersRemoved 1
      return true)
    fun fault => do
      logError container ("Remove failed: " ++ fault.message)
      return false

/-- Treats one container. The agent stays, whatever its record says. -/
def treat (settings : Settings) (container : DesiredContainer) : Job Bool := do
  let name? ← Job.recover Fault.isRuntime (some <$> Runtime.name container.externalId) fun fault => do
    logError container ("Inspect failed: " ++ fault.message)
    return none
  match name? with
  | some name => if name.isText settings.agentName then return false else discard container
  | none => return false

def treatAll (settings : Settings) : List DesiredContainer → Job (List String)
  | [] => return []
  | container :: rest => do
    let gone ← treat settings container
    let others ← treatAll settings rest
    return if gone then container.externalId :: others else others

/-- One pass. It fails if the host or the containers cannot be fetched. -/
def pass (settings : Settings) : Job (List String) := do
  let host ← Metadata.selfHost settings
  let containers ← Metadata.containers settings
  treatAll settings (eligible settings host containers)

def onChange (settings : Settings) (version : Json) : Job (List String) := do
  Job.assign .metadataVersion version
  match ← (pass settings).attempt with
  | .ok removed =>
    Job.count .reconcilePasses 1
    return removed
  | .error fault =>
    if fault.isMetadata then
      Job.count .reconcileFailures 1
      Job.log (.error component ("Failed to watch for orphan containers: " ++ fault.message) .null)
      return []
    else throw fault

end Orphan

end ContainerWarden

import ContainerWarden.Plan
import ContainerWarden.Record.Summary

namespace ContainerWarden.Runtime

def containers (all : Bool) : Job (List ContainerSummary) := do
  let records ← Job.list all
  Job.ofExcept (records.mapM ContainerSummary.ofJson)

def name (id : String) : Job Json := do
  let record ← Job.inspect id
  match record with
  | .obj members => return (members.lookup "Name").getD (.str "")
  | other => throw (.noAttribute other.typeName "get")

def remove (id : String) (force : Bool) : Job Bool :=
  Job.recover Fault.isGone (do Job.remove id force; return true) fun _ => return false

end ContainerWarden.Runtime

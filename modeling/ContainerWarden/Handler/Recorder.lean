import ContainerWarden.Handler

namespace ContainerWarden

structure Recorder where
  name : String
  className : String := "Recording"
  failure : Option Fault := none
  only : Option (List Json) := none

namespace Recorder

def failsOn (recorder : Recorder) (event : LifecycleEvent) : Bool :=
  match recorder.only with
  | none => true
  | some ids => ids.any (·.same event.id)

def handler (recorder : Recorder) : Handler where
  className := recorder.className
  handle event := do
    Job.note recorder.name event
    match recorder.failure with
    | some fault => if recorder.failsOn event then throw fault else return ()
    | none => return ()

end Recorder

end ContainerWarden

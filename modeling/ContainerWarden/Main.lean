import ContainerWarden.Cli.Command
import ContainerWarden.Http.Wire
import Std.Async.DNS
import Std.Async.TCP
import Std.Async.Timer

open ContainerWarden Std.Async

namespace ContainerWarden.Terminal

partial def receive (client : TCP.Socket.Client) (received : ByteArray) : Async ByteArray := do
  match ← client.recv? 4096 with
  | some octets => receive client (received ++ octets)
  | none => return received

def socketAddress (number : UInt16) : Std.Net.IPAddr → Std.Net.SocketAddress
  | .v4 host => .v4 ⟨host, number⟩
  | .v6 host => .v6 ⟨host, number⟩

def exchange (call : Cli.Call) (target : HttpTarget) : Async HttpResponse := do
  let hosts ← DNS.getAddrInfo target.host "" (some .ipv4)
  let some host := hosts[0]? | throw (IO.userError ("no address for " ++ target.host))
  let client ← TCP.Socket.Client.mk
  client.connect (socketAddress target.portNumber host)
  client.send ⟨(Text.utf8Octets (target.requestText call.method call.user call.password)).toArray⟩
  let octets ← receive client .empty
  match HttpResponse.ofOctets? octets.toList with
  | some response => return response
  | none => throw (IO.userError "the answer cannot be read")

def timeout (seconds : Nat) : Async HttpResponse := do
  sleep (Std.Time.Millisecond.Offset.ofNat (1000 * seconds))
  throw (IO.userError "no answer in time")

def send (call : Cli.Call) : IO HttpResponse :=
  match HttpTarget.ofUrl? call.address with
  | some target => (Async.race (exchange call target) (timeout call.timeout)).block
  | none => throw (IO.userError ("no service at " ++ call.url))

def readEnvironment : IO Environment := do
  let read (name : String) : IO (List (String × String)) := do
    return ((← IO.getEnv name).map fun value => (name, Text.ofUnicode value)).toList
  return (← read "HR_API_USER") ++ (← read "HR_API_PASSWORD")

end ContainerWarden.Terminal

open ContainerWarden.Terminal

def main (arguments : List String) : IO UInt32 := do
  match Cli.Invocation.ofArguments (← readEnvironment) (arguments.map Text.ofUnicode) with
  | .error error =>
    IO.eprintln error.message
    return Cli.usageCode.toUInt32
  | .ok invocation =>
    match Cli.Ending.ofResponse (← send invocation.call) with
    | .ok ending =>
      (← IO.getStdout).write ⟨(Text.utf8Octets ending.output).toArray⟩
      return ending.code.toUInt32
    | .error fault =>
      IO.eprintln fault.message
      return 1

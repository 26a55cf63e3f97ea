import Std.Async.DNS
import Std.Async.TCP
import Std.Async.Timer
import Tagwire.Commands
import Tagwire.Wire

/-! The command-line program. Starting programs is the one request that this host refuses. -/

namespace Tagwire.Machine

open Std.Async

def faultOf : IO.Error → IoFault
  | .noFileOrDirectory .. => .notFound
  | .permissionDenied .. => .denied
  | .alreadyExists .. => .present
  | .resourceBusy .. => .busy
  | .interrupted .. => .interrupted
  | .resourceExhausted _ 11 _ => .tryAgain
  | .timeExpired .. => .timedOut
  | e => .other (toString e)

def guarded {α : Type} (action : IO α) : IO (Except IoFault α) := do
  try
    return .ok (← action)
  catch e =>
    return .error (faultOf e)

def toBytes (content : List UInt8) : ByteArray :=
  ⟨content.toArray⟩

def address (ip : Std.Net.IPAddr) (port : UInt16) : Std.Net.SocketAddress :=
  match ip with
  | .v4 ip => .v4 ⟨ip, port⟩
  | .v6 ip => .v6 ⟨ip, port⟩

def within (milliseconds : Nat) (action : Async Unit) : Async Unit :=
  Async.race action do
    sleep (.ofNat milliseconds)
    throw (IO.Error.timeExpired 110 "Connection timed out")

def connect (endpoint : Endpoint) (milliseconds : Nat) : Async TCP.Socket.Client := do
  let ips ← DNS.getAddrInfo endpoint.host (Decimal.text endpoint.port.toNat)
  let mut last := IO.userError (endpoint.host ++ " did not resolve to any address")
  for ip in ips do
    try
      let client ← TCP.Socket.Client.mk
      within milliseconds (client.connect (address ip endpoint.port))
      return client
    catch e =>
      last := e
  throw last

def readOnce (client : TCP.Socket.Client) (data : Option Nat) : Async Wire.ReadResult := do
  let read (bytes : Option ByteArray) : Async Wire.ReadResult :=
    return .ok ((bytes.map ByteArray.toList).getD [])
  try
    match data with
    | none => read (← client.recv? 1024)
    | some limit =>
      Selectable.one #[.case (client.recvSelector 1024) read,
        .case (← Selector.sleep (.ofNat limit)) fun _ => return .error .tryAgain]
  catch e =>
    return .error (faultOf e)

partial def readAll (client : TCP.Socket.Client) (data : Option Nat)
    (received : List UInt8) : Async (Except IoFault String) := do
  match Wire.receive received (← readOnce client data) with
  | .going received => readAll client data received
  | .over reply => return reply

def exchange (endpoint : Endpoint) (command : String) (timeouts : Timeouts) :
    Async (Except IoFault String) := do
  if let some fault := Wire.connectFault? timeouts then return .error fault
  try
    let client ← connect endpoint timeouts.connect
    if let some fault := Wire.dataFault? timeouts then return .error fault
    client.send (toBytes (Wire.requestBytes command))
    readAll client timeouts.data []
  catch e =>
    return .error (faultOf e)

partial def readInput (stream : IO.FS.Stream) (before : ByteArray) : IO ByteArray := do
  let chunk ← stream.read 65536
  if chunk.isEmpty then return before else readInput stream (before ++ chunk)

def which (name : String) : IO (Option String) := do
  for directory in ((← IO.getEnv "PATH").getD "").splitOn ":" do
    let path := Path.join directory name
    let readable ← guarded do (← IO.FS.Handle.mk path .read).read 1
    if readable matches .ok _ then return some path
  return none

def answer : (q : Request) → IO q.Answer
  | .exchange endpoint command timeouts => (exchange endpoint command timeouts).block
  | .which name => which name
  | .launch _ _ => return .error (.other "starting programs is not supported")
  | .pause milliseconds => IO.sleep (UInt32.ofNat milliseconds)
  | .present path => do
    match ← guarded (IO.FS.Handle.mk path .read) with
    | .ok _ => return true
    | .error _ => return false
  | .load path => guarded do return (← IO.FS.readBinFile path).toList
  | .makeDirectories path => guarded (IO.FS.createDirAll path)
  | .store path content => guarded (IO.FS.writeBinFile path (toBytes content))
  | .openOutput path keep => guarded do
    let _ ← IO.FS.Handle.mk path (if keep then .append else .write)
  | .append path content => guarded do
    let handle ← IO.FS.Handle.mk path .append
    handle.write (toBytes content)
  | .rename source target => guarded (IO.FS.rename source target)
  | .input => guarded do return (← readInput (← IO.getStdin) ByteArray.empty).toList
  | .output content => guarded do
    let stdout ← IO.getStdout
    stdout.write (toBytes content)
    stdout.flush
  | .workingDirectory => guarded do return (← IO.currentDir).toString
  | .clock => do
    return UInt64.ofNat (← Std.Time.Timestamp.now).toSecondsSinceUnixEpoch.val.toNat

def configHome : IO (Option String) := do
  match ← IO.getEnv "XDG_CONFIG_HOME" with
  | some home =>
    if Path.isAbsolute home then return some home
  | none => pure ()
  return (← IO.getEnv "HOME").map fun home => Path.join home ".config"

end Tagwire.Machine

open Tagwire in
def main (arguments : List String) : IO UInt32 := do
  let environment : Environment :=
    ⟨← IO.getEnv "SEMFORA_TAGS_CONFIG", ← IO.getEnv "GTAGS_PROXY", ← Machine.configHome⟩
  let finish ← (Commands.commandLine environment arguments).runM Machine.answer
  match finish with
  | .success => pure ()
  | .usage => IO.eprint Commands.usageLine
  | .failed error => IO.eprintln ("Error: " ++ error.message)
  | .unprinted fault => IO.eprintln ("failed printing to stdout: " ++ fault.message)
  return finish.exitCode.toUInt32

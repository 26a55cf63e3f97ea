import Tagwire.Host.Disk
import Tagwire.Host.Servers

/-! A whole world held in memory: a file tree, local servers, standard streams and a clock. -/

namespace Tagwire

structure Memory where
  disk : Disk := {}
  here : List String := []
  peers : List Peer := []
  input : List UInt8 := []
  output : List UInt8 := []
  now : UInt64 := 0

namespace Memory

def changed (m : Memory) : Except IoFault Disk → Except IoFault Unit × Memory
  | .ok disk => (.ok (), { m with disk })
  | .error fault => (.error fault, m)

def handle : Program.Handler Memory
  | .exchange endpoint command timeouts, m =>
    let (outcome, peers) := Peers.exchange endpoint command timeouts m.peers
    (outcome, { m with peers })
  | .which name, m => (m.disk.which m.here name, m)
  | .launch program _, m => (m.disk.launch m.here program, m)
  | .pause _, m => ((), m)
  | .present path, m => (m.disk.isPresent m.here path, m)
  | .load path, m => (m.disk.load m.here path, m)
  | .makeDirectories path, m => m.changed (m.disk.makeDirectories m.here path)
  | .store path content, m => m.changed (m.disk.write m.here path fun _ => content)
  | .openOutput path keep, m =>
    m.changed (m.disk.write m.here path fun old => if keep then old else [])
  | .append path content, m => m.changed (m.disk.write m.here path (· ++ content))
  | .rename source target, m => m.changed (m.disk.rename m.here source target)
  | .input, m => (.ok m.input, m)
  | .output content, m => (.ok (), { m with output := m.output ++ content })
  | .workingDirectory, m => (.ok (Path.ofComponents true m.here), m)
  | .clock, m => (m.now, m)

end Memory

end Tagwire

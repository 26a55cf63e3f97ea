import Tagwire.Host.Program

namespace Tagwire.Wire

def requestBytes (command : String) : List UInt8 :=
  Utf8.encode command ++ [Split.carriageReturn, Split.lineFeed]

/-- What one attempt to read gives. No bytes means that the peer has closed. -/
abbrev ReadResult := Except IoFault (List UInt8)

inductive Reading where
  | going (received : List UInt8)
  | over (reply : Except IoFault String)

def receive (received : List UInt8) : ReadResult → Reading
  | .ok bytes =>
    if bytes.isEmpty then .over (.ok (Utf8.decode received)) else .going (received ++ bytes)
  | .error fault =>
    match fault.kind with
    | .interrupted => .going received
    | .wouldBlock | .timedOut =>
      .over (if received.isEmpty then .error fault else .ok (Utf8.decode received))
    | _ => .over (.error fault)

def collect (received : List UInt8) : List ReadResult → Except IoFault String
  | [] => .ok (Utf8.decode received)
  | result :: rest =>
    match receive received result with
    | .going received => collect received rest
    | .over reply => reply

def reply (results : List ReadResult) : Except IoFault String :=
  collect [] results

def connectFault? (timeouts : Timeouts) : Option IoFault :=
  if timeouts.connect = 0 then some .zeroTimeout else none

def dataFault? (timeouts : Timeouts) : Option IoFault :=
  if timeouts.data = some 0 then some .zeroTimeout else none

end Tagwire.Wire

import Tagwire.Wire

namespace Tagwire

/-- A script fails always, or at first, or answers with its replies in turn, the last again and
again. -/
structure Script where
  down : Option String := none
  failFirst : Nat := 0
  replies : List String := []

namespace Script

def emptyReply : String := "((value ()))"

def answer (s : Script) : Except IoFault String × Script :=
  match s.down with
  | some text => (.error (.other text), s)
  | none =>
    match s.failFirst with
    | n + 1 => (.error (.other "not yet"), { s with failFirst := n })
    | 0 =>
      match s.replies with
      | [] => (.ok emptyReply, s)
      | [reply] => (.ok reply, s)
      | reply :: rest => (.ok reply, { s with replies := rest })

end Script

abbrev Scripts := List (Endpoint × Script)

namespace Scripts

def put (endpoint : Endpoint) (script : Script) (scripts : Scripts) : Scripts :=
  (endpoint, script) :: scripts.filter fun s => s.1 ≠ endpoint

def exchange (endpoint : Endpoint) (scripts : Scripts) : Except IoFault String × Scripts :=
  match scripts.find? fun s => s.1 = endpoint with
  | none => (.ok Script.emptyReply, scripts)
  | some (_, script) =>
    let (outcome, script) := script.answer
    (outcome, put endpoint script scripts)

end Scripts

/-- A server on a local port. Each connection is answered with the next reply, given in the pieces
in which it is sent, and the last reply again and again; then the connection is closed or held. -/
structure Peer where
  port : UInt16
  dead : Bool := false
  hold : Bool := false
  replies : List (List (List UInt8)) := []
  requests : List (List UInt8) := []

namespace Peer

def nextReplies : List (List (List UInt8)) → List (List (List UInt8))
  | _ :: b :: rest => b :: rest
  | replies => replies

def reads (p : Peer) : List Wire.ReadResult :=
  ((p.replies.head?.getD []).filter (· ≠ [])).map .ok ++
    [if p.hold then .error .tryAgain else .ok []]

def exchange (p : Peer) (command : String) (timeouts : Timeouts) :
    Except IoFault String × Peer :=
  if p.dead then (.error .refused, p)
  else
    let left := { p with replies := nextReplies p.replies }
    match Wire.dataFault? timeouts with
    | some fault => (.error fault, left)
    | none =>
      (Wire.reply p.reads, { left with requests := p.requests ++ [Wire.requestBytes command] })

end Peer

namespace Peers

def isLocal (host : String) : Bool :=
  host == "127.0.0.1" || host == "0.0.0.0" || host.toLower == "localhost"

def exchangeAt (port : UInt16) (command : String) (timeouts : Timeouts) :
    List Peer → Except IoFault String × List Peer
  | [] => (.error .refused, [])
  | p :: rest =>
    if p.port = port then
      let (outcome, p) := p.exchange command timeouts
      (outcome, p :: rest)
    else
      let (outcome, rest) := exchangeAt port command timeouts rest
      (outcome, p :: rest)

def exchange (endpoint : Endpoint) (command : String) (timeouts : Timeouts) (peers : List Peer) :
    Except IoFault String × List Peer :=
  match Wire.connectFault? timeouts with
  | some fault => (.error fault, peers)
  | none =>
    if isLocal endpoint.host then exchangeAt endpoint.port command timeouts peers
    else (.error .refused, peers)

end Peers

end Tagwire

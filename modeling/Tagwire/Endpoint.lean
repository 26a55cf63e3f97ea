import Tagwire.Text.Decimal
import Tagwire.Text.Split

namespace Tagwire

structure Endpoint where
  host : String
  port : UInt16
deriving DecidableEq, Repr

namespace Endpoint

def localhost (port : UInt16) : Endpoint :=
  ⟨"localhost", port⟩

def text (e : Endpoint) : String :=
  e.host ++ ":" ++ Decimal.text e.port.toNat

inductive Fault where
  | noColon (text : String)
  | noHost (text : String)
  | badPort (text : String)
deriving DecidableEq

def Fault.message : Fault → String
  | .noColon text => "expected host:port, got '" ++ text ++ "'"
  | .noHost text => "missing host in '" ++ text ++ "'"
  | .badPort text => "invalid port in '" ++ text ++ "'"

def parse (text : String) : Except Fault Endpoint :=
  match Split.atLast ':' text.toList with
  | none => .error (.noColon text)
  | some ([], _) => .error (.noHost text)
  | some (host, port) =>
    match Decimal.word16? port with
    | none => .error (.badPort text)
    | some n => .ok ⟨String.ofList host, n⟩

end Endpoint

end Tagwire

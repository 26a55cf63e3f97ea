import Tagwire.Language
import Tagwire.Sexp.Basic

namespace Tagwire

structure Identity where
  clientType : String := "semfora"
  clientVersion : UInt32 := 3
deriving DecidableEq

namespace Command

inductive Kind where
  | ping
  | lookupExact
  | lookupPrefixRegexp
  | lookupSnippetRegexp
  | lookupInFile
  | reloadFile
  | loadUpdate
deriving DecidableEq

def Kind.all : List Kind :=
  [.ping, .lookupExact, .lookupPrefixRegexp, .lookupSnippetRegexp, .lookupInFile, .reloadFile,
    .loadUpdate]

def Kind.name : Kind → String
  | .ping => "ping"
  | .lookupExact => "lookup-tag-exact"
  | .lookupPrefixRegexp => "lookup-tag-prefix-regexp"
  | .lookupSnippetRegexp => "lookup-tag-snippet-regexp"
  | .lookupInFile => "lookup-tags-in-file"
  | .reloadFile => "reload-tags-file"
  | .loadUpdate => "load-update-file"

def Kind.ofName? (name : String) : Option Kind :=
  Kind.all.find? fun k => k.name = name

inductive Value where
  | text (value : String)
  | int (value : Int64)
deriving DecidableEq

def Value.rendered : Value → String
  | .text value => Sexp.quote value
  | .int value => Decimal.signedText value.toInt

structure Param where
  name : String
  value : Value
deriving DecidableEq

def protocolVersion : Nat := 2

end Command

structure Command where
  name : String
  params : List Command.Param
  language : String
  callType : CallType
  client : Identity
  corpus : String
  currentFile : Option String
deriving DecidableEq

namespace Command

def clause (name value : String) : String :=
  " (" ++ name ++ " " ++ value ++ ")"

def clauses (c : Command) : List (String × String) :=
  [("client-type", Sexp.quote c.client.clientType),
    ("client-version", Decimal.text c.client.clientVersion.toNat),
    ("protocol-version", Decimal.text protocolVersion),
    ("corpus", Sexp.quote c.corpus),
    ("language", Sexp.quote c.language),
    ("callers", if c.callType.callers then "t" else "nil")] ++
  (c.currentFile.map fun file => ("current-file", Sexp.quote file)).toList ++
  c.params.map fun p => (p.name, p.value.rendered)

def text (c : Command) : String :=
  "(" ++ c.name ++ String.join (c.clauses.map fun p => clause p.1 p.2) ++ ")"

end Command

end Tagwire

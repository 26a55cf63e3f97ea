import Tagwire.Endpoint
import Tagwire.Etags
import Tagwire.Language
import Tagwire.Sexp.Alist
import Tagwire.Sexp.Reader

/-! What can go wrong, the message of each cause, and the exit code it leads to. -/

namespace Tagwire

inductive IoFault.Kind where
  | notFound
  | interrupted
  | wouldBlock
  | timedOut
  | other
deriving DecidableEq, Repr

inductive IoFault where
  | notFound
  | interrupted
  | tryAgain
  | denied
  | busy
  | present
  | notADirectory
  | isADirectory
  | nameTooLong
  | timedOut
  | refused
  | zeroTimeout
  | notText
  | nulInName
  | nulInProgram
  | other (text : String) (kind : IoFault.Kind := .other)
deriving DecidableEq, Repr

def IoFault.message : IoFault → String
  | .notFound => "No such file or directory (os error 2)"
  | .interrupted => "Interrupted system call (os error 4)"
  | .tryAgain => "Resource temporarily unavailable (os error 11)"
  | .denied => "Permission denied (os error 13)"
  | .busy => "Device or resource busy (os error 16)"
  | .present => "File exists (os error 17)"
  | .notADirectory => "Not a directory (os error 20)"
  | .isADirectory => "Is a directory (os error 21)"
  | .nameTooLong => "File name too long (os error 36)"
  | .timedOut => "Connection timed out (os error 110)"
  | .refused => "Connection refused (os error 111)"
  | .zeroTimeout => "cannot set a 0 duration timeout"
  | .notText => "stream did not contain valid UTF-8"
  | .nulInName => "file name contained an unexpected NUL byte"
  | .nulInProgram => "nul byte found in provided data"
  | .other text _ => text

def IoFault.kind : IoFault → IoFault.Kind
  | .notFound => .notFound
  | .interrupted => .interrupted
  | .tryAgain => .wouldBlock
  | .timedOut => .timedOut
  | .other _ kind => kind
  | _ => .other

inductive Violation where
  | alist (fault : Alist.Fault)
  | noValue
  | valueNotList (found : Sexp)
  | missingField (key : String)
  | fieldNotString (key : String) (found : Sexp)
  | fieldNotInteger (key : String) (found : Sexp)
  | untaggedForm (form : Sexp)
  | fileWithout (key : String)
  | contentsNotList (path : String) (found : Sexp)
  | notAnItem (form : Sexp)
  | itemWithoutDescriptor
  | itemWithout (key : String)

def Violation.message : Violation → String
  | .alist fault => fault.message
  | .noValue => "response has no `value` entry"
  | .valueNotList found => "`value` should be a list, got " ++ found.text
  | .missingField key => "tag entry is missing `" ++ key ++ "`"
  | .fieldNotString key found => "`" ++ key ++ "` should be a string, got " ++ found.text
  | .fieldNotInteger key found => "`" ++ key ++ "` should be an integer, got " ++ found.text
  | .untaggedForm form => "top-level form is not a tagged list: " ++ form.text
  | .fileWithout key => "file form without a `" ++ key ++ "` string"
  | .contentsNotList path found => "contents of " ++ path ++ " is not a list: " ++ found.text
  | .notAnItem form => "not an item form: " ++ form.text
  | .itemWithoutDescriptor => "item without a descriptor"
  | .itemWithout key => "item without an integer `" ++ key ++ "`"

inductive ConfigFault where
  | endpoint (fault : Endpoint.Fault)
  | unreadable
  | badPattern
  | launch (program : String) (fault : IoFault)

def ConfigFault.message : ConfigFault → String
  | .endpoint fault => fault.message
  | .unreadable => "Failed to parse config"
  | .badPattern => "Invalid call pattern"
  | .launch program fault => "failed to launch mixer " ++ program ++ ": " ++ fault.message

inductive TagError where
  | unreadable (cause : Sexp.ReadError)
  | transport (endpoint : Endpoint) (cause : IoFault)
  | noAvailableServer (language : String) (callType : CallType)
  | noConfiguredServers (language : String) (callType : CallType)
  | server (text : String)
  | violation (cause : Violation)
  | malformedEtags (cause : Etags.Malformed)
  | unsupportedLanguage (name : String)
  | fileNotFound (path : String)
  | config (cause : ConfigFault)
  | io (cause : IoFault)

namespace TagError

def message : TagError → String
  | .unreadable cause => "Unparseable s-expression: " ++ cause.message
  | .transport endpoint cause =>
    "Transport error talking to " ++ endpoint.text ++ ": " ++ cause.message
  | .noAvailableServer language callType =>
    "No tags server available for " ++ language ++ " (" ++ callType.name ++ ")"
  | .noConfiguredServers language callType =>
    "No tags servers configured for " ++ language ++ " (" ++ callType.name ++ ")"
  | .server text => text
  | .violation cause => "Protocol violation: " ++ cause.message
  | .malformedEtags cause =>
    "Malformed etags input at line " ++ Decimal.text cause.line ++ ": " ++ cause.fault.message
  | .unsupportedLanguage name => "Unsupported language: " ++ name
  | .fileNotFound path => "File not found: " ++ path
  | .config cause => "Configuration error: " ++ cause.message
  | .io cause => "IO error: " ++ cause.message

def isTransport : TagError → Bool
  | .transport .. | .noAvailableServer .. | .noConfiguredServers .. => true
  | _ => false

def isServer : TagError → Bool
  | .server _ => true
  | _ => false

def exitCode : TagError → UInt8
  | .fileNotFound _ | .io _ => 1
  | .unsupportedLanguage _ | .config _ => 2
  | .unreadable _ | .violation _ | .malformedEtags _ => 3
  | .server _ => 4
  | .transport .. | .noAvailableServer .. | .noConfiguredServers .. => 5

end TagError

def Language.parse (name : String) : Except TagError Language :=
  match ofName? name with
  | some language => .ok language
  | none => .error (.unsupportedLanguage name)

def Endpoint.read (text : String) : Except TagError Endpoint :=
  (parse text).mapError fun fault => .config (.endpoint fault)

end Tagwire

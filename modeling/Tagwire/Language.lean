import Tagwire.Path

namespace Tagwire

inductive CallType where
  | definition
  | callgraph
deriving DecidableEq, Repr

namespace CallType

def ofCallers (callers : Bool) : CallType :=
  if callers then .callgraph else .definition

def callers : CallType → Bool
  | .definition => false
  | .callgraph => true

def name : CallType → String
  | .definition => "definition"
  | .callgraph => "callgraph"

def ofName? (name : String) : Option CallType :=
  [definition, callgraph].find? fun c => c.name = name

end CallType

inductive Language where
  | cpp
  | java
  | python
deriving DecidableEq, Repr

namespace Language

def all : List Language :=
  [.cpp, .java, .python]

def name : Language → String
  | .cpp => "c++"
  | .java => "java"
  | .python => "python"

/-- Reads a language in any letter case. Lowering ASCII letters is enough: no other character
lowers to a letter of one of these names. -/
def ofName? (name : String) : Option Language :=
  match name.map Char.toLower with
  | "c++" | "cpp" | "c" => some .cpp
  | "java" => some .java
  | "python" | "py" => some .python
  | _ => none

def ofExtension? (extension : String) : Option Language :=
  match String.ofList (extension.toList.dropWhile (· == '.')) with
  | "cc" | "cpp" | "c" | "h" | "lex" => some .cpp
  | "java" => some .java
  | "py" => some .python
  | _ => none

def ofPath? (path : String) : Option Language :=
  (Path.extension? path).bind ofExtension?

def ofFiletype? : String → Option Language
  | "c" | "cpp" => some .cpp
  | "java" => some .java
  | "python" => some .python
  | _ => none

def wireName (name : String) : String :=
  match (ofName? name).or (ofFiletype? name) with
  | some language => language.name
  | none => name

def port : Language → CallType → UInt16
  | .cpp, .definition => 2223
  | .java, .definition => 2224
  | .python, .definition => 2225
  | .cpp, .callgraph => 2233
  | .java, .callgraph => 2234
  | .python, .callgraph => 2235

def stem : Language → String
  | .cpp => "cpp"
  | .java => "java"
  | .python => "python"

def tagsFileName (language : Language) : CallType → String
  | .definition => language.stem ++ ".tags.gz"
  | .callgraph => language.stem ++ ".callers.tags.gz"

end Language

end Tagwire

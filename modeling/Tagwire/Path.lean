import Tagwire.Text.Split

/-! File names as text. Nothing is normalised. -/

namespace Tagwire.Path

def isAbsolute (path : String) : Bool :=
  path.toList.head? == some '/'

def components (path : String) : List String :=
  ((Split.after '/' path.toList).map fun piece => String.ofList (Split.dropFinal '/' piece)).filter
    fun name => name ≠ "" && name ≠ "."

/-- The number of components where the root and a dot at the beginning count as well. -/
def depth (path : String) : Nat :=
  match path.toList with
  | '/' :: _ | ['.'] | '.' :: '/' :: _ => (components path).length + 1
  | _ => (components path).length

def ofComponents (absolute : Bool) (names : List String) : String :=
  (if absolute then "/" else "") ++ "/".intercalate names

def fileName? (path : String) : Option String :=
  (components path).getLast?.filter (· ≠ "..")

def extension? (path : String) : Option String := do
  let name ← fileName? path
  let (stem, suffix) ← Split.atLast '.' name.toList
  if stem = [] then none else some (String.ofList suffix)

def parent? (path : String) : Option String :=
  match components path with
  | [] => none
  | names =>
    let parent := ofComponents (isAbsolute path) names.dropLast
    if parent = "" then none else some parent

def join (base name : String) : String :=
  if isAbsolute name then name
  else if base = "" || base.toList.getLast? == some '/' then base ++ name
  else base ++ "/" ++ name

end Tagwire.Path

import Tagwire.Json
import Tagwire.Text.Letters

/-! TOON: JSON values as indented text, in which arrays carry their length. -/

namespace Tagwire.Toon

def maxDepth : Nat := 256

def looksNumeric (cs : List Char) : Bool :=
  let body := if cs.head? == some '-' then cs.drop 1 else cs
  match body with
  | [] => false
  | c :: rest =>
    c.isDigit && !(c == '0' && (rest.head?.map Char.isDigit).getD false) &&
      rest.all fun d => d.isDigit || ".eE+-".toList.contains d

def isDelimiter (c : Char) : Bool :=
  "[]\x7b\x7d:-, \t\n\r".toList.contains c

def needsQuotes (s : String) : Bool :=
  s == "" || s == "null" || s == "true" || s == "false" || looksNumeric s.toList ||
    s.toList.any isDelimiter

def escapeChar (c : Char) : List Char :=
  if c = '\n' then ['\\', 'n']
  else if c = '\r' then ['\\', 'r']
  else if c = '\t' then ['\\', 't']
  else if c = '"' then ['\\', '"']
  else if c = '\\' then ['\\', '\\']
  else [c]

def quote (s : String) : String :=
  String.ofList ('"' :: (s.toList.flatMap escapeChar ++ ['"']))

def string (s : String) : String :=
  if needsQuotes s then quote s else s

def isBareKey (s : String) : Bool :=
  match s.toList with
  | [] => false
  | c :: rest =>
    (Letters.isAlphabetic c || c == '_') &&
      rest.all fun d => Letters.isAlphanumeric d || d == '_' || d == '.'

def key (s : String) : String :=
  if isBareKey s then s else quote s

def plain? : Json → Option String
  | .null => some "null"
  | .bool value => some (if value then "true" else "false")
  | .int value => some (Decimal.signedText value)
  | .string text => some (string text)
  | .array _ => none
  | .object _ => none

def plains? (values : List Json) : Option (List String) :=
  values.mapM plain?

def entries? : Json → Option (List (String × Json))
  | .object entries => some entries
  | _ => none

def table? (items : List Json) : Option (List String × List (List String)) := do
  let rows ← items.mapM entries?
  let columns := (← rows.head?).map (·.1)
  if rows.all fun row => row.map (·.1) == columns then
    let cells ← rows.mapM fun row => plains? (row.map (·.2))
    return (columns, cells)
  else none

def indent (depth : Nat) : String :=
  Json.indent depth

/-- An array at a depth, after its name. `listed` are its elements written as items; it is looked
at only when the array is written as a list. -/
def array (name : String) (depth : Nat) (items : List Json) (listed : Option (List String)) :
    Option String :=
  if maxDepth < depth then none
  else if items.isEmpty then some (name ++ "[0]:")
  else
    let header := (if name = "" then "" else indent depth) ++ name ++ "[" ++
      Decimal.text items.length ++ "]"
    match table? items with
    | some (columns, rows) =>
      some ("\n".intercalate ((header ++ "\x7b" ++ ",".intercalate (columns.map key) ++ "\x7d:") ::
        rows.map fun row => indent (depth + 1) ++ ",".intercalate row))
    | none =>
      match plains? items with
      | some texts => some (header ++ ": " ++ ",".intercalate texts)
      | none => listed.map fun lines => "\n".intercalate ((header ++ ":") :: lines)

def object (depth : Nat) (lines : Option (List String)) : Option String :=
  if maxDepth < depth then none else lines.map ("\n".intercalate ·)

mutual

def entry (depth : Nat) (name : String) : Json → Option String
  | .array items =>
    (array (key name) depth items (elements depth items)).map (indent depth ++ ·)
  | .object members =>
    (object (depth + 1) (entries (depth + 1) members)).map
      (indent depth ++ key name ++ ":\n" ++ ·)
  | .null => some (indent depth ++ key name ++ ": null")
  | .bool value => (plain? (.bool value)).map (indent depth ++ key name ++ ": " ++ ·)
  | .int value => (plain? (.int value)).map (indent depth ++ key name ++ ": " ++ ·)
  | .string text => (plain? (.string text)).map (indent depth ++ key name ++ ": " ++ ·)

def entries (depth : Nat) : List (String × Json) → Option (List String)
  | [] => some []
  | (name, v) :: rest =>
    match entry depth name v, entries depth rest with
    | some line, some lines => some (line :: lines)
    | _, _ => none

def inItem (depth : Nat) : Json → Option String
  | .array items => array "" depth items (elements depth items)
  | .object members => (object (depth + 1) (entries (depth + 1) members)).map ("\n" ++ ·)
  | .null => plain? .null
  | .bool value => plain? (.bool value)
  | .int value => plain? (.int value)
  | .string text => plain? (.string text)

def itemEntries (depth : Nat) : List (String × Json) → Option (List String)
  | [] => some []
  | (name, v) :: rest =>
    match inItem depth v, itemEntries depth rest with
    | some text, some lines => some ((indent depth ++ key name ++ ": " ++ text) :: lines)
    | _, _ => none

def element (depth : Nat) : Json → Option String
  | .array items =>
    (array "" (depth + 1) items (elements (depth + 1) items)).map (indent (depth + 1) ++ "- " ++ ·)
  | .object [] => some (indent (depth + 1) ++ "- ")
  | .object ((name, v) :: rest) =>
    match inItem (depth + 1) v, itemEntries (depth + 2) rest with
    | some text, some lines =>
      some ("\n".intercalate ((indent (depth + 1) ++ "- " ++ key name ++ ": " ++ text) :: lines))
    | _, _ => none
  | .null => some (indent (depth + 1) ++ "- null")
  | .bool value => (plain? (.bool value)).map (indent (depth + 1) ++ "- " ++ ·)
  | .int value => (plain? (.int value)).map (indent (depth + 1) ++ "- " ++ ·)
  | .string text => (plain? (.string text)).map (indent (depth + 1) ++ "- " ++ ·)

def elements (depth : Nat) : List Json → Option (List String)
  | [] => some []
  | v :: rest =>
    match element depth v, elements depth rest with
    | some text, some lines => some (text :: lines)
    | _, _ => none

end

def encode? : Json → Option String
  | .object members => object 0 (entries 0 members)
  | .array items => array "" 0 items (elements 0 items)
  | v => plain? v

def tooDeep : String :=
  "TOON encoding error: Invalid structure: Maximum nesting depth of 256 exceeded"

def encode (v : Json) : String :=
  (encode? v).getD tooDeep

end Tagwire.Toon

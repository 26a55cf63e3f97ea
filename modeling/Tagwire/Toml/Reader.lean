import Tagwire.Toml.Scalar

namespace Tagwire.Toml

def skipBlanks (cs : List Char) : List Char :=
  cs.dropWhile fun c => c == ' ' || c == '\t'

def isPrinted (c : Char) : Bool :=
  c == '\t' || (0x20 ≤ c.toNat && c.toNat != 0x7F)

def skipVoid (comment : Bool) : List Char → Option (List Char)
  | [] => some []
  | '\n' :: rest => skipVoid false rest
  | '\r' :: '\n' :: rest => skipVoid false rest
  | c :: rest =>
    if comment then if isPrinted c then skipVoid true rest else none
    else if c == ' ' || c == '\t' then skipVoid false rest
    else if c == '#' then skipVoid true rest
    else some (c :: rest)

def lineEnd? (cs : List Char) : Option (List Char) :=
  let rest := skipBlanks cs
  let rest := if rest.head? == some '#' then rest.dropWhile isPrinted else rest
  match rest with
  | [] => some []
  | '\n' :: after => some after
  | '\r' :: '\n' :: after => some after
  | _ => none

def codePoint? (n : Nat) (cs : List Char) : Option (Char × List Char) :=
  let front := cs.take n
  let code := valueInBase 16 front
  if front.length = n && front.all isHexDigit && decide code.isValidChar then
    some (Char.ofNat code, cs.drop n)
  else none

def escaped? : List Char → Option (Char × List Char)
  | 'b' :: rest => some ('\x08', rest)
  | 't' :: rest => some ('\t', rest)
  | 'n' :: rest => some ('\n', rest)
  | 'f' :: rest => some ('\x0c', rest)
  | 'r' :: rest => some ('\r', rest)
  | '"' :: rest => some ('"', rest)
  | '\\' :: rest => some ('\\', rest)
  | 'u' :: rest => codePoint? 4 rest
  | 'U' :: rest => codePoint? 8 rest
  | _ => none

def basicBody : Nat → List Char → Option (List Char × List Char)
  | 0, _ => none
  | _ + 1, [] => none
  | n + 1, c :: rest =>
    if c = '"' then some ([], rest)
    else if c = '\\' then do
      let (e, rest) ← escaped? rest
      let (text, rest) ← basicBody n rest
      return (e :: text, rest)
    else if isPrinted c then do
      let (text, rest) ← basicBody n rest
      return (c :: text, rest)
    else none

def literalBody (cs : List Char) : Option (List Char × List Char) :=
  match cs.span fun c => c ≠ '\'' && isPrinted c with
  | (text, '\'' :: rest) => some (text, rest)
  | _ => none

def dropSpace : List Char → List Char
  | '\n' :: rest => dropSpace rest
  | '\r' :: '\n' :: rest => dropSpace rest
  | c :: rest => if c = ' ' || c = '\t' then dropSpace rest else c :: rest
  | [] => []

def continued? (cs : List Char) : Option (List Char) :=
  match skipBlanks cs with
  | '\n' :: rest => some (dropSpace rest)
  | '\r' :: '\n' :: rest => some (dropSpace rest)
  | _ => none

def linesBody (quote : Char) (escapes : Bool) : Nat → List Char → Option (List Char × List Char)
  | 0, _ => none
  | _ + 1, [] => none
  | n + 1, c :: rest =>
    if c = quote then
      let quotes := ((c :: rest).takeWhile (· = quote)).take 5
      let after := (c :: rest).drop quotes.length
      if 3 ≤ quotes.length then some (quotes.drop 3, after)
      else do
        let (text, after) ← linesBody quote escapes n after
        return (quotes ++ text, after)
    else if c = '\\' && escapes then
      match continued? rest with
      | some after => linesBody quote escapes n after
      | none => do
        let (e, rest) ← escaped? rest
        let (text, rest) ← linesBody quote escapes n rest
        return (e :: text, rest)
    else if c = '\r' then
      match rest with
      | '\n' :: after => do
        let (text, after) ← linesBody quote escapes n after
        return ('\n' :: text, after)
      | _ => none
    else if c = '\n' || isPrinted c then do
      let (text, rest) ← linesBody quote escapes n rest
      return (c :: text, rest)
    else none

def dropFirstLineEnd : List Char → List Char
  | '\n' :: rest => rest
  | '\r' :: '\n' :: rest => rest
  | cs => cs

def plainString? : List Char → Option (String × List Char)
  | '"' :: rest => (basicBody (rest.length + 1) rest).map fun r => (String.ofList r.1, r.2)
  | '\'' :: rest => (literalBody rest).map fun r => (String.ofList r.1, r.2)
  | _ => none

def string? (cs : List Char) : Option (String × List Char) :=
  match cs with
  | '"' :: '"' :: '"' :: rest =>
    (linesBody '"' true (rest.length + 1) (dropFirstLineEnd rest)).map fun r =>
      (String.ofList r.1, r.2)
  | '\'' :: '\'' :: '\'' :: rest =>
    (linesBody '\'' false (rest.length + 1) (dropFirstLineEnd rest)).map fun r =>
      (String.ofList r.1, r.2)
  | _ => plainString? cs

def isBareKeyChar (c : Char) : Bool :=
  c.isAlphanum || c == '_' || c == '-'

def simpleKey? (cs : List Char) : Option (String × List Char) :=
  match cs.span isBareKeyChar with
  | ([], _) => plainString? cs
  | (name, rest) => some (String.ofList name, rest)

def key? : Nat → List Char → Option ((List String × String) × List Char)
  | 0, _ => none
  | n + 1, cs => do
    let (name, rest) ← simpleKey? (skipBlanks cs)
    match skipBlanks rest with
    | '.' :: more =>
      let ((path, last), rest) ← key? n more
      return ((name :: path, last), rest)
    | rest => return (([], name), rest)

def nestingLimit : Nat := 80

def keyAt? (cs : List Char) : Option ((List String × String) × List Char) :=
  (key? (cs.length + 1) cs).filter fun r => r.1.1.length + 1 < nestingLimit

mutual

/-- A value. `room` is the number of brackets that may still be opened. -/
def value? : Nat → (room : Nat) → List Char → Option (Value × List Char)
  | 0, _, _ => none
  | n + 1, room, cs =>
    match cs with
    | '[' :: rest =>
      match room with
      | 0 => none
      | room + 1 => (arrayItems? n room rest).map fun r => (.array r.1, r.2)
    | '\x7b' :: rest =>
      match room with
      | 0 => none
      | room + 1 =>
        match skipBlanks rest with
        | '\x7d' :: after => some (.table [], after)
        | more =>
          (members? n room .root more).map fun r => (.table (Item.toEntries r.1.entries), r.2)
    | '"' :: _ => (string? cs).map fun r => (.string r.1, r.2)
    | '\'' :: _ => (string? cs).map fun r => (.string r.1, r.2)
    | _ => do
      let (word, rest) := token cs
      let v ← scalar? word
      return (v, rest)

def arrayItems? : Nat → (room : Nat) → List Char → Option (List Value × List Char)
  | 0, _, _ => none
  | n + 1, room, cs => do
    match ← skipVoid false cs with
    | ']' :: rest => return ([], rest)
    | more =>
      let (v, rest) ← value? n room more
      match ← skipVoid false rest with
      | ',' :: rest =>
        let (vs, rest) ← arrayItems? n room rest
        return (v :: vs, rest)
      | ']' :: rest => return ([v], rest)
      | _ => none

def members? : Nat → (room : Nat) → Table → List Char → Option (Table × List Char)
  | 0, _, _, _ => none
  | n + 1, room, t, cs => do
    let ((path, name), rest) ← keyAt? cs
    let '=' :: rest := skipBlanks rest | none
    let (v, rest) ← value? n room (skipBlanks rest)
    let t ← t.define path name v
    match skipBlanks rest with
    | ',' :: rest => members? n room t rest
    | '\x7d' :: rest => return (t, rest)
    | _ => none

end

structure Document where
  root : Table := .root
  opened : List String := []

def Document.line? (d : Document) (cs : List Char) : Option (Document × List Char) :=
  match cs with
  | '[' :: '[' :: rest => do
    let ((path, name), rest) ← keyAt? rest
    let ']' :: ']' :: rest := rest | none
    let root ← d.root.openElement path name
    let rest ← lineEnd? rest
    return (⟨root, path ++ [name]⟩, rest)
  | '[' :: rest => do
    let ((path, name), rest) ← keyAt? rest
    let ']' :: rest := rest | none
    let root ← d.root.openTable path name
    let rest ← lineEnd? rest
    return (⟨root, path ++ [name]⟩, rest)
  | _ => do
    let ((path, name), rest) ← keyAt? cs
    let '=' :: rest := rest | none
    let (v, rest) ← value? (cs.length + 1) (nestingLimit - 1) (skipBlanks rest)
    let root ← d.root.alter false d.opened (Table.define path name v)
    let rest ← lineEnd? rest
    return ({ d with root }, rest)

def Document.read? : Nat → Document → List Char → Option Document
  | 0, _, _ => none
  | n + 1, d, cs => do
    match ← skipVoid false cs with
    | [] => return d
    | more =>
      let (d, rest) ← d.line? more
      Document.read? n d rest

def parse? (text : String) : Option (List (String × Value)) :=
  let cs := text.toList
  let cs := if cs.head? == some (Char.ofNat 0xFEFF) then cs.drop 1 else cs
  (Document.read? (cs.length + 1) {} cs).map fun d => Item.toEntries d.root.entries

end Tagwire.Toml

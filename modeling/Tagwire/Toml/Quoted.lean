/-! Strings as a TOML document shows them: between the quotes in which nothing needs an escape, and
with escapes only if there are none. -/

namespace Tagwire.Toml.Quoted

def longestRun (c : Char) (run : Nat) : List Char → Nat
  | [] => run
  | d :: rest => if d = c then longestRun c (run + 1) rest else max run (longestRun c 0 rest)

def isControl (c : Char) : Bool :=
  (c.toNat < 0x20 && c ≠ '\t' && c ≠ '\n') || c.toNat = 0x7F

def hexDigit (n : Nat) : Char :=
  (Nat.digitChar n).toUpper

def escape (c : Char) : List Char :=
  if c = '\x08' then ['\\', 'b']
  else if c = '\t' then ['\\', 't']
  else if c = '\n' then ['\\', 'n']
  else if c = '\x0c' then ['\\', 'f']
  else if c = '\r' then ['\\', 'r']
  else if c = '"' || c = '\\' then ['\\', c]
  else ['\\', 'u', '0', '0', hexDigit (c.toNat / 16), hexDigit (c.toNat % 16)]

/-- The text between double quotes. `quotes` more quotes of a run may stand as they are; in a
string of several `lines` a run of two may, and so may line ends. -/
def body (lines : Bool) (quotes : Nat) : List Char → List Char
  | [] => []
  | c :: rest =>
    let most := if lines then 2 else 0
    if c = '"' then
      match quotes with
      | 0 => escape c ++ body lines most rest
      | k + 1 => c :: body lines k rest
    else if c = '\n' && lines then c :: body lines most rest
    else if c = '\t' || c = '\n' || c = '\\' || isControl c then escape c ++ body lines most rest
    else c :: body lines most rest

def fence (mark : String) (lines : Bool) (content : List Char) : String :=
  mark ++ (if lines then "\n" else "") ++ String.ofList content ++ mark

def basic (cs : List Char) : String :=
  "\"" ++ String.ofList (body false 0 cs) ++ "\""

def basicLines (lines : Bool) (cs : List Char) : String :=
  fence "\"\"\"" lines (body true 2 cs)

def text (s : String) : String :=
  let cs := s.toList
  let control := cs.any isControl
  let backslash := cs.contains '\\'
  let lines := cs.contains '\n'
  let doubles := longestRun '"' 0 cs
  let singles := longestRun '\'' 0 cs
  if !control && !backslash && doubles = 0 && !lines then basic cs
  else if !control && singles = 0 && !lines then "'" ++ s ++ "'"
  else if !control && !backslash && doubles ≤ 2 then basicLines lines cs
  else if !control && singles ≤ 2 then fence "'''" lines cs
  else if lines then basicLines lines cs
  else basic cs

end Tagwire.Toml.Quoted

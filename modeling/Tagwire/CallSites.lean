import Tagwire.Etags
import Tagwire.Pattern

namespace Tagwire.CallSites

def names (p : Pattern) (line : List UInt8) : List String :=
  (p.groups line).eraseDups.map Utf8.decode

def escapeByte (b : UInt8) : List UInt8 :=
  if b = Etags.snippetEnd then Utf8.encode "\\0x7f"
  else if b = Etags.tagEnd then Utf8.encode "\\0x01"
  else [b]

def escapeSnippet (line : List UInt8) : List UInt8 :=
  line.flatMap escapeByte

def entriesOf (p : Pattern) (line : List UInt8) (number offset : Nat) : List Etags.Entry :=
  let snippet := escapeSnippet line
  (names p line).map fun name => ⟨snippet, name, UInt64.ofNat number, UInt64.ofNat offset⟩

def entriesFrom (p : Pattern) (number offset : Nat) : List (List UInt8) → List Etags.Entry
  | [] => []
  | line :: rest =>
    entriesOf p (Split.chomp line) number offset ++
      entriesFrom p (number + 1) (offset + line.length) rest

def sectionOf (p : Pattern) (path : String) (content : List UInt8) : Etags.Section where
  path := path
  size := UInt64.ofNat content.length
  entries := entriesFrom p 1 0 (Split.after Split.lineFeed content)

end Tagwire.CallSites

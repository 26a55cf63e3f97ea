import Tagwire.Reply
import Tagwire.Text.Blank
import Tagwire.Text.Utf8

namespace Tagwire.Listing

def scheme : String := "gtags://"

def stripScheme? (name : String) : Option String :=
  if scheme.toList.isPrefixOf name.toList then
    some (String.ofList (name.toList.drop scheme.length))
  else none

def vi (t : TagRecord) : String :=
  t.tag ++ "\t" ++ scheme ++ t.filename ++ "\t" ++ Decimal.text t.line.toNat

def grep (t : TagRecord) : String :=
  scheme ++ t.filename ++ "|" ++ Decimal.text t.line.toNat ++ "|" ++ t.snippet

def short (t : TagRecord) : String :=
  t.filename ++ "|" ++ Decimal.text t.line.toNat ++ "| " ++ Blank.trimText t.snippet

def long (width : Nat) (t : TagRecord) : String :=
  let reference := t.filename ++ "|" ++ Decimal.text t.line.toNat ++ "|"
  let spaces := max (width - (t.tag.length + reference.length)) 1
  reference ++ String.ofList (List.replicate spaces ' ') ++ t.tag ++ t.snippet

def lines (texts : List String) : String :=
  String.join (texts.map (· ++ "\n"))

def viFile (tags : List TagRecord) : List UInt8 :=
  tags.flatMap fun t => Utf8.encode (vi t ++ "\n")

def bytesBefore : List UInt8 → List UInt8 → Bool
  | _, [] => false
  | [], _ :: _ => true
  | a :: as, b :: bs => if a = b then bytesBefore as bs else decide (a < b)

def before (a b : String) : Bool :=
  bytesBefore (Utf8.encode a) (Utf8.encode b)

def insertName (name : String) : List String → List String
  | [] => [name]
  | n :: rest =>
    if before name n then name :: n :: rest
    else if name = n then n :: rest
    else n :: insertName name rest

def names (tags : List TagRecord) : List String :=
  (tags.map TagRecord.tag).foldr insertName []

end Tagwire.Listing

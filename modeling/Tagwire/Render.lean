import Tagwire.Listing
import Tagwire.Toon

namespace Tagwire

inductive Format where
  | text
  | toon
  | json
  | vi
  | grep
  | long
deriving DecidableEq

namespace Format

def all : List Format :=
  [.text, .toon, .json, .vi, .grep, .long]

def name : Format → String
  | .text => "text"
  | .toon => "toon"
  | .json => "json"
  | .vi => "vi"
  | .grep => "grep"
  | .long => "long"

def ofName? (name : String) : Option Format :=
  all.find? fun f => f.name = name

end Format

mutual

def Sexp.toJson : Sexp → Json
  | .string text => .string text
  | .integer value => .nat value.toNat
  | .symbol name => if name = "t" then .bool true else if name = "nil" then .null else .string name
  | .list items => .array (Sexp.itemsToJson items)

def Sexp.itemsToJson : List Sexp → List Json
  | [] => []
  | v :: rest => v.toJson :: Sexp.itemsToJson rest

end

def TagRecord.toJson (t : TagRecord) : Json :=
  .object [("filename", .string t.filename), ("tag", .string t.tag), ("line", .nat t.line.toNat),
    ("offset", .nat t.offset.toNat), ("snippet", .string t.snippet)]

namespace Render

def jsonLine (v : Json) : String :=
  v.pretty 0 ++ "\n"

def toonLine (v : Json) : String :=
  Toon.encode v ++ "\n"

def plainValue : Json → String
  | .string text => text
  | v => v.compact

def summaryLines : Json → String
  | .object entries => Listing.lines (entries.map fun e => e.1 ++ ": " ++ plainValue e.2)
  | _ => ""

def object (format : Format) (v : Json) : String :=
  match format with
  | .json => jsonLine v
  | .toon => toonLine v
  | _ => summaryLines v

def longWidth : Nat := 80

def tags (format : Format) (records : List TagRecord) : String :=
  match format with
  | .text => Listing.lines (records.map Listing.short)
  | .vi => Listing.lines (records.map Listing.vi)
  | .grep => Listing.lines (records.map Listing.grep)
  | .long => Listing.lines (records.map (Listing.long longWidth))
  | .json => jsonLine (.array (records.map TagRecord.toJson))
  | .toon =>
    toonLine (.object [("count", .nat records.length),
      ("tags", .array (records.map TagRecord.toJson))])

def names (format : Format) (texts : List String) : String :=
  match format with
  | .json => jsonLine (.array (texts.map .string))
  | .toon => toonLine (.object [("names", .array (texts.map .string))])
  | _ => Listing.lines texts

end Render

end Tagwire

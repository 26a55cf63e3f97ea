import Tagwire.Error

namespace Tagwire

namespace TagsFile

inductive Descriptor where
  | generic (name : String)
  | call (name : String)
  | other (form : Sexp)

structure Item where
  line : UInt64
  offset : UInt64
  descriptor : Descriptor
  snippet : List UInt8

structure File where
  path : String
  language : String
  items : List Item

structure Header where
  formatVersion : UInt64
  comment : String
  timestamp : UInt64
  corpus : String

end TagsFile

structure TagsFile where
  header : Option TagsFile.Header := none
  files : List TagsFile.File := []
  deleted : List String := []

namespace TagsFile

def Descriptor.name? : Descriptor → Option String
  | .generic name => some name
  | .call name => some name
  | .other _ => none

def Descriptor.isCall : Descriptor → Bool
  | .call _ => true
  | _ => false

def escapeBytes : List UInt8 → List UInt8
  | [] => []
  | b :: rest =>
    if b = 0x5C ∨ b = 0x22 then 0x5C :: b :: escapeBytes rest else b :: escapeBytes rest

def literal (bytes : List UInt8) : List UInt8 :=
  if bytes.contains 0 then [0x22, 0x22] else 0x22 :: (escapeBytes bytes ++ [0x22])

def textLiteral (s : String) : List UInt8 :=
  literal (Utf8.encode s)

def Descriptor.bytes : Descriptor → List UInt8
  | .generic name => Utf8.encode "(generic-tag (tag " ++ textLiteral name ++ Utf8.encode "))"
  | .call name => Utf8.encode "(call (to (ref (name " ++ textLiteral name ++ Utf8.encode "))))"
  | .other form => Utf8.encode form.text

def Item.bytes (item : Item) : List UInt8 :=
  Utf8.encode ("(item (line " ++ Decimal.text item.line.toNat ++ ") (offset " ++
    Decimal.text item.offset.toNat ++ ") (descriptor ") ++ item.descriptor.bytes ++
  Utf8.encode ") (snippet " ++ literal item.snippet ++ Utf8.encode "))"

def itemSeparator : String :=
  "\n             "

def File.bytes (file : File) : List UInt8 :=
  Utf8.encode "(file \n  (path " ++ textLiteral file.path ++
  Utf8.encode ")\n  (language " ++ textLiteral file.language ++
  Utf8.encode ")\n  (contents (" ++
  (Utf8.encode itemSeparator).intercalate (file.items.map Item.bytes) ++ Utf8.encode ")))\n"

def Header.bytes (h : Header) : List UInt8 :=
  Utf8.encode ("(tags-format-version " ++ Decimal.text h.formatVersion.toNat ++
    ")\n(tags-comment ") ++ textLiteral h.comment ++
  Utf8.encode (")\n(timestamp " ++ Decimal.text h.timestamp.toNat ++ ")\n(tags-corpus-name ") ++
  textLiteral h.corpus ++ Utf8.encode ")\n"

def deletedBytes (path : String) : List UInt8 :=
  Utf8.encode "(deleted " ++ textLiteral path ++ Utf8.encode ")\n"

def bytes (t : TagsFile) : List UInt8 :=
  (t.header.map Header.bytes).getD [] ++ t.files.flatMap File.bytes ++
    t.deleted.flatMap deletedBytes

def Header.new (corpus : String) (timestamp : UInt64) : Header :=
  ⟨2, "", timestamp, corpus⟩

structure Options where
  corpus : String := "google3"
  language : String := Language.cpp.name
  guessLanguage : Bool := false
  callers : Bool := false
  withHeader : Bool := true
  timestamp : UInt64

def Options.languageOf (o : Options) (path : String) : String :=
  match (if o.guessLanguage then Language.ofPath? path else none) with
  | some language => language.name
  | none => o.language

def Item.ofEntry (o : Options) (e : Etags.Entry) : Item where
  line := e.line
  offset := e.offset
  descriptor := if o.callers then .call e.tag else .generic e.tag
  snippet := e.snippet

def File.ofSection (o : Options) (s : Etags.Section) : File :=
  ⟨s.path, o.languageOf s.path, s.entries.map (Item.ofEntry o)⟩

def ofEtags (o : Options) (sections : List Etags.Section) (deleted : List String) : TagsFile where
  header := if o.withHeader then some (.new o.corpus o.timestamp) else none
  files := sections.map (File.ofSection o)
  deleted := deleted

def Descriptor.ofSexp : Sexp → Descriptor
  | .list [.symbol "generic-tag", .list [.symbol "tag", .string name]] => .generic name
  | .list [.symbol "call",
      .list [.symbol "to", .list [.symbol "ref", .list [.symbol "name", .string name]]]] =>
    .call name
  | form => .other form

def itemFields : Sexp → Except Violation Alist
  | .list (.symbol "item" :: fields) => (Alist.ofItems fields).mapError .alist
  | form => .error (.notAnItem form)

def Item.ofSexp (form : Sexp) : Except Violation Item := do
  let fields ← itemFields form
  let some descriptor := fields.find? "descriptor" | throw .itemWithoutDescriptor
  let some line := fields.integer? "line" | throw (.itemWithout "line")
  let some offset := fields.integer? "offset" | throw (.itemWithout "offset")
  return {
    line, offset
    descriptor := .ofSexp descriptor
    snippet := Utf8.encode ((fields.string? "snippet").getD "") }

def File.ofFields (fields : List Sexp) : Except Violation File := do
  let fields ← (Alist.ofItems fields).mapError Violation.alist
  let some path := fields.string? "path" | throw (.fileWithout "path")
  let some language := fields.string? "language" | throw (.fileWithout "language")
  match fields.find? "contents" with
  | none => return ⟨path, language, []⟩
  | some (.list contents) => return ⟨path, language, ← contents.mapM Item.ofSexp⟩
  | some other => throw (.contentsNotList path other)

structure HeaderForms where
  formatVersion : Option UInt64 := none
  comment : Option String := none
  timestamp : Option UInt64 := none
  corpus : Option String := none

def HeaderForms.header? (h : HeaderForms) : Option Header :=
  h.formatVersion.map fun version =>
    ⟨version, h.comment.getD "", h.timestamp.getD 0, h.corpus.getD ""⟩

structure Parsed where
  header : HeaderForms := {}
  files : List File := []
  deleted : List String := []

def Parsed.take (p : Parsed) : Sexp → Except Violation Parsed
  | .list (.symbol head :: rest) =>
    match head, rest with
    | "tags-format-version", [v] => .ok { p with header.formatVersion := v.integer? }
    | "tags-comment", [v] => .ok { p with header.comment := v.string? }
    | "timestamp", [v] => .ok { p with header.timestamp := v.integer? }
    | "tags-corpus-name", [v] => .ok { p with header.corpus := v.string? }
    | "file", fields => (File.ofFields fields).map fun f => { p with files := p.files ++ [f] }
    | "deleted", [.string path] => .ok { p with deleted := p.deleted ++ [path] }
    | _, _ => .ok p
  | form => .error (.untaggedForm form)

def Parsed.file (p : Parsed) : TagsFile :=
  ⟨p.header.header?, p.files, p.deleted⟩

def ofForms (forms : List Sexp) : Except Violation TagsFile :=
  (forms.foldlM Parsed.take {}).map Parsed.file

def parse (text : String) : Except TagError TagsFile :=
  match Sexp.readAll text with
  | .error e => .error (.unreadable e)
  | .ok forms => (ofForms forms).mapError .violation

def convert (o : Options) (deleted : List String) (input : List UInt8) :
    Except TagError (Nat × List UInt8) :=
  match Etags.parse input with
  | .error cause => .error (.malformedEtags cause)
  | .ok sections => .ok (sections.length, (ofEtags o sections deleted).bytes)

end TagsFile

end Tagwire

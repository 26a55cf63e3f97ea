import Mathlib
import Tagwire.Proofs.Sexp.Alist
import Tagwire.Proofs.TagsFile.Written

namespace Tagwire.TagsFile

open Utf8
open Sexp (field)

def Descriptor.normal : Descriptor → Descriptor
  | .generic name => .generic (kept name)
  | .call name => .call (kept name)
  | .other form => .other form

def Item.normal (item : Item) : Item :=
  { item with
    descriptor := item.descriptor.normal
    snippet := encode (literalText item.snippet) }

def File.normal (file : File) : File where
  path := kept file.path
  language := kept file.language
  items := file.items.map Item.normal

def Header.normal (h : Header) : Header :=
  { h with
    comment := kept h.comment
    corpus := kept h.corpus }

def normal (t : TagsFile) : TagsFile where
  header := t.header.map Header.normal
  files := t.files.map File.normal
  deleted := t.deleted.map kept

lemma ofSexp_descriptor {d : Descriptor} (h : d.Writable) :
    Descriptor.ofSexp d.toSexp = d.normal := by
  cases d with
  | generic name => rfl
  | call name => rfl
  | other form =>
    obtain ⟨-, hshape⟩ := h
    simp only [Descriptor.toSexp, Descriptor.normal]
    unfold Descriptor.ofSexp
    split
    · next name => exact absurd rfl (hshape name).1
    · next name => exact absurd rfl (hshape name).2
    · rfl

lemma ofSexp_item {item : Item} (h : item.descriptor.Writable) :
    Item.ofSexp item.toSexp = .ok item.normal := by
  have hfields := Alist.ofItems_field [("line", .integer item.line), ("offset", .integer item.offset),
    ("descriptor", item.descriptor.toSexp), ("snippet", .string (literalText item.snippet))]
  have hitem : itemFields item.toSexp = .ok [("line", .integer item.line),
      ("offset", .integer item.offset), ("descriptor", item.descriptor.toSexp),
      ("snippet", .string (literalText item.snippet))] := by
    rw [Item.toSexp, itemFields]
    exact congrArg (Except.mapError Violation.alist) hfields
  rw [Item.ofSexp, hitem]
  simp [Alist.find?, Alist.integer?, Alist.string?, Sexp.integer?, Sexp.string?, bind, Except.bind,
    ofSexp_descriptor h, Item.normal, pure, Except.pure]

lemma mapM_ofSexp_item {items : List Item} (h : ∀ item ∈ items, item.descriptor.Writable) :
    (items.map Item.toSexp).mapM Item.ofSexp = .ok (items.map Item.normal) := by
  induction items with
  | nil => rfl
  | cons item items ih =>
    obtain ⟨hi, hrest⟩ := List.forall_mem_cons.1 h
    rw [List.map_cons, List.mapM_cons, ofSexp_item hi, ih hrest]
    rfl

lemma ofFields_file {file : File} (h : ∀ item ∈ file.items, item.descriptor.Writable) :
    File.ofFields file.fields = .ok file.normal := by
  have hfields := Alist.ofItems_field [("path", .string (kept file.path)),
    ("language", .string (kept file.language)), ("contents", .list (file.items.map Item.toSexp))]
  have hfile : Alist.ofItems file.fields = .ok [("path", .string (kept file.path)),
    ("language", .string (kept file.language)),
    ("contents", .list (file.items.map Item.toSexp))] := hfields
  rw [File.ofFields, hfile]
  simp [Alist.find?, Alist.string?, Sexp.string?, bind, Except.bind, Except.mapError,
    mapM_ofSexp_item h, File.normal, pure, Except.pure]

lemma take_file (p : Parsed) {file : File} (h : ∀ item ∈ file.items, item.descriptor.Writable) :
    p.take file.toSexp = .ok { p with files := p.files ++ [file.normal] } := by
  rw [File.toSexp, Parsed.take, ofFields_file h]
  rfl

lemma foldlM_take_files (p : Parsed) {files : List File}
    (h : ∀ file ∈ files, ∀ item ∈ file.items, item.descriptor.Writable) :
    (files.map File.toSexp).foldlM Parsed.take p =
      .ok { p with files := p.files ++ files.map File.normal } := by
  induction files generalizing p with
  | nil => simp [pure, Except.pure]
  | cons file files ih =>
    obtain ⟨hf, hrest⟩ := List.forall_mem_cons.1 h
    rw [List.map_cons, List.foldlM_cons, take_file p hf]
    simpa [bind, Except.bind] using ih { p with files := p.files ++ [file.normal] } hrest

lemma take_deleted (p : Parsed) (path : String) :
    p.take (deletedForm path) = .ok { p with deleted := p.deleted ++ [kept path] } := rfl

lemma foldlM_take_deleted (p : Parsed) (paths : List String) :
    (paths.map deletedForm).foldlM Parsed.take p =
      .ok { p with deleted := p.deleted ++ paths.map kept } := by
  induction paths generalizing p with
  | nil => simp [pure, Except.pure]
  | cons path paths ih =>
    rw [List.map_cons, List.foldlM_cons, take_deleted]
    simpa [bind, Except.bind] using ih { p with deleted := p.deleted ++ [kept path] }

def Header.collected (h : Header) : HeaderForms where
  formatVersion := h.formatVersion
  comment := kept h.comment
  timestamp := h.timestamp
  corpus := kept h.corpus

lemma foldlM_take_header (h : Header) :
    h.forms.foldlM Parsed.take {} = .ok { header := h.collected } := rfl

lemma ofForms_forms {t : TagsFile} (h : t.Writable) : ofForms t.forms = .ok t.normal := by
  have hheader : ((t.header.map Header.forms).getD []).foldlM Parsed.take {} =
      .ok { header := (t.header.map Header.collected).getD {} } := by
    cases t.header with
    | none => rfl
    | some header => exact foldlM_take_header header
  have hback : ((t.header.map Header.collected).getD {}).header? = t.header.map Header.normal := by
    cases t.header <;> rfl
  rw [ofForms, forms, List.foldlM_append, List.foldlM_append, hheader]
  simp only [bind, Except.bind]
  rw [foldlM_take_files _ h]
  simp only
  rw [foldlM_take_deleted]
  simp [Except.map, Parsed.file, normal, hback]

lemma parse_bytes {t : TagsFile} (h : t.Writable) :
    parse (decode t.bytes) = (ofForms t.forms).mapError .violation := by
  rw [parse, readAll_bytes h]

def Item.reread (o : Options) (e : Etags.Entry) : Item where
  line := e.line
  offset := e.offset
  descriptor := if o.callers then .call (kept e.tag) else .generic (kept e.tag)
  snippet := encode (literalText e.snippet)

/-- What is found of sections of etags text when their TAGS file is read. -/
def reread (o : Options) (sections : List Etags.Section) (deleted : List String) : TagsFile where
  header := if o.withHeader then some ⟨2, "", o.timestamp, kept o.corpus⟩ else none
  files := sections.map fun s =>
    ⟨kept s.path, kept (o.languageOf s.path), s.entries.map (Item.reread o)⟩
  deleted := deleted.map kept

section OfEtags

variable (o : Options) (sections : List Etags.Section) (deleted : List String)

lemma writable_ofEtags : (ofEtags o sections deleted).Writable := by
  intro file hfile item hitem
  obtain ⟨s, -, rfl⟩ := List.mem_map.1 hfile
  obtain ⟨e, -, rfl⟩ := List.mem_map.1 hitem
  rw [Item.ofEntry]
  cases o.callers <;> trivial

lemma normal_ofEntry (e : Etags.Entry) : (Item.ofEntry o e).normal = Item.reread o e := by
  unfold Item.ofEntry Item.normal Item.reread
  cases o.callers <;> rfl

lemma normal_ofSection (s : Etags.Section) : (File.ofSection o s).normal =
    ⟨kept s.path, kept (o.languageOf s.path), s.entries.map (Item.reread o)⟩ := by
  rw [File.normal, File.ofSection, List.map_map]
  exact congrArg (File.mk _ _) (List.map_congr_left fun e _ => normal_ofEntry o e)

lemma normal_ofEtags : (ofEtags o sections deleted).normal = reread o sections deleted := by
  have hfiles : (sections.map (File.ofSection o)).map File.normal =
      sections.map fun s =>
        ⟨kept s.path, kept (o.languageOf s.path), s.entries.map (Item.reread o)⟩ := by
    rw [List.map_map]
    exact List.map_congr_left fun s _ => normal_ofSection o s
  rw [normal, ofEtags, hfiles, reread]
  cases o.withHeader <;> rfl

lemma parse_ofEtags_bytes :
    parse (decode (ofEtags o sections deleted).bytes) = .ok (reread o sections deleted) := by
  have hwritable := writable_ofEtags o sections deleted
  rw [parse_bytes hwritable, ofForms_forms hwritable, normal_ofEtags]
  rfl

end OfEtags

theorem parse_decode_bytes (t : TagsFile) (h : t.Writable) :
    parse (decode t.bytes) = .ok t.normal := by
  rw [parse_bytes h, ofForms_forms h]
  rfl

theorem parse_decode_bytes_damaged :
    let item : Item := ⟨1, 0, .other (.list [.symbol ".call", .string "\x00"]), [0xE4, 0x22, 0x5C, 0xC3]⟩
    let t : TagsFile := ⟨some ⟨2, "\x00", 7, "a\"b"⟩, [⟨"a\\b", "c++", [item]⟩], ["x", "y\x00"]⟩
    t.Writable ∧ parse (decode t.bytes) = .ok ⟨some ⟨2, "", 7, "a\"b"⟩,
      [⟨"a\\b", "c++", [{ item with snippet := encode "\uFFFD\"\\\uFFFD" }]⟩], ["x", ""]⟩ := by
  intro item t
  have hitem : item.descriptor.Writable :=
    ⟨by decide, fun name => by simp [genericForm, callForm, field]⟩
  have ht : t.Writable := by
    intro file hf i hi
    obtain rfl := List.mem_singleton.1 hf
    obtain rfl := List.mem_singleton.1 hi
    exact hitem
  have hsnippet : literalText [0xE4, 0x22, 0x5C, 0xC3] = "\uFFFD\"\\\uFFFD" := by decide
  have hkept : [kept "\x00", kept "a\"b", kept "a\\b", kept "c++", kept "x", kept "y\x00"] =
      ["", "a\"b", "a\\b", "c++", "x", ""] := by decide
  simp only [List.cons_eq_cons] at hkept
  obtain ⟨h₁, h₂, h₃, h₄, h₅, h₆, -⟩ := hkept
  refine ⟨ht, (parse_decode_bytes t ht).trans ?_⟩
  simp only [t, item, normal, Header.normal, File.normal, Item.normal, Descriptor.normal,
    Option.map_some, List.map_cons, List.map_nil, hsnippet, h₁, h₂, h₃, h₄, h₅, h₆]

end Tagwire.TagsFile

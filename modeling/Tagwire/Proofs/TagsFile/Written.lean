import Mathlib
import Tagwire.Proofs.Sexp.RoundTrip
import Tagwire.Proofs.TagsFile.Literal

namespace Tagwire.TagsFile

open Utf8 Sexp.Reader
open Sexp (field)

def genericForm (name : String) : Sexp :=
  field "generic-tag" (field "tag" (.string name))

def callForm (name : String) : Sexp :=
  field "call" (field "to" (field "ref" (field "name" (.string name))))

def Descriptor.toSexp : Descriptor → Sexp
  | .generic name => genericForm (kept name)
  | .call name => callForm (kept name)
  | .other form => form

def Item.fields (item : Item) : List Sexp :=
  [field "line" (.integer item.line), field "offset" (.integer item.offset),
    field "descriptor" item.descriptor.toSexp, field "snippet" (.string (literalText item.snippet))]

def Item.toSexp (item : Item) : Sexp :=
  .list (.symbol "item" :: item.fields)

def File.fields (file : File) : List Sexp :=
  [field "path" (.string (kept file.path)), field "language" (.string (kept file.language)),
    field "contents" (.list (file.items.map Item.toSexp))]

def File.toSexp (file : File) : Sexp :=
  .list (.symbol "file" :: file.fields)

def Header.forms (h : Header) : List Sexp :=
  [field "tags-format-version" (.integer h.formatVersion),
    field "tags-comment" (.string (kept h.comment)), field "timestamp" (.integer h.timestamp),
    field "tags-corpus-name" (.string (kept h.corpus))]

def deletedForm (path : String) : Sexp :=
  field "deleted" (.string (kept path))

def forms (t : TagsFile) : List Sexp :=
  (t.header.map Header.forms).getD [] ++ t.files.map File.toSexp ++ t.deleted.map deletedForm

lemma decodes_descriptor (d : Descriptor) : Decodes d.bytes d.toSexp.chars := by
  cases d with
  | generic name =>
    have h := ((decodes_encode "(generic-tag (tag ").append (decodes_textLiteral name)).append
      (decodes_encode "))")
    simpa [Descriptor.bytes, Descriptor.toSexp, genericForm, Sexp.field_chars, Sexp.chars] using h
  | call name =>
    have h := ((decodes_encode "(call (to (ref (name ").append (decodes_textLiteral name)).append
      (decodes_encode "))))")
    simpa [Descriptor.bytes, Descriptor.toSexp, callForm, Sexp.field_chars, Sexp.chars] using h
  | other form =>
    have h := decodes_encode form.text
    rwa [Sexp.text, String.toList_ofList] at h

lemma decodes_item (item : Item) : Decodes item.bytes item.toSexp.chars := by
  have h := ((((decodes_encode ("(item (line " ++ Decimal.text item.line.toNat ++ ") (offset " ++
    Decimal.text item.offset.toNat ++ ") (descriptor ")).append
      (decodes_descriptor item.descriptor)).append (decodes_encode ") (snippet ")).append
        (decodes_literal item.snippet)).append (decodes_encode "))")
  simpa [Item.bytes, Item.toSexp, Item.fields, Sexp.field_chars, Sexp.chars, Sexp.itemChars,
    Decimal.text] using h

def File.contentChars (file : File) : List Char :=
  itemSeparator.toList.intercalate (file.items.map fun item => item.toSexp.chars)

def lineBreak : List Char :=
  "\n  ".toList

def File.chars (file : File) : List Char :=
  '(' :: ("file".toList ++ (' ' :: lineBreak ++
    ((field "path" (.string (kept file.path))).chars ++ (lineBreak ++
      ((field "language" (.string (kept file.language))).chars ++ (lineBreak ++
        ('(' :: ("contents".toList ++ ' ' :: ('(' :: (file.contentChars ++ [')'])) ++ [')']))))))) ++
            [')'])

lemma decodes_contents (file : File) :
    Decodes ((encode itemSeparator).intercalate (file.items.map Item.bytes)) file.contentChars := by
  unfold File.contentChars
  induction file.items with
  | nil => exact decodes_nil
  | cons item items ih =>
    cases items with
    | nil => simpa using decodes_item item
    | cons next items =>
      have h := (decodes_item item).append ((decodes_encode itemSeparator).append ih)
      simpa [List.intercalate] using h

lemma decodes_file (file : File) : Decodes file.bytes (file.chars ++ ['\n']) := by
  have h := ((((((decodes_encode "(file \n  (path ").append (decodes_textLiteral file.path)).append
    (decodes_encode ")\n  (language ")).append (decodes_textLiteral file.language)).append
      (decodes_encode ")\n  (contents (")).append (decodes_contents file)).append
        (decodes_encode ")))\n")
  simpa [File.bytes, File.chars, lineBreak, Sexp.field_chars, Sexp.chars] using h

def formChars (v : Sexp) : List Char :=
  v.chars ++ ['\n']

lemma decodes_header (h : Header) : Decodes h.bytes (h.forms.flatMap formChars) := by
  have hd := ((((decodes_encode ("(tags-format-version " ++ Decimal.text h.formatVersion.toNat ++
    ")\n(tags-comment ")).append (decodes_textLiteral h.comment)).append
      (decodes_encode (")\n(timestamp " ++ Decimal.text h.timestamp.toNat ++
        ")\n(tags-corpus-name "))).append (decodes_textLiteral h.corpus)).append
          (decodes_encode ")\n")
  simpa [Header.bytes, Header.forms, formChars, Sexp.field_chars, Sexp.chars, Decimal.text]
    using hd

lemma decodes_deleted (path : String) :
    Decodes (deletedBytes path) (formChars (deletedForm path)) := by
  have h := ((decodes_encode "(deleted ").append (decodes_textLiteral path)).append
    (decodes_encode ")\n")
  simpa [deletedBytes, deletedForm, formChars, Sexp.field_chars, Sexp.chars] using h

def chars (t : TagsFile) : List Char :=
  ((t.header.map Header.forms).getD []).flatMap formChars ++
    t.files.flatMap (fun file => file.chars ++ ['\n']) ++
      t.deleted.flatMap fun path => formChars (deletedForm path)

lemma decodes_bytes (t : TagsFile) : Decodes t.bytes t.chars := by
  refine (Decodes.append ?_ (Decodes.flatMap decodes_file t.files)).append
    (Decodes.flatMap decodes_deleted t.deleted)
  cases t.header with
  | none => exact decodes_nil
  | some h => exact decodes_header h

def Descriptor.Writable : Descriptor → Prop
  | .generic _ => True
  | .call _ => True
  | .other form => form.ReadableItem ∧ ∀ name, form ≠ genericForm name ∧ form ≠ callForm name

def Writable (t : TagsFile) : Prop :=
  ∀ file ∈ t.files, ∀ item ∈ file.items, item.descriptor.Writable

lemma readableItem_descriptor {d : Descriptor} (h : d.Writable) : d.toSexp.ReadableItem := by
  cases d with
  | generic name =>
    exact Sexp.readableItem_field (by decide)
      (Sexp.readableItem_field (by decide) (Sexp.readableItem_string _))
  | call name =>
    exact Sexp.readableItem_field (by decide) (Sexp.readableItem_field (by decide)
      (Sexp.readableItem_field (by decide)
        (Sexp.readableItem_field (by decide) (Sexp.readableItem_string _))))
  | other form => exact h.1

lemma readableItem_item {item : Item} (h : item.descriptor.Writable) :
    item.toSexp.ReadableItem := by
  simp only [Item.toSexp, Item.fields, Sexp.readableItem_list, List.forall_mem_cons]
  exact ⟨by decide, Sexp.readableItem_field (by decide) (Sexp.readableItem_integer _),
    Sexp.readableItem_field (by decide) (Sexp.readableItem_integer _),
    Sexp.readableItem_field (by decide) (readableItem_descriptor h),
    Sexp.readableItem_field (by decide) (Sexp.readableItem_string _), by simp⟩

lemma spells_textField (name s : String) (hname : Sexp.isName name = true ∧ name ≠ ".") :
    Spells (field name (.string s)).chars [field name (.string s)] :=
  (Sexp.readableItem_field hname (Sexp.readableItem_string s)).spells

lemma spells_contents {file : File} (h : ∀ item ∈ file.items, item.descriptor.Writable) :
    Spells file.contentChars (file.items.map Item.toSexp) := by
  have hsep : itemSeparator.toList = '\n' :: List.replicate 13 ' ' := by decide
  rw [File.contentChars, hsep]
  exact Spells.intercalate file.items (by simp [Sexp.isSpace]) fun item hi =>
    (readableItem_item (h item hi)).spells

lemma spellsAll_file {file : File} (h : ∀ item ∈ file.items, item.descriptor.Writable) :
    SpellsAll (file.chars ++ ['\n']) [file.toSexp] := by
  have hbreak : ∀ c ∈ lineBreak, Sexp.isSpace c = true := by simp [lineBreak, Sexp.isSpace]
  have hspace : Sexp.isSpace ' ' = true := rfl
  have hcontents := ((spells_name (show Sexp.isName "contents" = true by decide) (by decide)).append
    ((spells_contents h).list.space hspace) rfl).list
  have hlanguage := (spells_textField "language" (kept file.language) (by decide)).append
    (hcontents.spaces hbreak) rfl
  have hpath := (spells_textField "path" (kept file.path) (by decide)).append
    (hlanguage.spaces hbreak) rfl
  have hfile := (spells_name (show Sexp.isName "file" = true by decide) (by decide)).append
    ((hpath.spaces hbreak).space hspace) rfl
  exact (spellsAll_list hfile).append (spellsAll_space rfl)

lemma spellsAll_field {name : String} (hname : Sexp.isName name = true ∧ name ≠ ".") {v : Sexp}
    (hv : v.ReadableItem) : SpellsAll (formChars (field name v)) [field name v] := by
  have hform : SpellsAll (field name v).chars [field name v] := fun rest =>
    forms_of_form ((Sexp.readableItem_field hname hv).form_list rest)
  exact hform.append (spellsAll_space rfl)

lemma spellsAll_header (h : Header) : SpellsAll (h.forms.flatMap formChars) h.forms := by
  have hforms : ∀ v ∈ h.forms, SpellsAll (formChars v) [v] := by
    simp only [Header.forms, List.forall_mem_cons]
    exact ⟨spellsAll_field (by decide) (Sexp.readableItem_integer _),
      spellsAll_field (by decide) (Sexp.readableItem_string _),
      spellsAll_field (by decide) (Sexp.readableItem_integer _),
      spellsAll_field (by decide) (Sexp.readableItem_string _), by simp⟩
  simpa using SpellsAll.flatMap h.forms hforms

lemma spellsAll_chars {t : TagsFile} (h : t.Writable) : SpellsAll t.chars t.forms := by
  refine (SpellsAll.append ?_ (SpellsAll.flatMap t.files fun file hf => spellsAll_file (h file hf))).append
    (SpellsAll.flatMap t.deleted fun path _ =>
      spellsAll_field (by decide) (Sexp.readableItem_string _))
  cases t.header with
  | none => exact spellsAll_nil
  | some header => exact spellsAll_header header

lemma readAll_bytes {t : TagsFile} (h : t.Writable) :
    Sexp.readAll (decode t.bytes) = .ok t.forms := by
  rw [Sexp.readAll, decode, String.toList_ofList, (decodes_bytes t).decodeChars_eq,
    (spellsAll_chars h).forms_eq]

end Tagwire.TagsFile

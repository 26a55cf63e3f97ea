import Mathlib
import Tagwire.Proofs.Reply.Agreement
import Tagwire.Proofs.TagsFile.Literal

namespace Tagwire.Reply

open Utf8
open Sexp (field)

/-- A value as it is sent: its strings are bytes that need not be valid text. -/
inductive Raw where
  | string (bytes : List UInt8)
  | integer (value : UInt64)
  | symbol (name : String)
  | list (items : List Raw)

namespace Raw

mutual

def bytes : Raw → List UInt8
  | .string bs => 0x22 :: (TagsFile.escapeBytes bs ++ [0x22])
  | .integer value => encode (Decimal.text value.toNat)
  | .symbol name => encode name
  | .list items => encode "(" ++ itemBytes items ++ encode ")"

def itemBytes : List Raw → List UInt8
  | [] => []
  | [v] => bytes v
  | v :: w :: rest => bytes v ++ encode " " ++ itemBytes (w :: rest)

end

mutual

def decoded : Raw → Sexp
  | .string bs => .string (decode bs)
  | .integer value => .integer value
  | .symbol name => .symbol name
  | .list items => .list (itemsDecoded items)

def itemsDecoded : List Raw → List Sexp
  | [] => []
  | v :: rest => decoded v :: itemsDecoded rest

end

lemma itemsDecoded_eq_map (vs : List Raw) : itemsDecoded vs = vs.map decoded := by
  induction vs with
  | nil => rfl
  | cons v vs ih => rw [itemsDecoded, ih, List.map_cons]

mutual

lemma decodes_bytes (v : Raw) : Decodes v.bytes v.decoded.chars := by
  match v with
  | .string bs =>
    have h := TagsFile.decodes_quoted bs
    simpa [bytes, decoded, Sexp.chars, decode] using h
  | .integer value =>
    have h := decodes_encode (Decimal.text value.toNat)
    simpa [bytes, decoded, Sexp.chars, Decimal.text] using h
  | .symbol name => exact decodes_encode name
  | .list items =>
    have h := ((decodes_encode "(").append (decodes_itemBytes items)).append (decodes_encode ")")
    simpa [bytes, decoded, Sexp.chars] using h

lemma decodes_itemBytes (vs : List Raw) :
    Decodes (itemBytes vs) (Sexp.itemChars (itemsDecoded vs)) := by
  match vs with
  | [] => exact decodes_nil
  | [v] => exact decodes_bytes v
  | v :: w :: rest =>
    have h := ((decodes_bytes v).append (decodes_encode " ")).append (decodes_itemBytes (w :: rest))
    simpa [itemBytes, itemsDecoded, Sexp.itemChars] using h

end

lemma read_bytes {items : List Raw} (h : (Raw.list items).decoded.ReadableItem)
    (rest : List UInt8) :
    Sexp.read (decode ((Raw.list items).bytes ++ rest)) = .ok (Raw.list items).decoded := by
  have htext : (decode ((Raw.list items).bytes ++ rest)).toList =
      (Raw.list items).decoded.chars ++ decodeChars rest := by
    rw [decode, String.toList_ofList]
    exact decodes_bytes (.list items) rest
  rw [decoded] at h htext ⊢
  rw [Sexp.read, htext, h.form_list]
  rfl

def entries (es : List (String × Raw)) : Raw :=
  .list (es.map fun e => .list [.symbol e.1, e.2])

def decodedEntries (es : List (String × Raw)) : Alist :=
  es.map fun e => (e.1, e.2.decoded)

lemma decoded_entries (es : List (String × Raw)) :
    (entries es).decoded = (decodedEntries es).toSexp := by
  simp [entries, decoded, itemsDecoded_eq_map, itemsDecoded, decodedEntries, Alist.toSexp]

def Legible (e : String × Raw) : Prop :=
  (Sexp.isName e.1 = true ∧ e.1 ≠ ".") ∧ e.2.decoded.ReadableItem

lemma readableItem_entries {es : List (String × Raw)} (h : ∀ e ∈ es, Legible e) :
    (entries es).decoded.ReadableItem := by
  simp only [entries, decoded, itemsDecoded_eq_map, Sexp.readableItem_list, List.mem_map]
  rintro _ ⟨_, ⟨e, he, rfl⟩, rfl⟩
  simpa [decoded, itemsDecoded, Legible] using h e he

end Raw

structure RawRecord where
  filename : List UInt8
  tag : List UInt8
  line : UInt64
  offset : UInt64
  snippet : List UInt8

def RawRecord.decoded (r : RawRecord) : TagRecord where
  filename := decode r.filename
  tag := decode r.tag
  line := r.line
  offset := r.offset
  snippet := decode r.snippet

def fieldNames : List String :=
  ["filename", "tag", "lineno", "offset", "snippet"]

def RawRecord.fields (r : RawRecord) : List (String × Raw) :=
  [("filename", .string r.filename), ("tag", .string r.tag), ("lineno", .integer r.line),
    ("offset", .integer r.offset), ("snippet", .string r.snippet)]

structure RecordLayout where
  record : RawRecord
  others : List (String × Raw)
  fields : List (String × Raw)
  order : fields.Perm (record.fields ++ others)
  legible : ∀ e ∈ others, Raw.Legible e
  unknown : ∀ e ∈ others, e.1 ∉ fieldNames

namespace RecordLayout

variable (r : RecordLayout)

def raw : Raw :=
  .entries r.fields

lemma legible_fields : ∀ e ∈ r.fields, Raw.Legible e := by
  intro e he
  rcases List.mem_append.1 (r.order.mem_iff.1 he) with he | he
  · have hfields : ∀ e ∈ r.record.fields, Raw.Legible e := by
      simp [RawRecord.fields, Raw.Legible, Raw.decoded, Sexp.isName, Sexp.isSymbolChar]
    exact hfields e he
  · exact r.legible e he

lemma find?_field {key : String} {v : Raw} (h : (key, v) ∈ r.record.fields) :
    (Raw.decodedEntries r.fields).find? key = some v.decoded := by
  have hnames : r.record.fields.map Prod.fst = fieldNames := rfl
  have hkey : key ∈ fieldNames := hnames ▸ List.mem_map_of_mem h
  apply Alist.find?_of_unique
  · exact List.mem_map_of_mem (r.order.mem_iff.2 (List.mem_append_left _ h))
  · intro e he hek
    obtain ⟨e, hmem, rfl⟩ := List.mem_map.1 he
    rcases List.mem_append.1 (r.order.mem_iff.1 hmem) with hmem | hmem
    · have hnodup : (r.record.fields.map Prod.fst).Nodup := by
        rw [hnames]
        decide
      rw [List.inj_on_of_nodup_map hnodup hmem h hek]
    · exact absurd (hek ▸ hkey) (r.unknown e hmem)

lemma tagRecord_decoded : tagRecord r.raw.decoded = .ok r.record.decoded := by
  have hfilename : ("filename", Raw.string r.record.filename) ∈ r.record.fields := by
    simp [RawRecord.fields]
  have htag : ("tag", Raw.string r.record.tag) ∈ r.record.fields := by
    simp [RawRecord.fields]
  have hline : ("lineno", Raw.integer r.record.line) ∈ r.record.fields := by
    simp [RawRecord.fields]
  have hoffset : ("offset", Raw.integer r.record.offset) ∈ r.record.fields := by
    simp [RawRecord.fields]
  have hsnippet : ("snippet", Raw.string r.record.snippet) ∈ r.record.fields := by
    simp [RawRecord.fields]
  rw [raw, Raw.decoded_entries, tagRecord, Alist.ofSexp_toSexp]
  simp [stringField, integerField, r.find?_field hfilename, r.find?_field htag,
    r.find?_field hline, r.find?_field hoffset, r.find?_field hsnippet, Raw.decoded,
    Except.mapError, bind, Except.bind, pure, Except.pure, RawRecord.decoded]

lemma not_isErrorForm : ¬ IsErrorForm r.raw.decoded := by
  rintro ⟨payload, hform⟩
  rw [raw, Raw.decoded_entries, Alist.toSexp] at hform
  cases hfields : r.fields with
  | nil => simp [hfields, Raw.decodedEntries] at hform
  | cons e es => simp [hfields, Raw.decodedEntries] at hform

end RecordLayout

structure ReplyLayout where
  records : List RecordLayout
  before : List (String × Raw)
  after : List (String × Raw)
  legible : ∀ e ∈ before ++ after, Raw.Legible e
  quiet : ∀ e ∈ before ++ after, e.1 ≠ "error" ∧ e.1 ≠ "value"

namespace ReplyLayout

variable (reply : ReplyLayout)

def value : Raw :=
  .list (reply.records.map RecordLayout.raw)

def entries : List (String × Raw) :=
  reply.before ++ ("value", reply.value) :: reply.after

def bytes : List UInt8 :=
  (Raw.entries reply.entries).bytes

lemma mem_entries {e : String × Raw} (h : e ∈ reply.entries) :
    e ∈ reply.before ++ reply.after ∨ e = ("value", reply.value) := by
  rcases List.mem_append.1 h with h | h
  · exact .inl (List.mem_append_left _ h)
  · rcases List.mem_cons.1 h with rfl | h
    · exact .inr rfl
    · exact .inl (List.mem_append_right _ h)

lemma legible_value : Raw.Legible ("value", reply.value) := by
  have hname : Sexp.isName "value" = true ∧ "value" ≠ "." := by decide
  refine ⟨hname, ?_⟩
  rw [value, Raw.decoded, Raw.itemsDecoded_eq_map, Sexp.readableItem_list]
  simp only [List.mem_map]
  rintro _ ⟨_, ⟨r, hr, rfl⟩, rfl⟩
  exact Raw.readableItem_entries r.legible_fields

lemma legible_entries : ∀ e ∈ reply.entries, Raw.Legible e := by
  intro e he
  rcases reply.mem_entries he with he | rfl
  · exact reply.legible e he
  · exact reply.legible_value

lemma read_bytes (rest : List UInt8) :
    Sexp.read (decode (reply.bytes ++ rest)) = .ok (Raw.decodedEntries reply.entries).toSexp := by
  rw [← Raw.decoded_entries]
  exact Raw.read_bytes (Raw.readableItem_entries reply.legible_entries) rest

lemma find?_error : (Raw.decodedEntries reply.entries).find? "error" = none := by
  apply Alist.find?_eq_none
  intro e he
  obtain ⟨e, hmem, rfl⟩ := List.mem_map.1 he
  rcases reply.mem_entries hmem with hmem | rfl
  · exact (reply.quiet e hmem).1
  · simp

lemma find?_value :
    (Raw.decodedEntries reply.entries).find? "value" =
      some (.list (reply.records.map fun r => r.raw.decoded)) := by
  have hvalue : reply.value.decoded = .list (reply.records.map fun r => r.raw.decoded) := by
    simp [value, Raw.decoded, Raw.itemsDecoded_eq_map]
  rw [entries, Raw.decodedEntries, List.map_append, List.map_cons, hvalue]
  apply Alist.find?_last
  intro e he
  obtain ⟨e, hmem, rfl⟩ := List.mem_map.1 he
  exact (reply.quiet e (List.mem_append_right _ hmem)).2

lemma accepted_records :
    accepted (reply.records.map fun r => r.raw.decoded) =
      .ok (reply.records.map fun r => r.raw.decoded) := by
  have hnone : (reply.records.map fun r => r.raw.decoded).findSome? errorForm? = none := by
    apply List.findSome?_eq_none_iff.2
    intro v hv
    obtain ⟨r, -, rfl⟩ := List.mem_map.1 hv
    exact errorForm?_eq_none r.not_isErrorForm
  rw [accepted, hnone]

end ReplyLayout

lemma mapM_tagRecord (records : List RecordLayout) :
    (records.map fun r => r.raw.decoded).mapM tagRecord =
      .ok (records.map fun r => r.record.decoded) := by
  induction records with
  | nil => rfl
  | cons r records ih =>
    rw [List.map_cons, List.mapM_cons, r.tagRecord_decoded, ih]
    rfl

theorem tagRecords_of_layout (reply : ReplyLayout) (rest : List UInt8) :
    tagRecords (decode (reply.bytes ++ rest)) =
      .ok (reply.records.map fun r => r.record.decoded) := by
  have hfields := fields_eq_ok (reply.read_bytes rest) reply.find?_error
  simp only [tagRecords, hfields, bind, Except.bind, reply.find?_value, reply.accepted_records,
    mapM_tagRecord, Except.mapError]

theorem tagRecords_of_layout_damaged :
    let first : RecordLayout :=
      { record := ⟨[0x61, 0xE9], [0x22, 0x5C], 0, 18446744073709551615, [0xE2, 0x82, 0x22, 0x00]⟩
        others := [("error", .list [.symbol "no", .string [0xFF, 0x29]])]
        fields := _
        order := List.reverse_perm _
        legible := by
          simp [Raw.Legible, Raw.decoded, Raw.itemsDecoded, Sexp.isName, Sexp.isSymbolChar]
        unknown := by decide }
    let second : RecordLayout :=
      { record := ⟨[], [0x66], 7, 1, [0xC3]⟩
        others := []
        fields := _
        order := List.Perm.refl _
        legible := by simp
        unknown := by simp }
    let reply : ReplyLayout :=
      { records := [first, second]
        before := [("version", .integer 2)]
        after := [("note", .string [0xF0, 0x9F])]
        legible := by simp [Raw.Legible, Raw.decoded, Sexp.isName, Sexp.isSymbolChar]
        quiet := by decide }
    tagRecords (decode (reply.bytes ++ [0x0D, 0x0A])) =
      .ok [⟨"a\uFFFD", "\"\\", 0, 18446744073709551615, "\uFFFD\"\x00"⟩,
        ⟨"", "f", 7, 1, "\uFFFD"⟩] := by
  intro first second reply
  rw [tagRecords_of_layout reply [0x0D, 0x0A]]
  exact congrArg Except.ok (by decide)

end Tagwire.Reply

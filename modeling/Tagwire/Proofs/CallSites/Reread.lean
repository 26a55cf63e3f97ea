import Mathlib
import Tagwire.Proofs.Etags.RoundTrip
import Tagwire.Proofs.Pattern.Captured
import Tagwire.Proofs.TagsFile.RoundTrip

/-! Call sites written as etags text, converted to a TAGS file and read again. -/

namespace Tagwire.CallSites

open Utf8
open TagsFile (Item Options kept literalText)

def shown (line : List UInt8) : String :=
  if 0 ∈ line then ""
  else decode (line.flatMap fun b =>
    if b = 0x7F then [0x5C, 0x30, 0x78, 0x37, 0x66]
    else if b = 0x01 then [0x5C, 0x30, 0x78, 0x30, 0x31] else [b])

def itemAt (o : Options) (line : List UInt8) (number start : Nat) (name : String) : Item where
  line := UInt64.ofNat number
  offset := UInt64.ofNat start
  descriptor := if o.callers then .call name else .generic name
  snippet := encode (shown line)

def lineItems (o : Options) (number start : Nat) (line : List UInt8) : List Item :=
  (names .call line).map (itemAt o line number start)

def lineStart (content : List UInt8) (i : Nat) : Nat :=
  ((Split.after Split.lineFeed content).take i).flatten.length

def callItems (o : Options) (content : List UInt8) : List Item :=
  ((Split.after Split.lineFeed content).mapIdx fun i line =>
    lineItems o (i + 1) (lineStart content i) (Split.chomp line)).flatten

lemma notMem_name {name : String} {line : List UInt8} (h : name ∈ names .call line) {c : Char}
    (hc : isWordByte (UInt8.ofNat c.toNat) = false) : c ∉ name.toList := by
  obtain ⟨g, rfl, hg⟩ := exists_of_mem_names h
  have hascii : ∀ b ∈ g, b.toNat < 0x80 := fun b hb => ascii_of_isWordByte (hg b hb)
  rw [decode, String.toList_ofList, decodeChars_ascii hascii]
  intro hmem
  obtain ⟨b, hb, he⟩ := List.mem_map.1 hmem
  rw [← byte_eq_of_char_eq (hascii b hb) he, hg b hb] at hc
  cases hc

lemma mem_escapeByte {b b' : UInt8} (h : b' ∈ escapeByte b) :
    b' ∈ encode "\\0x7f" ∨ b' ∈ encode "\\0x01" ∨ b' = b ∧ b ≠ 0x7F ∧ b ≠ 0x01 := by
  rw [escapeByte] at h
  split at h
  · exact .inl h
  split at h
  · exact .inr (.inl h)
  · next h₁ h₂ => exact .inr (.inr ⟨List.mem_singleton.1 h, h₁, h₂⟩)

-- The spelled-out separators hold printable characters only.
lemma mem_escapeSnippet {b : UInt8} (hb : b ∉ encode "\\0x7f" ∧ b ∉ encode "\\0x01")
    {line : List UInt8} (h : b ∈ escapeSnippet line) : b ∈ line ∧ b ≠ 0x7F ∧ b ≠ 0x01 := by
  obtain ⟨c, hc, hbc⟩ := List.mem_flatMap.1 h
  rcases mem_escapeByte hbc with h₁ | h₂ | ⟨rfl, hne⟩
  · exact absurd h₁ hb.1
  · exact absurd h₂ hb.2
  · exact ⟨hc, hne⟩

lemma zero_mem_escapeSnippet {line : List UInt8} : 0 ∈ escapeSnippet line ↔ 0 ∈ line := by
  constructor
  · exact fun h => (mem_escapeSnippet (by decide) h).1
  · exact fun h => List.mem_flatMap.2 ⟨0, h, by decide⟩

lemma literalText_escapeSnippet (line : List UInt8) :
    literalText (escapeSnippet line) = shown line := by
  have hspelled : escapeSnippet line = line.flatMap fun b =>
      if b = 0x7F then [0x5C, 0x30, 0x78, 0x37, 0x66]
      else if b = 0x01 then [0x5C, 0x30, 0x78, 0x30, 0x31] else [b] := rfl
  rw [literalText, shown, ← hspelled]
  simp only [List.contains_iff_mem, zero_mem_escapeSnippet]

lemma exists_of_mem_entriesFrom {p : Pattern} {n offset : Nat} {ls : List (List UInt8)}
    {e : Etags.Entry} (h : e ∈ entriesFrom p n offset ls) :
    ∃ line ∈ ls, e.snippet = escapeSnippet (Split.chomp line) ∧
      e.tag ∈ names p (Split.chomp line) := by
  induction ls generalizing n offset with
  | nil => cases h
  | cons line ls ih =>
    rcases List.mem_append.1 h with h | h
    · obtain ⟨name, hname, rfl⟩ := List.mem_map.1 h
      exact ⟨line, List.mem_cons_self, rfl, hname⟩
    · obtain ⟨l, hl, he⟩ := ih h
      exact ⟨l, List.mem_cons_of_mem line hl, he⟩

lemma clean_sectionOf {path : String} (hpath : '\n' ∉ path.toList) (content : List UInt8) :
    (sectionOf .call path content).Clean := by
  refine ⟨hpath, fun e he => ?_⟩
  obtain ⟨line, hline, hsnippet, hname⟩ := exists_of_mem_entriesFrom he
  have hfeed : Split.lineFeed ∉ Split.chomp line := Split.lineFeed_notMem_chomp hline
  refine ⟨?_, notMem_name hname (by decide), notMem_name hname (by decide)⟩
  rw [hsnippet]
  refine ⟨fun h => hfeed (mem_escapeSnippet (by decide) h).1, fun h => ?_, fun h => ?_⟩
  · exact (mem_escapeSnippet (by decide) h).2.1 rfl
  · exact (mem_escapeSnippet (by decide) h).2.2 rfl

lemma kept_name {name : String} {line : List UInt8} (h : name ∈ names .call line) :
    kept name = name := by
  have hzero := notMem_name h (c := '\x00') (by decide)
  rw [kept, if_neg (by simpa using hzero)]

lemma reread_entry (o : Options) {name : String} {line : List UInt8} (number start : Nat)
    (h : name ∈ names .call line) :
    Item.reread o ⟨escapeSnippet line, name, UInt64.ofNat number, UInt64.ofNat start⟩ =
      itemAt o line number start name := by
  simp only [Item.reread, itemAt, kept_name h, literalText_escapeSnippet]

lemma items_entriesOf (o : Options) (number start : Nat) (line : List UInt8) :
    (entriesOf .call line number start).map (Item.reread o) =
      lineItems o number start line := by
  rw [entriesOf, List.map_map, lineItems]
  exact List.map_congr_left fun name hname => reread_entry o number start hname

lemma items_entriesFrom (o : Options) (number start : Nat) (ls : List (List UInt8)) :
    (entriesFrom .call number start ls).map (Item.reread o) =
      (ls.mapIdx fun i line => lineItems o (number + i) (start + (ls.take i).flatten.length)
        (Split.chomp line)).flatten := by
  induction ls generalizing number start with
  | nil => rfl
  | cons line ls ih =>
    rw [entriesFrom, List.map_append, items_entriesOf, ih, List.mapIdx_cons, List.flatten_cons]
    simp [Nat.add_assoc, Nat.add_comm 1]

lemma items_sectionOf (o : Options) (path : String) (content : List UInt8) :
    (sectionOf .call path content).entries.map (Item.reread o) =
      callItems o content := by
  have h := items_entriesFrom o 1 0 (Split.after Split.lineFeed content)
  simpa [sectionOf, callItems, lineStart, Nat.add_comm 1] using h

/-- Where a line stands in its source: it starts after a line feed or at the front, and as many line
feeds come before it as its index says. Both numbers fit a word if the length of the source does. -/
structure StartsAt (content line : List UInt8) (i start : Nat) : Prop where
  text : line <+: content.drop start
  boundary : start = 0 ∨ content[start - 1]? = some 0x0A
  feeds : (content.take start).count 0x0A = i
  inside : start < content.length
  words : content.length < 2 ^ 64 →
    (UInt64.ofNat start).toNat = start ∧ (UInt64.ofNat (i + 1)).toNat = i + 1

lemma startsAt_append {before line rest : List UInt8}
    (hlast : before = [] ∨ before.getLast? = some 0x0A)
    (hlength : before.length < (before ++ (line ++ rest)).length) :
    StartsAt (before ++ (line ++ rest)) line (before.count 0x0A) before.length where
  text := by
    rw [List.drop_left]
    exact List.prefix_append line rest
  boundary := by
    rcases hlast with rfl | hlast
    · exact .inl rfl
    · have hpos : 0 < before.length := by
        cases before with
        | nil => cases hlast
        | cons b before => exact Nat.succ_pos _
      rw [List.getLast?_eq_getElem?] at hlast
      rw [List.getElem?_append_left (by omega)]
      exact .inr hlast
  feeds := by rw [List.take_left]
  inside := hlength
  words := by
    intro hlt
    have hcount : before.count 0x0A ≤ before.length := List.count_le_length
    have hsize : UInt64.size = 2 ^ 64 := rfl
    exact ⟨UInt64.toNat_ofNat_of_lt' (by omega), UInt64.toNat_ofNat_of_lt' (by omega)⟩

lemma startsAt_lineStart {content line : List UInt8} {i : Nat}
    (h : (Split.after Split.lineFeed content)[i]? = some line) :
    StartsAt content line i (lineStart content i) := by
  obtain ⟨hi, hline⟩ := List.getElem?_eq_some_iff.1 h
  obtain ⟨hlast, hcount, hlength⟩ := Split.after_take hi
  have hcut : ((Split.after Split.lineFeed content).take i).flatten ++
      (line ++ ((Split.after Split.lineFeed content).drop (i + 1)).flatten) = content := by
    rw [← List.flatten_cons, ← hline, List.cons_getElem_drop_succ, ← List.flatten_append,
      List.take_append_drop, Split.after_flatten]
  rw [lineStart]
  generalize ((Split.after Split.lineFeed content).take i).flatten = before at *
  generalize ((Split.after Split.lineFeed content).drop (i + 1)).flatten = rest at *
  subst hcut hcount
  exact startsAt_append hlast hlength

theorem reread_callSites (o : Options) (path : String) (content : List UInt8)
    (deleted : List String) (hpath : '\n' ∉ path.toList) :
    (∃ out, TagsFile.convert o deleted (sectionOf .call path content).bytes = .ok (1, out) ∧
      TagsFile.parse (decode out) = .ok {
        header := if o.withHeader then some (.new (kept o.corpus) o.timestamp) else none
        files := [⟨kept path, kept (o.languageOf path), callItems o content⟩]
        deleted := deleted.map kept }) ∧
    ∀ i line, (Split.after Split.lineFeed content)[i]? = some line →
      StartsAt content line i (lineStart content i) := by
  have hclean : Etags.Clean [sectionOf .call path content] :=
    List.forall_mem_singleton.2 (clean_sectionOf hpath content)
  have hetags := hclean.parse_bytes
  rw [Etags.bytes, List.flatMap_singleton] at hetags
  refine ⟨⟨_, by rw [TagsFile.convert, hetags]; rfl, ?_⟩, fun i line => startsAt_lineStart⟩
  rw [TagsFile.parse_ofEtags_bytes, TagsFile.reread, List.map_singleton, items_sectionOf]
  rfl

theorem reread_callSites_mixed :
    let content := encode "g(f(1), g);\r\n" ++ 0xE9 :: encode "9h(\x7F)"
    let o : Options := { callers := true, timestamp := 7 }
    '\n' ∉ "a\x00.c".toList ∧
    (∃ out, TagsFile.convert o ["x"] (sectionOf .call "a\x00.c" content).bytes = .ok (1, out) ∧
      TagsFile.parse (decode out) = .ok ⟨some ⟨2, "", 7, "google3"⟩, [⟨"", "c++",
        [⟨1, 0, .call "g", encode "g(f(1), g);"⟩, ⟨1, 0, .call "f", encode "g(f(1), g);"⟩,
          ⟨2, 13, .call "h", encode "\uFFFD9h(\\0x7f)"⟩]⟩], ["x"]⟩) ∧
    StartsAt content (0xE9 :: encode "9h(\x7F)") 1 13 := by
  intro content o
  have hpath : '\n' ∉ "a\x00.c".toList := by decide
  have hlines : Split.after Split.lineFeed content =
      [encode "g(f(1), g);\r\n", 0xE9 :: encode "9h(\x7F)"] := by decide
  have hfirst : names .call (Split.chomp (encode "g(f(1), g);\r\n")) = ["g", "f"] := by
    decide +kernel
  have hsecond : names .call (Split.chomp (0xE9 :: encode "9h(\x7F)")) = ["h"] := by
    decide +kernel
  have hshown : [shown (Split.chomp (encode "g(f(1), g);\r\n")),
      shown (Split.chomp (0xE9 :: encode "9h(\x7F)"))] = ["g(f(1), g);", "\uFFFD9h(\\0x7f)"] := by
    decide
  simp only [List.cons_eq_cons] at hshown
  obtain ⟨hshown₁, hshown₂, -⟩ := hshown
  have hitems : callItems o content =
      [⟨1, 0, .call "g", encode "g(f(1), g);"⟩, ⟨1, 0, .call "f", encode "g(f(1), g);"⟩,
        ⟨2, 13, .call "h", encode "\uFFFD9h(\\0x7f)"⟩] := by
    rw [callItems, hlines, List.mapIdx_cons, List.mapIdx_cons, List.mapIdx_nil, lineItems,
      lineItems, hfirst, hsecond]
    simp only [List.map_cons, List.map_nil, itemAt, hshown₁, hshown₂, lineStart, hlines]
    rfl
  obtain ⟨⟨out, hout, hparse⟩, hstarts⟩ := reread_callSites o "a\x00.c" content ["x"] hpath
  have hkept : [kept "a\x00.c", kept (o.languageOf "a\x00.c"), kept o.corpus, kept "x"] =
      ["", "c++", "google3", "x"] := by decide
  simp only [List.cons_eq_cons] at hkept
  obtain ⟨h₁, h₂, h₃, h₄, -⟩ := hkept
  rw [hitems, h₁, h₂, h₃, List.map_singleton, h₄] at hparse
  exact ⟨hpath, ⟨out, hout, hparse⟩, hstarts 1 _ (by rw [hlines]; rfl)⟩

end Tagwire.CallSites

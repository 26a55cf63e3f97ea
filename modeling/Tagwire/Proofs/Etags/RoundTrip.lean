import Mathlib
import Tagwire.Proofs.Etags.Lines

namespace Tagwire.Etags

open Utf8

structure Entry.Clean (e : Entry) : Prop where
  snippet : 0x0A ∉ e.snippet ∧ 0x7F ∉ e.snippet ∧ 0x01 ∉ e.snippet
  tag : '\n' ∉ e.tag.toList ∧ '\x01' ∉ e.tag.toList

structure Section.Clean (s : Section) : Prop where
  path : '\n' ∉ s.path.toList
  entries : ∀ e ∈ s.entries, e.Clean

def Clean (sections : List Section) : Prop :=
  ∀ s ∈ sections, s.Clean

instance (e : Entry) : Decidable e.Clean :=
  decidable_of_iff ((0x0A ∉ e.snippet ∧ 0x7F ∉ e.snippet ∧ 0x01 ∉ e.snippet) ∧
    '\n' ∉ e.tag.toList ∧ '\x01' ∉ e.tag.toList) ⟨fun h => ⟨h.1, h.2⟩, fun h => ⟨h.1, h.2⟩⟩

instance (s : Section) : Decidable s.Clean :=
  decidable_of_iff ('\n' ∉ s.path.toList ∧ ∀ e ∈ s.entries, e.Clean)
    ⟨fun h => ⟨h.1, h.2⟩, fun h => ⟨h.1, h.2⟩⟩

instance (sections : List Section) : Decidable (Clean sections) :=
  inferInstanceAs (Decidable (∀ s ∈ sections, s.Clean))

lemma lineFeed_notMem_encode {s : String} (h : '\n' ∉ s.toList) : Split.lineFeed ∉ encode s :=
  ascii_notMem_encode (by decide) h

lemma encode_text_ne_nil (n : Nat) : encode (Decimal.text n) ≠ [] := by
  intro h
  have hback := decode_encode (Decimal.text n)
  rw [h] at hback
  have hdigits : decodeChars [] = Decimal.digits n := by
    simpa [decode, Decimal.text] using congrArg String.toList hback
  exact Decimal.digits_ne_nil n hdigits.symm

lemma notMem_encode_text {b : UInt8} (hb : b.toNat < 0x80)
    (hdigit : (Char.ofNat b.toNat).isDigit = false) (n : Nat) : b ∉ encode (Decimal.text n) := by
  rw [ascii_mem_encode hb, Decimal.text, String.toList_ofList]
  exact Decimal.notMem_digits hdigit n

-- Every written line but the section mark ends in a number, so it never loses a carriage return.
lemma getLast?_encode_text (a : List UInt8) (n : Nat) :
    (a ++ encode (Decimal.text n)).getLast? ≠ some Split.carriageReturn :=
  Split.getLast?_append_ne (encode_text_ne_nil n) (notMem_encode_text (by decide) (by decide) n)

lemma Section.Clean.title_line {s : Section} (h : s.Clean) :
    Split.lineFeed ∉ s.title ∧ s.title.getLast? ≠ some Split.carriageReturn := by
  constructor
  · apply lineFeed_notMem_encode
    have hsize := Decimal.notMem_digits (c := '\n') (by decide) s.size.toNat
    simpa [Decimal.text, h.path] using hsize
  · rw [Section.title, encode_append]
    exact getLast?_encode_text _ _

lemma Entry.Clean.written_line {e : Entry} (h : e.Clean) :
    Split.lineFeed ∉ e.written ∧ e.written.getLast? ≠ some Split.carriageReturn := by
  constructor
  · have htag := lineFeed_notMem_encode h.tag.1
    have hplace : Split.lineFeed ∉ e.place := by
      apply lineFeed_notMem_encode
      have hline := Decimal.notMem_digits (c := '\n') (by decide) e.line.toNat
      have hoffset := Decimal.notMem_digits (c := '\n') (by decide) e.offset.toNat
      simp [Decimal.text, hline, hoffset]
    rw [Entry.written]
    simp only [List.mem_append, List.mem_cons, not_or]
    exact ⟨⟨h.snippet.1, by decide, htag⟩, by decide, hplace⟩
  · have hsplit : e.written = (e.snippet ++ snippetEnd :: encode e.tag) ++
        tagEnd :: encode (Decimal.text e.line.toNat ++ ",") ++
          encode (Decimal.text e.offset.toNat) := by
      simp [Entry.written, Entry.place, encode_append]
    rw [hsplit]
    exact getLast?_encode_text _ _

lemma Clean.written_lines {sections : List Section} (h : Clean sections) :
    ∀ l ∈ sections.flatMap Section.written,
      Split.lineFeed ∉ l ∧ l.getLast? ≠ some Split.carriageReturn := by
  intro l hl
  obtain ⟨s, hs, hl⟩ := List.mem_flatMap.1 hl
  rw [Section.written, List.mem_cons, List.mem_cons, List.mem_map] at hl
  rcases hl with rfl | rfl | ⟨e, he, rfl⟩
  · decide
  · exact (h s hs).title_line
  · exact ((h s hs).entries e he).written_line

namespace State

lemma lines_entries {n : Nat} {sec : Section} {before : List Section} {es : List Entry}
    (h : ∀ e ∈ es, e.Clean) :
    State.lines n ⟨sec :: before, false⟩ (es.map Entry.written) =
      .ok ⟨{ sec with entries := sec.entries ++ es } :: before, false⟩ := by
  induction es generalizing n sec with
  | nil => simp [lines]
  | cons e es ih =>
    obtain ⟨he, hes⟩ := List.forall_mem_cons.1 h
    have htag : tagEnd ∉ encode e.tag := ascii_notMem_encode (by decide) he.tag.2
    rw [List.map_cons, lines, line_entry he.snippet.2 htag]
    simp only [ih hes, Section.push, List.append_assoc, List.singleton_append]

lemma lines_section {n : Nat} (s : State) {sec : Section} (h : sec.Clean) :
    s.lines n sec.written = .ok ⟨sec :: s.sections, false⟩ := by
  rw [Section.written, lines, line_mark]
  simp only [lines, line_title, lines_entries h.entries, List.nil_append]

lemma lines_sections {n : Nat} {read sections : List Section} (h : Clean sections) :
    State.lines n ⟨read, false⟩ (sections.flatMap Section.written) =
      .ok ⟨sections.reverse ++ read, false⟩ := by
  induction sections generalizing n read with
  | nil => rfl
  | cons sec sections ih =>
    obtain ⟨hsec, hrest⟩ := List.forall_mem_cons.1 h
    rw [List.flatMap_cons, lines_append, lines_section _ hsec]
    simp only [Except.bind, ih hrest, List.reverse_cons, List.append_assoc, List.singleton_append]

end State

lemma Clean.parse_bytes {sections : List Section} (h : Clean sections) :
    parse (bytes sections) = .ok sections := by
  rw [parse, bytes_eq, Split.lines_flatMap h.written_lines, State.lines_sections h]
  simp [Except.map]

lemma notMem_decodeChars {bytes : List UInt8} {c : Char} (hpos : c.toNat ≠ 0) (hc : c.toNat < 0x80)
    (h : UInt8.ofNat c.toNat ∉ bytes) : c ∉ decodeChars bytes :=
  fun hmem => h (mem_run wide_none hpos hc hmem)

lemma clean_header {line : List UInt8} (hline : Split.lineFeed ∉ line) {sec : Section}
    (h : header line = .ok sec) : sec.Clean := by
  have htext : '\n' ∉ decodeChars line := notMem_decodeChars (by decide) (by decide) hline
  rw [header] at h
  split at h
  · cases h
  · next path size hsplit =>
    split at h
    · cases h
    · cases h
      refine ⟨?_, by simp⟩
      rw [(Split.atLast_spec hsplit).1, List.mem_append, not_or] at htext
      simpa using htext.1

lemma clean_entry {named place : List UInt8} (hnamed : tagEnd ∉ named)
    (hline : Split.lineFeed ∉ named) {e : Entry} (h : entry named place = .ok e) : e.Clean := by
  rw [entry] at h
  split at h
  · cases h
  · next snippet tag hsplit =>
    obtain ⟨rfl, hend⟩ := Split.atFirst_spec hsplit
    cases hp : position place with
    | error fault =>
      rw [hp] at h
      cases h
    | ok p =>
      rw [hp] at h
      cases h
      simp only [List.mem_append, List.mem_cons, not_or] at hnamed hline
      refine ⟨⟨hline.1, hend, hnamed.1⟩, ?_, ?_⟩
      · rw [decode, String.toList_ofList]
        exact notMem_decodeChars (by decide) (by decide) hline.2.2
      · rw [decode, String.toList_ofList]
        exact notMem_decodeChars (by decide) (by decide) hnamed.2.2

namespace State

lemma clean_line {s t : State} (hs : Clean s.sections) {l : List UInt8}
    (hl : Split.lineFeed ∉ l) (h : s.line l = .ok t) : Clean t.sections := by
  cases step_of_line h with
  | mark | passed => exact hs
  | header _ hsec => exact List.forall_mem_cons.2 ⟨clean_header hl hsec, hs⟩
  | @entry named place last before e hcut hsections he =>
    obtain ⟨rfl, hnamed⟩ := Split.atFirst_spec hcut
    rw [List.mem_append, not_or] at hl
    rw [hsections] at hs
    obtain ⟨hlast, hbefore⟩ := List.forall_mem_cons.1 hs
    refine List.forall_mem_cons.2 ⟨⟨hlast.path, ?_⟩, hbefore⟩
    rw [Section.push]
    exact List.forall_mem_append.2 ⟨hlast.entries,
      List.forall_mem_singleton.2 (clean_entry hnamed hl.1 he)⟩

lemma clean_lines {n : Nat} {s t : State} (hs : Clean s.sections) {ls : List (List UInt8)}
    (hls : ∀ l ∈ ls, Split.lineFeed ∉ l) (h : s.lines n ls = .ok t) : Clean t.sections := by
  induction ls generalizing n s with
  | nil =>
    cases h
    exact hs
  | cons l ls ih =>
    obtain ⟨hl, hrest⟩ := List.forall_mem_cons.1 hls
    rw [lines] at h
    cases hstep : s.line l with
    | error fault =>
      rw [hstep] at h
      cases h
    | ok s' =>
      rw [hstep] at h
      exact ih (clean_line hs hl hstep) hrest h

end State

lemma clean_of_parse {input : List UInt8} {sections : List Section}
    (h : parse input = .ok sections) : Clean sections := by
  rw [parse] at h
  cases hlines : State.lines 1 {} (Split.lines input) with
  | error cause =>
    rw [hlines] at h
    cases h
  | ok s =>
    rw [hlines] at h
    cases h
    have hclean := State.clean_lines (by simp [Clean])
      (fun l hl => Split.lineFeed_notMem_lines hl) hlines
    exact fun sec hsec => hclean sec (List.mem_reverse.1 hsec)

theorem parse_bytes_iff_clean (sections : List Section) :
    (parse (bytes sections) = .ok sections ↔ Clean sections) ∧
      ∀ input, parse input = .ok sections →
        Clean sections ∧ parse (bytes sections) = .ok sections := by
  refine ⟨⟨clean_of_parse, Clean.parse_bytes⟩, fun input h => ?_⟩
  have hclean := clean_of_parse h
  exact ⟨hclean, hclean.parse_bytes⟩

theorem parse_bytes_odd_names :
    let sections : List Section :=
      [⟨"a,\x0C\rb", 7, [⟨[0x0C, 0xE9, 0x0D], "t\x7Fg", 1, 18446744073709551615⟩]⟩, ⟨"", 0, []⟩]
    let input : List UInt8 := [0x0C, 0x0D, 0x0A] ++ encode "a,\x0C\rb, +007 \r\n" ++
      [0x0C, 0xE9, 0x0D, 0x7F] ++ encode "t\x7Fg\x011 ,18446744073709551615\r\nnothing\n\x0C\n,0"
    parse input = .ok sections ∧ Clean sections ∧ parse (bytes sections) = .ok sections := by
  intro sections input
  have hread : parse input = .ok sections := by decide
  exact ⟨hread, (parse_bytes_iff_clean sections).2 input hread⟩

end Tagwire.Etags

import Mathlib
import Tagwire.Etags
import Tagwire.Proofs.Text.Decimal
import Tagwire.Proofs.Text.Split
import Tagwire.Proofs.Text.Utf8
import Tagwire.Sexp.Reader

namespace Tagwire

namespace Blank

lemma trim_eq_self {cs : List Char} (h : ∀ c ∈ cs, isBlank c = false) : trim cs = cs := by
  have hstart (l : List Char) (hl : ∀ c ∈ l, isBlank c = false) : trimStart l = l := by
    cases l with
    | nil => rfl
    | cons c l => exact List.dropWhile_cons_of_neg (by simp [hl c List.mem_cons_self])
  rw [trim, trimEnd, hstart cs h, hstart cs.reverse fun c hc => h c (List.mem_reverse.1 hc),
    List.reverse_reverse]

lemma isBlank_of_isDigit {c : Char} (h : c.isDigit = true) : isBlank c = false := by
  have hc : 48 ≤ c.toNat ∧ c.toNat ≤ 57 := by
    simp only [Char.isDigit, Bool.and_eq_true, decide_eq_true_eq] at h
    exact h
  simp only [isBlank]
  generalize c.toNat = n at hc
  simp only [Bool.or_eq_false_iff, Bool.and_eq_false_iff, decide_eq_false_iff_not,
    beq_eq_false_iff_ne]
  omega

end Blank

namespace Etags

open Utf8

lemma number?_digits (n : UInt64) : number? (Decimal.digits n.toNat) = some n := by
  rw [number?, Blank.trim_eq_self fun c hc =>
    Blank.isBlank_of_isDigit (Decimal.isDigit_of_mem_digits hc), Decimal.word64?_digits]

def Entry.place (e : Entry) : List UInt8 :=
  encode (Decimal.text e.line.toNat ++ "," ++ Decimal.text e.offset.toNat)

def Entry.written (e : Entry) : List UInt8 :=
  (e.snippet ++ snippetEnd :: encode e.tag) ++ tagEnd :: e.place

def Section.title (s : Section) : List UInt8 :=
  encode (s.path ++ "," ++ Decimal.text s.size.toNat)

def Section.written (s : Section) : List (List UInt8) :=
  [sectionMark] :: s.title :: s.entries.map Entry.written

lemma Entry.bytes_eq (e : Entry) : e.bytes = e.written ++ [Split.lineFeed] := by
  have hfeed : encode "\n" = [Split.lineFeed] := by decide
  simp [Entry.bytes, Entry.written, Entry.place, encode_append, hfeed]

lemma Section.bytes_eq (s : Section) :
    s.bytes = s.written.flatMap (· ++ [Split.lineFeed]) := by
  have hfeed : encode "\n" = [Split.lineFeed] := by decide
  have hentries : s.entries.flatMap Entry.bytes =
      (s.entries.map Entry.written).flatMap (· ++ [Split.lineFeed]) := by
    rw [List.flatMap_map, funext Entry.bytes_eq]
  simp [Section.bytes, Section.written, Section.title, encode_append, hfeed, hentries]

lemma bytes_eq (sections : List Section) :
    bytes sections = (sections.flatMap Section.written).flatMap (· ++ [Split.lineFeed]) := by
  rw [bytes, List.flatMap_assoc, funext Section.bytes_eq]

lemma decodeChars_title (s : Section) :
    decodeChars s.title = s.path.toList ++ ',' :: Decimal.digits s.size.toNat := by
  have h := (decodes_encode (s.path ++ "," ++ Decimal.text s.size.toNat)).decodeChars_eq
  simpa [Section.title, Decimal.text] using h

lemma header_title (s : Section) : header s.title = .ok { s with entries := [] } := by
  rw [header, decodeChars_title, Split.atLast_append _ (Decimal.notMem_digits (by decide) _)]
  simp only [number?_digits, String.ofList_toList]

lemma decodeChars_place (e : Entry) :
    decodeChars e.place =
      Decimal.digits e.line.toNat ++ ',' :: Decimal.digits e.offset.toNat := by
  have h := (decodes_encode
    (Decimal.text e.line.toNat ++ "," ++ Decimal.text e.offset.toNat)).decodeChars_eq
  simpa [Entry.place, Decimal.text] using h

lemma position_place (e : Entry) : position e.place = .ok (e.line, e.offset) := by
  rw [position, decodeChars_place, Split.atFirst_append (Decimal.notMem_digits (by decide) _)]
  simp only [number?_digits]

lemma entry_written {e : Entry} (h : snippetEnd ∉ e.snippet) :
    entry (e.snippet ++ snippetEnd :: encode e.tag) e.place = .ok e := by
  rw [entry, Split.atFirst_append h]
  simp only [position_place, Except.map, decode_encode]

namespace State

lemma line_mark (s : State) : s.line [sectionMark] = .ok { s with headerNext := true } :=
  if_pos rfl

lemma line_title {s : State} (hs : s.headerNext = true) (sec : Section) :
    s.line sec.title = .ok ⟨{ sec with entries := [] } :: s.sections, false⟩ := by
  have hmark : sec.title ≠ [sectionMark] := by
    intro h
    have hcomma : (0x2C : UInt8) ∈ sec.title :=
      (ascii_mem_encode (by decide)).2 (by simp)
    rw [h] at hcomma
    exact absurd hcomma (by decide)
  rw [line, if_neg hmark, if_pos hs, header_title]
  rfl

lemma line_entry {last : Section} {before : List Section} {e : Entry}
    (hsnippet : snippetEnd ∉ e.snippet ∧ tagEnd ∉ e.snippet) (htag : tagEnd ∉ encode e.tag) :
    State.line ⟨last :: before, false⟩ e.written = .ok ⟨last.push e :: before, false⟩ := by
  have hmark : e.written ≠ [sectionMark] := by
    intro h
    have hend : snippetEnd ∈ e.written := by simp [Entry.written]
    rw [h] at hend
    exact absurd hend (by decide)
  have hnamed : tagEnd ∉ e.snippet ++ snippetEnd :: encode e.tag := by
    rw [List.mem_append, List.mem_cons]
    rintro (h | h | h)
    · exact hsnippet.2 h
    · exact absurd h (by decide)
    · exact htag h
  rw [line, if_neg hmark, if_neg (by simp), Entry.written, Split.atFirst_append hnamed]
  simp only [entry_written hsnippet.1, Except.map]

inductive Step (s : State) (l : List UInt8) : State → Prop
  | mark : l = [sectionMark] → Step s l { s with headerNext := true }
  | header {sec : Section} : s.headerNext = true → Etags.header l = .ok sec →
      Step s l ⟨sec :: s.sections, false⟩
  | passed : s.headerNext = false → Split.atFirst tagEnd l = none → Step s l s
  | entry {named place : List UInt8} {last : Section} {before : List Section} {e : Entry} :
      Split.atFirst tagEnd l = some (named, place) → s.sections = last :: before →
      Etags.entry named place = .ok e → Step s l ⟨last.push e :: before, false⟩

lemma step_of_line {s t : State} {l : List UInt8} (h : s.line l = .ok t) : Step s l t := by
  rw [line] at h
  split at h
  · next hmark => exact Except.ok.inj h ▸ .mark hmark
  split at h
  · next hnext =>
    obtain ⟨sec, hsec, rfl⟩ := Sexp.Reader.map_eq_ok.1 h
    exact .header hnext hsec
  · next hnext =>
    split at h
    · next hnone => exact Except.ok.inj h ▸ .passed (Bool.eq_false_of_not_eq_true hnext) hnone
    · next hcut =>
      split at h
      · cases h
      · next hsections =>
        obtain ⟨e, he, rfl⟩ := Sexp.Reader.map_eq_ok.1 h
        exact .entry hcut hsections he

lemma lines_append (n : Nat) (s : State) (ls more : List (List UInt8)) :
    s.lines n (ls ++ more) = (s.lines n ls).bind fun t => t.lines (n + ls.length) more := by
  induction ls generalizing n s with
  | nil => rfl
  | cons l ls ih =>
    rw [List.cons_append, lines, lines]
    cases s.line l with
    | error fault => rfl
    | ok t =>
      rw [List.length_cons, Nat.add_comm ls.length 1, ← Nat.add_assoc]
      exact ih (n + 1) t

end State

end Etags

end Tagwire

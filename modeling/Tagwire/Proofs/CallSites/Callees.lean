import Mathlib
import Tagwire.Proofs.Pattern.Captured
import Tagwire.Proofs.Pattern.Named
import Tagwire.Proofs.Text.Pieces

/-! The calls on a line, read off its parentheses. -/

namespace Tagwire.CallSites

open Utf8 (Piece)
open Pattern (nameAfter namesBefore)

def isDigitByte (b : UInt8) : Bool :=
  0x30 ≤ b && b ≤ 0x39

/-- The longest run of word bytes at the end of some bytes, without its leading digits. -/
def nameAtEnd (before : List UInt8) : List UInt8 :=
  (before.rtakeWhile isWordByte).dropWhile isDigitByte

def parentheses (s : List UInt8) : List Nat :=
  (List.range s.length).filter fun i => s[i]? = some 0x28

def callees (s : List UInt8) : List (List UInt8) :=
  ((parentheses s).map fun i => nameAtEnd (s.take i)).filter (· ≠ [])

def asciiText (bytes : List UInt8) : String :=
  String.ofList (bytes.map fun b => Char.ofNat b.toNat)

def initials : CharSet := .ranges [(0x61, 0x7A), (0x41, 0x5A), (0x5F, 0x5F)]

def wordBytes : CharSet := .ranges [(0x61, 0x7A), (0x41, 0x5A), (0x30, 0x39), (0x5F, 0x5F)]

def opening : CharSet := .single '('

lemma call_eq : Pattern.call = .named initials wordBytes opening := rfl

lemma admits_ascii {b : UInt8} (hb : b.toNat < 0x80) :
    initials.admits (.char (Char.ofNat b.toNat)) = (isWordByte b && !isDigitByte b) ∧
      wordBytes.admits (.char (Char.ofNat b.toNat)) = isWordByte b ∧
      opening.admits (.char (Char.ofNat b.toNat)) = decide (b = 0x28) := by
  have hall : ∀ n < 0x80,
      initials.admits (.char (Char.ofNat n)) =
          (isWordByte (UInt8.ofNat n) && !isDigitByte (UInt8.ofNat n)) ∧
        wordBytes.admits (.char (Char.ofNat n)) = isWordByte (UInt8.ofNat n) ∧
        opening.admits (.char (Char.ofNat n)) = decide (UInt8.ofNat n = 0x28) := by
    decide +kernel
  have h := hall b.toNat hb
  rwa [UInt8.ofNat_toNat] at h

lemma admits_ranges {table : Ranges.Table} {c : Char} :
    (CharSet.ranges table).admits (.char c) = true ↔
      ∃ r ∈ table, r.1 ≤ c.toNat ∧ c.toNat ≤ r.2 := by
  rw [CharSet.admits, CharSet.holds, Ranges.Table.holds, List.any_eq_true]
  simp only [Bool.and_eq_true, decide_eq_true_iff]

lemma named_call : Pattern.Named initials wordBytes opening where
  ne := by decide
  inner piece h := by
    cases piece with
    | stray b => cases h
    | char c =>
      obtain ⟨r, hr, hc⟩ := admits_ranges.1 h
      have hsubset : [(0x61, 0x7A), (0x41, 0x5A), (0x5F, 0x5F)] ⊆
        [(0x61, 0x7A), (0x41, 0x5A), (0x30, 0x39), (0x5F, 0x5F)] := by decide
      exact admits_ranges.2 ⟨r, hsubset hr, hc⟩
  closing piece h := by
    cases piece with
    | stray b => rfl
    | char c =>
      obtain ⟨r, hr, hc⟩ := admits_ranges.1 h
      have hbeyond : ∀ r ∈ [(0x61, 0x7A), (0x41, 0x5A), (0x30, 0x39), (0x5F, 0x5F)],
        0x28 < r.1 := by decide
      apply Bool.eq_false_iff.2
      intro hopening
      obtain ⟨r', hr', hc'⟩ := admits_ranges.1 hopening
      obtain rfl := List.mem_singleton.1 hr'
      exact absurd (hc.1.trans hc'.2) (Nat.not_le.2 (hbeyond r hr))

lemma not_admits_wide {table : Ranges.Table} (htable : ∀ r ∈ table, 0 < r.1 ∧ r.2 < 0x80)
    {piece : Piece} (h : piece.Wide) : (CharSet.ranges table).admits piece = false := by
  cases piece with
  | stray b => rfl
  | char c =>
    apply Bool.eq_false_iff.2
    intro hadmits
    obtain ⟨r, hr, hlow, hhigh⟩ := admits_ranges.1 hadmits
    obtain ⟨hpos, hlt⟩ := htable r hr
    obtain ⟨n, hn, hc⟩ := h
    exact Utf8.ofNat_ne_of_ascii hn (by omega) (by omega) hc.symm

lemma nameAtEnd_concat (s : List UInt8) (b : UInt8) :
    nameAtEnd (s ++ [b]) = if isWordByte b then
      if nameAtEnd s = [] ∧ isDigitByte b = true then [] else nameAtEnd s ++ [b] else [] := by
  rw [nameAtEnd, nameAtEnd, List.rtakeWhile_concat]
  split
  · rw [List.dropWhile_append]
    by_cases hname : (s.rtakeWhile isWordByte).dropWhile isDigitByte = []
    · rw [if_pos (List.isEmpty_iff.2 hname), hname]
      simp [List.dropWhile_cons]
    · simp [hname]
  · rfl

lemma parentheses_concat (s : List UInt8) (b : UInt8) :
    parentheses (s ++ [b]) = parentheses s ++ if b = 0x28 then [s.length] else [] := by
  have hbefore : (List.range s.length).filter (fun i => (s ++ [b])[i]? = some 0x28) =
      parentheses s := by
    apply List.filter_congr
    intro i hi
    rw [List.getElem?_append_left (List.mem_range.1 hi)]
  rw [parentheses, List.length_append, List.length_singleton, List.range_succ, List.filter_append,
    hbefore, List.filter_singleton, List.getElem?_concat_length]
  simp

lemma callees_concat (s : List UInt8) (b : UInt8) :
    callees (s ++ [b]) =
      callees s ++ if b = 0x28 ∧ nameAtEnd s ≠ [] then [nameAtEnd s] else [] := by
  have hbefore : (parentheses s).map (fun i => nameAtEnd ((s ++ [b]).take i)) =
      (parentheses s).map fun i => nameAtEnd (s.take i) := by
    apply List.map_congr_left
    intro i hi
    have hlt := List.mem_range.1 (List.mem_of_mem_filter hi)
    rw [List.take_append_of_le_length hlt.le]
  rw [callees, parentheses_concat, List.map_append, hbefore, List.filter_append, ← callees]
  by_cases hb : b = 0x28
  · simp [hb, List.filter_singleton]
  · simp [hb]

def nameOf (s : List UInt8) : Option (List UInt8) :=
  if nameAtEnd s = [] then none else some (nameAtEnd s).reverse

lemma nameOf_concat {b : UInt8} (hb : b.toNat < 0x80) (s : List UInt8) :
    nameOf (s ++ [b]) =
      nameAfter initials wordBytes (.char (Char.ofNat b.toNat)) (nameOf s) := by
  obtain ⟨hinitial, hword, -⟩ := admits_ascii hb
  have hbytes : (Piece.char (Char.ofNat b.toNat)).bytes = [b] := Utf8.encodeChar_ascii hb
  rw [nameOf, nameOf, nameAtEnd_concat]
  by_cases hname : nameAtEnd s = []
  · rw [if_pos hname, nameAfter, hinitial, hbytes, hname]
    cases isWordByte b <;> cases isDigitByte b <;> simp
  · rw [if_neg hname, nameAfter, hword, hbytes]
    cases isWordByte b <;> simp [hname]

lemma isWordByte_of_wide {b : UInt8} (hb : 0x80 ≤ b.toNat) : isWordByte b = false := by
  apply Bool.eq_false_iff.2
  intro hword
  exact absurd (ascii_of_isWordByte hword) (Nat.not_lt.2 hb)

lemma nameOf_wide {block : List UInt8} (hne : block ≠ []) (hwide : ∀ b ∈ block, 0x80 ≤ b.toNat)
    (s : List UInt8) : nameOf (s ++ block) = none := by
  obtain ⟨front, b, rfl⟩ := (List.eq_nil_or_concat' block).resolve_left hne
  have hb := isWordByte_of_wide (hwide b (by simp))
  rw [nameOf, ← List.append_assoc, nameAtEnd_concat, hb]
  rfl

lemma callees_wide {block : List UInt8} (hwide : ∀ b ∈ block, 0x80 ≤ b.toNat) (s : List UInt8) :
    callees (s ++ block) = callees s := by
  induction block using List.reverseRecOn with
  | nil => rw [List.append_nil]
  | append_singleton block b ih =>
    obtain ⟨hblock, hb⟩ := List.forall_mem_append.1 hwide
    have hopening : b ≠ 0x28 := by
      rintro rfl
      exact absurd (hb 0x28 List.mem_cons_self) (by decide)
    rw [← List.append_assoc, callees_concat, if_neg fun h => hopening h.1, List.append_nil,
      ih hblock]

lemma callees_append (before s : List UInt8) :
    callees before ++ namesBefore initials wordBytes opening (nameOf before) (Utf8.pieces s) =
      callees (before ++ s) := by
  induction s using Utf8.pieces_induction generalizing before with
  | nil => rw [namesBefore, List.append_nil, List.append_nil]
  | ascii b rest hb ih =>
    obtain ⟨-, -, hopening⟩ := admits_ascii hb
    have hname : (if opening.admits (.char (Char.ofNat b.toNat)) then
        ((nameOf before).map List.reverse).toList else []) =
          if b = 0x28 ∧ nameAtEnd before ≠ [] then [nameAtEnd before] else [] := by
      rw [hopening, nameOf]
      by_cases hb : b = 0x28 <;> by_cases hend : nameAtEnd before = [] <;> simp [hb, hend]
    rw [namesBefore, hname, ← nameOf_concat hb, ← List.append_assoc, ← callees_concat, ih,
      List.append_assoc, List.singleton_append]
  | wide piece block rest hfront ih =>
    have hinitial : initials.admits piece = false := not_admits_wide (by decide) hfront.piece
    have hword : wordBytes.admits piece = false := not_admits_wide (by decide) hfront.piece
    have hopening : opening.admits piece = false := not_admits_wide (by decide) hfront.piece
    have hafter :
        nameAfter initials wordBytes piece (nameOf before) = nameOf (before ++ block) := by
      rw [nameOf_wide hfront.ne_nil hfront.wide]
      cases nameOf before <;> simp [nameAfter, hinitial, hword]
    rw [namesBefore, hopening, hafter, if_neg Bool.false_ne_true, List.nil_append,
      ← callees_wide hfront.wide before, ih, List.append_assoc]

lemma groups_call (line : List UInt8) : Pattern.call.groups line = callees line := by
  rw [call_eq, Pattern.groups_named named_call]
  exact callees_append [] line

lemma encode_asciiText {g : List UInt8} (hg : ∀ b ∈ g, b.toNat < 0x80) :
    Utf8.encode (asciiText g) = g := by
  rw [Utf8.encode, asciiText, String.toList_ofList]
  induction g with
  | nil => rfl
  | cons b g ih =>
    obtain ⟨hb, hrest⟩ := List.forall_mem_cons.1 hg
    rw [List.map_cons, Utf8.encodeChars, List.flatMap_cons, Utf8.encodeChar_ascii hb]
    exact congrArg (b :: ·) (ih hrest)

lemma eraseDups_map {α β : Type} [BEq α] [LawfulBEq α] [BEq β] [LawfulBEq β] {f : α → β}
    {l : List α} (hf : ∀ a ∈ l, ∀ b ∈ l, f a = f b → a = b) :
    (l.map f).eraseDups = l.eraseDups.map f := by
  induction hn : l.length using Nat.strong_induction_on generalizing l with
  | _ n ih =>
    cases l with
    | nil => rfl
    | cons a l =>
      obtain ⟨ha, hl⟩ := List.forall_mem_cons.1 hf
      have hothers : (l.map f).filter (fun b => !b == f a) = (l.filter fun b => !b == a).map f := by
        rw [List.filter_map]
        apply congrArg (List.map f)
        apply List.filter_congr
        intro b hb
        have hiff : f b = f a ↔ b = a :=
          ⟨hl b hb a List.mem_cons_self, congrArg f⟩
        rw [Function.comp_apply, Bool.eq_iff_iff, Bool.not_eq_true', Bool.not_eq_true',
          beq_eq_false_iff_ne, beq_eq_false_iff_ne, ne_eq, ne_eq, hiff]
      have hlength : (l.filter fun b => !b == a).length < n := by
        rw [← hn]
        exact Nat.lt_succ_of_le (List.length_filter_le _ l)
      have hrest := ih _ hlength (fun b hb c hc => hl b (List.mem_of_mem_filter hb) c
        (List.mem_cons_of_mem a (List.mem_of_mem_filter hc))) rfl
      rw [List.map_cons, List.eraseDups_cons, List.eraseDups_cons, hothers, hrest, List.map_cons]

theorem names_call_eq_callees (line : List UInt8) :
    names .call line = ((callees line).map asciiText).eraseDups := by
  have hascii : ∀ g ∈ callees line, ∀ b ∈ g, b.toNat < 0x80 := by
    intro g hg b hb
    rw [← groups_call] at hg
    exact ascii_of_isWordByte (Pattern.groups_within call_allows hg b hb)
  have hinj : ∀ g ∈ callees line, ∀ g' ∈ callees line, asciiText g = asciiText g' → g = g' := by
    intro g hg g' hg' h
    rw [← encode_asciiText (hascii g hg), h, encode_asciiText (hascii g' hg')]
  rw [names, groups_call, eraseDups_map hinj]
  apply List.map_congr_left
  intro g hg
  rw [Utf8.decode, Utf8.decodeChars_ascii (hascii g (List.mem_eraseDups.1 hg))]
  rfl

example : names .call (Utf8.encode "if (9f(x), é_1((g) + _1(") = ["f", "_1"] := by
  decide +kernel

end Tagwire.CallSites

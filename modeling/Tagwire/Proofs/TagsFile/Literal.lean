import Mathlib
import Tagwire.Proofs.Sexp.Spelling
import Tagwire.Proofs.Text.Utf8
import Tagwire.TagsFile

namespace Tagwire.TagsFile

open Utf8

lemma escape_eq_self {cs : List Char} (h : ∀ c ∈ cs, c ≠ '\\' ∧ c ≠ '"') :
    Sexp.escape cs = cs := by
  induction cs with
  | nil => rfl
  | cons c cs ih =>
    obtain ⟨⟨hback, hquote⟩, hcs⟩ := List.forall_mem_cons.1 h
    rw [Sexp.escape, if_neg (by simp [hback, hquote]), ih hcs]

lemma escape_finish (state : Option Pending) : Sexp.escape (finish state) = finish state := by
  cases state <;> rfl

lemma step_plain {state : Option Pending} (hs : Wide state) {b : UInt8}
    (hb : ¬ (b = 0x5C ∨ b = 0x22)) : ∀ c ∈ (step state b).1, c ≠ '\\' ∧ c ≠ '"' := by
  intro c hc
  rcases mem_step hs hc with ⟨hlt, rfl⟩ | ⟨n, hn, rfl⟩
  · exact ⟨fun he => hb (.inl (byte_eq_of_char_eq hlt he)),
      fun he => hb (.inr (byte_eq_of_char_eq hlt he))⟩
  · exact ⟨ofNat_ne_of_ascii hn (by decide) (by decide),
      ofNat_ne_of_ascii hn (by decide) (by decide)⟩

lemma run_escapeBytes {state : Option Pending} (hs : Wide state) (bytes : List UInt8) :
    run state (escapeBytes bytes) = Sexp.escape (run state bytes) := by
  induction bytes generalizing state with
  | nil => exact (escape_finish state).symm
  | cons b bytes ih =>
    by_cases hb : b = 0x5C ∨ b = 0x22
    · -- the escaping backslash cuts off a sequence in progress as the byte itself would
      have hlt : b.toNat < 0x80 := by rcases hb with rfl | rfl <;> decide
      have hesc : Char.ofNat b.toNat = '\\' ∨ Char.ofNat b.toNat = '"' := by
        rcases hb with rfl | rfl
        · exact .inl rfl
        · exact .inr rfl
      rw [escapeBytes, if_pos hb, run_ascii hs (by decide), run_ascii wide_none hlt,
        run_ascii hs hlt, ih wide_none, Sexp.escape_append, escape_finish, Sexp.escape,
        if_pos hesc, finish, List.nil_append]
      rfl
    · rw [escapeBytes, if_neg hb, run_cons, run_cons, ih (step_wide hs b), Sexp.escape_append,
        escape_eq_self (step_plain hs hb)]

lemma decodes_quoted (bytes : List UInt8) :
    Decodes (0x22 :: (escapeBytes bytes ++ [0x22])) (Sexp.quoteChars (decodeChars bytes)) := by
  intro rest
  rw [List.cons_append, run_ascii wide_none (by decide), List.append_assoc, List.singleton_append,
    run_append_ascii wide_none _ (by decide), run_escapeBytes wide_none, Sexp.quoteChars]
  simp [finish, decodeChars]

def literalText (bytes : List UInt8) : String :=
  if bytes.contains 0 then "" else decode bytes

lemma decodes_literal (bytes : List UInt8) :
    Decodes (literal bytes) (Sexp.quoteChars (literalText bytes).toList) := by
  unfold literal literalText
  split
  · exact fun rest => rfl
  · rw [decode, String.toList_ofList]
    exact decodes_quoted bytes

def kept (s : String) : String :=
  if s.toList.contains '\x00' then "" else s

lemma literalText_encode (s : String) : literalText (encode s) = kept s := by
  have hzero : (encode s).contains 0 = s.toList.contains '\x00' := by
    rw [Bool.eq_iff_iff, List.contains_iff_mem, List.contains_iff_mem,
      ascii_mem_encode (by decide)]
    rfl
  rw [literalText, hzero, decode_encode, kept]

lemma decodes_textLiteral (s : String) :
    Decodes (textLiteral s) (Sexp.quoteChars (kept s).toList) := by
  rw [← literalText_encode]
  exact decodes_literal _

end Tagwire.TagsFile

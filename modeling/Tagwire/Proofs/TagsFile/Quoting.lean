import Mathlib
import Tagwire.Proofs.TagsFile.Literal
import Tagwire.Proofs.Text.Lossy

namespace Tagwire.TagsFile

open Utf8

lemma escapeBytes_append (s t : List UInt8) :
    escapeBytes (s ++ t) = escapeBytes s ++ escapeBytes t := by
  induction s with
  | nil => rfl
  | cons b s ih => by_cases h : b = 0x5C ∨ b = 0x22 <;> simp [escapeBytes, h, ih]

lemma escapeBytes_eq_self {bytes : List UInt8} (h : ∀ b ∈ bytes, b ≠ 0x5C ∧ b ≠ 0x22) :
    escapeBytes bytes = bytes := by
  induction bytes with
  | nil => rfl
  | cons b bytes ih =>
    obtain ⟨⟨hback, hquote⟩, hbytes⟩ := List.forall_mem_cons.1 h
    rw [escapeBytes, if_neg (by simp [hback, hquote]), ih hbytes]

lemma escapeBytes_encodeChar (c : Char) :
    escapeBytes (encodeChar c) = encodeChars (Sexp.escape [c]) := by
  by_cases hc : c = '\\' ∨ c = '"'
  · rcases hc with rfl | rfl <;> rfl
  · obtain ⟨hback, hquote⟩ := not_or.1 hc
    rw [Sexp.escape, if_neg hc, escapeBytes_eq_self]
    · simp [Sexp.escape, encodeChars]
    · intro b hb
      refine ⟨?_, ?_⟩
      · rintro rfl
        exact hback ((ascii_mem_encodeChar (by decide)).1 hb)
      · rintro rfl
        exact hquote ((ascii_mem_encodeChar (by decide)).1 hb)

lemma escapeBytes_encodeChars (cs : List Char) :
    escapeBytes (encodeChars cs) = encodeChars (Sexp.escape cs) := by
  induction cs with
  | nil => rfl
  | cons c cs ih =>
    have hescape := Sexp.escape_append [c] cs
    rw [List.singleton_append] at hescape
    rw [hescape, encodeChars_append, ← ih, ← escapeBytes_encodeChar, ← escapeBytes_append]
    rfl

lemma literal_of_notMem {bytes : List UInt8} (h : 0 ∉ bytes) :
    literal bytes = 0x22 :: (escapeBytes bytes ++ [0x22]) := by
  rw [literal, if_neg (by simpa using h)]

lemma decode_literal {bytes : List UInt8} (h : 0 ∉ bytes) :
    decode (literal bytes) = Sexp.quote (decode bytes) := by
  rw [literal_of_notMem h, decode, (decodes_quoted bytes).decodeChars_eq, Sexp.quote, decode,
    String.toList_ofList]

lemma literal_encode {s : String} (h : '\x00' ∉ s.toList) :
    literal (encode s) = encode (Sexp.quote s) := by
  have hzero : 0 ∉ encode s := ascii_notMem_encode (by decide) h
  rw [literal_of_notMem hzero, encode, escapeBytes_encodeChars, encode, Sexp.quote,
    String.toList_ofList, Sexp.quoteChars]
  simp [encodeChars, encodeChar]

lemma decode_append_ascii (before after : List UInt8) {b : UInt8} (h : b.toNat < 0x80) :
    decode (before ++ [b] ++ after) =
      decode before ++ String.singleton (Char.ofNat b.toNat) ++ decode after := by
  apply String.toList_inj.1
  rw [List.append_assoc, List.singleton_append, decode, decodeChars,
    run_append_ascii wide_none before h]
  simp [decode, decodeChars]

theorem literal_decodes_to_quote :
    (∀ bytes, 0 ∉ bytes → decode (literal bytes) = Sexp.quote (decode bytes)) ∧
    (∀ s : String, '\x00' ∉ s.toList → literal (encode s) = encode (Sexp.quote s)) ∧
    (∀ (before after : List UInt8) (b : UInt8), b.toNat < 0x80 →
      decode (before ++ [b] ++ after) =
        decode before ++ String.singleton (Char.ofNat b.toNat) ++ decode after) ∧
    ∀ bytes cs, Lossy bytes cs ↔ decode bytes = String.ofList cs := by
  refine ⟨fun _ => decode_literal, fun _ => literal_encode,
    fun before after b => decode_append_ascii before after, fun bytes cs => ?_⟩
  rw [lossy_iff, decode, String.ofList_inj, eq_comm]

theorem literal_decodes_to_quote_damaged :
    let bytes : List UInt8 := [0xF0, 0x9F, 0x22, 0xC3, 0x5C, 0x80]
    0 ∉ bytes ∧ decode (literal bytes) = "\"\uFFFD\\\"\uFFFD\\\\\uFFFD\"" ∧
      '\x00' ∉ "é\"".toList ∧ literal (encode "é\"") = encode "\"é\\\"\"" ∧
      decode ([0xF0, 0x9F] ++ [0x22] ++ [0xC3]) = "\uFFFD\"\uFFFD" := by
  intro bytes
  obtain ⟨hbytes, htext, hcut, -⟩ := literal_decodes_to_quote
  have hzero : 0 ∉ bytes := by decide
  have hnul : '\x00' ∉ "é\"".toList := by decide
  refine ⟨hzero, ?_, hnul, ?_, ?_⟩
  · rw [hbytes bytes hzero]
    decide
  · rw [htext "é\"" hnul]
    decide
  · rw [hcut [0xF0, 0x9F] [0xC3] 0x22 (by decide)]
    decide

end Tagwire.TagsFile

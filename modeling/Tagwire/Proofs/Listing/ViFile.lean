import Mathlib
import Tagwire.Render
import Tagwire.Text.Split
import Tagwire.Proofs.Text.Decimal
import Tagwire.Proofs.Text.Utf8

namespace Tagwire.Listing

def tab : UInt8 := 0x09

def Unbroken (s : String) : Prop :=
  '\t' ∉ s.toList ∧ '\n' ∉ s.toList

instance (s : String) : Decidable (Unbroken s) :=
  inferInstanceAs (Decidable (_ ∧ _))

lemma Unbroken.append {s t : String} (hs : Unbroken s) (ht : Unbroken t) : Unbroken (s ++ t) := by
  simp only [Unbroken, String.toList_append, List.mem_append, not_or]
  exact ⟨⟨hs.1, ht.1⟩, hs.2, ht.2⟩

lemma unbroken_decimal (n : Nat) : Unbroken (Decimal.text n) := by
  simp only [Unbroken, Decimal.text, String.toList_ofList]
  exact ⟨Decimal.notMem_digits (by decide) n, Decimal.notMem_digits (by decide) n⟩

lemma Unbroken.tab_notMem {s : String} (h : Unbroken s) : tab ∉ Utf8.encode s :=
  Utf8.ascii_notMem_encode (by decide) h.1

lemma stripScheme?_scheme (name : String) : stripScheme? (scheme ++ name) = some name := by
  have hprefix : scheme.toList.isPrefixOf (scheme ++ name).toList = true := by
    rw [String.toList_append, List.isPrefixOf_iff_prefix]
    exact List.prefix_append _ _
  rw [stripScheme?, if_pos hprefix, String.toList_append, ← String.length_toList,
    List.drop_left, String.ofList_toList]

def fields (t : TagRecord) : List String :=
  [t.tag, scheme ++ t.filename, Decimal.text t.line.toNat]

section Line

variable {t : TagRecord} (htag : Unbroken t.tag) (hfile : Unbroken t.filename)
include htag hfile

lemma unbroken_fields : ∀ field ∈ fields t, Unbroken field := by
  have hscheme : Unbroken scheme := by decide
  simp only [fields, List.forall_mem_cons]
  exact ⟨htag, hscheme.append hfile, unbroken_decimal _, by simp⟩

lemma splitOn_vi : (Utf8.encode (vi t)).splitOn tab = (fields t).map Utf8.encode := by
  have hjoined : Utf8.encode (vi t) = [tab].intercalate ((fields t).map Utf8.encode) := by
    have htab : Utf8.encode "\t" = [tab] := rfl
    simp [vi, fields, Utf8.encode_append, htab, List.intercalate]
  rw [hjoined]
  refine List.splitOn_intercalate tab ?_ (by simp [fields])
  intro bytes hbytes
  obtain ⟨field, hfield, rfl⟩ := List.mem_map.1 hbytes
  exact (unbroken_fields htag hfile field hfield).tab_notMem

lemma lineFeed_notMem_vi : Split.lineFeed ∉ Utf8.encode (vi t) := by
  have hscheme : '\n' ∉ scheme.toList := by decide
  have hnumber := (unbroken_decimal t.line.toNat).2
  refine Utf8.ascii_notMem_encode (by decide) ?_
  change '\n' ∉ _
  simp [vi, htag.2, hscheme, hfile.2, hnumber]

end Line

lemma splitOn_viFile {tags : List TagRecord}
    (h : ∀ t ∈ tags, Unbroken t.tag ∧ Unbroken t.filename) :
    (viFile tags).splitOn Split.lineFeed = (tags.map fun t => Utf8.encode (vi t)) ++ [[]] := by
  induction tags with
  | nil => rfl
  | cons t tags ih =>
    obtain ⟨⟨htag, hfile⟩, htags⟩ := List.forall_mem_cons.1 h
    have hlines : viFile (t :: tags) = Utf8.encode (vi t) ++ Split.lineFeed :: viFile tags := by
      have hend : Utf8.encode "\n" = [Split.lineFeed] := rfl
      simp [viFile, Utf8.encode_append, hend]
    have hsplit : (viFile (t :: tags)).splitOn Split.lineFeed =
        (Utf8.encode (vi t)).splitOn Split.lineFeed ++ (viFile tags).splitOn Split.lineFeed := by
      rw [hlines]
      exact List.splitOnP_append_cons _ _ (by simp)
    rw [hsplit, List.splitOn_eq_singleton (lineFeed_notMem_vi htag hfile), ih htags]
    rfl

lemma fields_viFile {tags : List TagRecord}
    (h : ∀ t ∈ tags, Unbroken t.tag ∧ Unbroken t.filename) :
    ((viFile tags).splitOn Split.lineFeed).map (·.splitOn tab) =
      (tags.map fun t => (fields t).map Utf8.encode) ++ [[[]]] := by
  have hlines : tags.map (fun t => (Utf8.encode (vi t)).splitOn tab) =
      tags.map fun t => (fields t).map Utf8.encode :=
    List.map_congr_left fun t ht => splitOn_vi (h t ht).1 (h t ht).2
  rw [splitOn_viFile h, List.map_append, List.map_map]
  exact congrArg (· ++ _) hlines

lemma encode_tags_vi (tags : List TagRecord) :
    Utf8.encode (Render.tags .vi tags) = viFile tags := by
  simp only [Render.tags, lines, viFile, Utf8.encode, Utf8.encodeChars, List.map_map,
    String.toList_join, List.flatMap_map, List.flatMap_assoc, Function.comp_apply]

theorem viFile_reads_back (tags : List TagRecord) :
    ((∀ t ∈ tags, Unbroken t.tag ∧ Unbroken t.filename) → ∃ lines,
      (viFile tags).splitOn Split.lineFeed = lines ++ [[]] ∧
        List.Forall₂ (fun t line => ∃ name number : String,
          line.splitOn tab = [Utf8.encode t.tag, Utf8.encode name, Utf8.encode number] ∧
            stripScheme? name = some t.filename ∧ number = Decimal.text t.line.toNat ∧
            Decimal.word64? number.toList = some t.line) tags lines) ∧
      Utf8.encode (Render.tags .vi tags) = viFile tags := by
  refine ⟨fun h => ⟨_, splitOn_viFile h, ?_⟩, encode_tags_vi tags⟩
  apply List.forall₂_map_right_iff.2
  apply List.forall₂_same.2
  intro t ht
  obtain ⟨htag, hfile⟩ := h t ht
  refine ⟨scheme ++ t.filename, Decimal.text t.line.toNat, splitOn_vi htag hfile,
    stripScheme?_scheme _, rfl, ?_⟩
  rw [Decimal.text, String.toList_ofList, Decimal.word64?_digits]

theorem viFile_reads_back_odd_names :
    let tags : List TagRecord := [⟨"gtags://a|b", "", 0, 7, "\t\n"⟩, ⟨"", "é\r", 12, 0, ""⟩]
    (∀ t ∈ tags, Unbroken t.tag ∧ Unbroken t.filename) ∧ ∃ first second name,
      (viFile tags).splitOn Split.lineFeed = [first, second, []] ∧
        first.splitOn tab = [[], Utf8.encode name, Utf8.encode "0"] ∧
        stripScheme? name = some "gtags://a|b" := by
  intro tags
  have hunbroken : ∀ t ∈ tags, Unbroken t.tag ∧ Unbroken t.filename := by decide
  obtain ⟨lines, hlines, hfields⟩ := (viFile_reads_back tags).1 hunbroken
  obtain ⟨first, rest, ⟨name, number, hfirst, hname, rfl, -⟩, hrest, rfl⟩ :=
    List.forall₂_cons_left_iff.1 hfields
  obtain ⟨second, none, -, hnone, rfl⟩ := List.forall₂_cons_left_iff.1 hrest
  obtain rfl := List.forall₂_nil_left_iff.1 hnone
  exact ⟨hunbroken, first, second, name, hlines, hfirst, hname⟩

end Tagwire.Listing

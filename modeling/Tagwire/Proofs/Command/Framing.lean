import Mathlib
import Tagwire.Proofs.Command.Reading
import Tagwire.Proofs.Text.Split
import Tagwire.Proofs.Text.Utf8
import Tagwire.Wire

namespace Tagwire

namespace Sexp

mutual

def strings : Sexp → List String
  | .string text => [text]
  | .integer _ => []
  | .symbol _ => []
  | .list items => itemStrings items

def itemStrings : List Sexp → List String
  | [] => []
  | v :: rest => strings v ++ itemStrings rest

end

-- What printing puts around the strings of a value is made of these characters.
def isSyntax (c : Char) : Bool :=
  isSymbolChar c || ['"', '\\', '(', ')', ' '].contains c

lemma count_escape {x : Char} (hx : x ≠ '\\') (cs : List Char) :
    (escape cs).count x = cs.count x := by
  induction cs with
  | nil => rfl
  | cons c cs ih =>
    rw [escape]
    split
    · rw [List.count_cons_of_ne hx.symm, List.count_cons, List.count_cons, ih]
    · rw [List.count_cons, List.count_cons, ih]

def isSymbolRun (name : String) : Bool :=
  name.toList.all isSymbolChar

lemma count_of_symbolChars {x : Char} (hx : isSyntax x = false) {cs : List Char}
    (h : ∀ c ∈ cs, isSymbolChar c = true) : cs.count x = 0 := by
  apply List.count_eq_zero_of_not_mem
  intro hmem
  rw [isSyntax, h x hmem] at hx
  cases hx

def textCount (x : Char) (texts : List String) : Nat :=
  (texts.map fun s => s.toList.count x).sum

lemma textCount_append (x : Char) (a b : List String) :
    textCount x (a ++ b) = textCount x a + textCount x b := by
  simp [textCount]

mutual

lemma count_chars {x : Char} (hx : isSyntax x = false) {v : Sexp}
    (h : ∀ name ∈ v.symbols, isSymbolRun name = true) :
    v.chars.count x = textCount x v.strings := by
  have hne : ∀ c ∈ ['"', '\\', '(', ')', ' '], c ≠ x := by
    rintro c hc rfl
    rw [isSyntax, List.contains_iff_mem.2 hc, Bool.or_true] at hx
    cases hx
  match v with
  | .string text =>
    rw [chars, quoteChars, List.count_cons_of_ne (hne '"' (by decide)), List.count_append,
      count_escape (hne '\\' (by decide)).symm, List.count_cons_of_ne (hne '"' (by decide))]
    rfl
  | .integer value =>
    exact count_of_symbolChars hx fun c hc =>
      Reader.isSymbolChar_of_isDigit (Decimal.isDigit_of_mem_digits hc)
  | .symbol name => exact count_of_symbolChars hx (List.all_eq_true.1 (h name List.mem_cons_self))
  | .list vs =>
    rw [chars, List.count_cons_of_ne (hne '(' (by decide)), List.count_append,
      List.count_cons_of_ne (hne ')' (by decide)), count_itemChars hx h]
    rfl

lemma count_itemChars {x : Char} (hx : isSyntax x = false) {vs : List Sexp}
    (h : ∀ name ∈ itemSymbols vs, isSymbolRun name = true) :
    (itemChars vs).count x = textCount x (itemStrings vs) := by
  match vs with
  | [] => rfl
  | [v] =>
    have hv := count_chars hx (v := v) fun name hn => h name (List.mem_append_left _ hn)
    rw [itemChars, hv]
    simp [itemStrings]
  | v :: w :: rest =>
    have hv := count_chars hx (v := v) fun name hn => h name (List.mem_append_left _ hn)
    have hrest : (itemChars (w :: rest)).count x = textCount x (itemStrings (w :: rest)) :=
      count_itemChars hx fun name hn => h name (List.mem_append_right _ hn)
    have hspace : ' ' ≠ x := by
      rintro rfl
      cases hx
    rw [itemChars, List.count_append, List.count_cons_of_ne hspace, hv, hrest, ← textCount_append]
    rfl

end

lemma itemStrings_eq_flatMap (vs : List Sexp) : itemStrings vs = vs.flatMap strings := by
  induction vs with
  | nil => rfl
  | cons v vs ih => rw [itemStrings, ih, List.flatMap_cons]

@[simp] lemma strings_field (name : String) (v : Sexp) : (field name v).strings = v.strings := by
  simp [field, strings, itemStrings]

@[simp] lemma symbols_field (name : String) (v : Sexp) :
    (field name v).symbols = name :: v.symbols := by
  simp [field, symbols, itemSymbols]

end Sexp

namespace Command

open Utf8
open Sexp (field isSymbolRun textCount)

def Value.text? : Value → Option String
  | .text value => some value
  | .int _ => none

def texts (c : Command) : List String :=
  [c.client.clientType, c.corpus, c.language] ++ c.currentFile.toList ++
    c.params.filterMap (·.value.text?)

-- Unlike a well-named command, a name may be empty, or look like a number or a dot.
structure SymbolNamed (c : Command) : Prop where
  name : isSymbolRun c.name = true
  params : ∀ p ∈ c.params, isSymbolRun p.name = true

instance (c : Command) : Decidable c.SymbolNamed :=
  decidable_of_iff (isSymbolRun c.name = true ∧ ∀ p ∈ c.params, isSymbolRun p.name = true)
    ⟨fun h => ⟨h.1, h.2⟩, fun h => ⟨h.1, h.2⟩⟩

lemma Value.strings_toSexp (v : Value) : v.toSexp.strings = v.text?.toList := by
  cases v with
  | text value => rfl
  | int value =>
    rw [toSexp]
    split <;> rfl

lemma strings_toSexp (c : Command) : c.toSexp.strings = c.texts := by
  have hfile : (c.currentFile.map fun file => field "current-file" (.string file)).toList.flatMap
      Sexp.strings = c.currentFile.toList := by
    cases c.currentFile <;> simp [Sexp.strings]
  have hparams : (c.params.map fun p => field p.name p.value.toSexp).flatMap Sexp.strings =
      c.params.filterMap (·.value.text?) := by
    simp [List.flatMap_map, Value.strings_toSexp, List.filterMap_eq_flatMap_toList]
  rw [toSexp, Sexp.strings, Sexp.itemStrings, Sexp.itemStrings_eq_flatMap, fields,
    List.flatMap_append, List.flatMap_append, hfile, hparams, texts]
  simp [Sexp.strings, Sexp.boolean]

lemma isSymbolRun_of_isName {name : String} (h : Sexp.isName name = true) :
    isSymbolRun name = true := by
  obtain ⟨c, cs, hname, -, hsym⟩ := Sexp.Reader.isName_cons h
  rw [isSymbolRun, hname, List.all_eq_true]
  exact hsym

lemma SymbolNamed.symbols {c : Command} (h : c.SymbolNamed) :
    ∀ name ∈ c.toSexp.symbols, isSymbolRun name = true := by
  have hparams : ∀ name ∈ (c.params.map fun p => field p.name p.value.toSexp).flatMap Sexp.symbols,
      isSymbolRun name = true := by
    intro name hname
    obtain ⟨v, hv, hname⟩ := List.mem_flatMap.1 hname
    obtain ⟨p, hp, rfl⟩ := List.mem_map.1 hv
    rcases List.mem_cons.1 (Sexp.symbols_field p.name _ ▸ hname) with rfl | hvalue
    · exact h.params p hp
    · exact isSymbolRun_of_isName (p.value.readableItem_toSexp name hvalue).1
  have hfile : ∀ name ∈ (c.currentFile.map fun file =>
      field "current-file" (.string file)).toList.flatMap Sexp.symbols, name = "current-file" := by
    cases c.currentFile <;> simp [Sexp.symbols]
  rw [toSexp, Sexp.symbols, Sexp.itemSymbols, Sexp.itemSymbols_eq_flatMap, fields,
    List.flatMap_append, List.flatMap_append]
  simp only [List.forall_mem_append]
  refine ⟨List.forall_mem_singleton.2 h.name, ⟨?_, fun name hname => ?_⟩, hparams⟩
  · simp only [List.flatMap_cons, List.flatMap_nil, Sexp.symbols_field, Sexp.symbols, Sexp.boolean]
    cases c.callType.callers <;> decide
  · rw [hfile name hname]
    decide

def OneLine (s : String) : Prop :=
  '\r' ∉ s.toList ∧ '\n' ∉ s.toList

instance (s : String) : Decidable (OneLine s) :=
  inferInstanceAs (Decidable (_ ∧ _))

lemma SymbolNamed.count_text {c : Command} (h : c.SymbolNamed) {x : Char}
    (hx : Sexp.isSyntax x = false) : c.text.toList.count x = textCount x c.texts := by
  rw [toList_text, Sexp.count_chars hx h.symbols, strings_toSexp]

lemma textCount_eq_zero {x : Char} {texts : List String} :
    textCount x texts = 0 ↔ ∀ s ∈ texts, x ∉ s.toList := by
  simp [textCount, List.sum_eq_zero_iff, List.count_eq_zero]

lemma SymbolNamed.notMem_text {c : Command} (h : c.SymbolNamed) {x : Char}
    (hx : Sexp.isSyntax x = false) : x ∉ c.text.toList ↔ ∀ s ∈ c.texts, x ∉ s.toList := by
  rw [← List.count_eq_zero, h.count_text hx, textCount_eq_zero]

lemma lines_requestBytes_length (s : String) :
    (Split.lines (Wire.requestBytes s)).length = 1 + s.toList.count '\n' := by
  have hbytes : Wire.requestBytes s = (encode s ++ [Split.carriageReturn]) ++ [Split.lineFeed] := by
    simp [Wire.requestBytes]
  have hcount : (encode s).count Split.lineFeed = s.toList.count '\n' := count_encode (by decide) s
  rw [hbytes, Split.lines, List.length_map, Split.length_after_concat, List.count_append, hcount,
    Nat.add_comm]
  rfl

lemma lines_requestBytes {s : String} (h : '\n' ∉ s.toList) :
    Split.lines (Wire.requestBytes s) = [encode s] := by
  have hfeed : Split.lineFeed ∉ encode s ++ [Split.carriageReturn] := by
    rw [List.mem_append, not_or]
    exact ⟨ascii_notMem_encode (by decide) h, by decide⟩
  have hbytes : Wire.requestBytes s =
      (encode s ++ [Split.carriageReturn]) ++ Split.lineFeed :: [] := by
    simp [Wire.requestBytes]
  rw [hbytes, Split.lines, Split.after_append hfeed, Split.after, List.map_singleton, Split.chomp,
    Split.dropFinal_concat, Split.dropFinal_concat]

theorem text_oneLine_iff (c : Command) (h : c.SymbolNamed) :
    (OneLine c.text ↔ ∀ s ∈ c.texts, OneLine s) ∧
    (Split.lines (Wire.requestBytes c.text)).length = 1 + textCount '\n' c.texts ∧
    ((∀ s ∈ c.texts, OneLine s) →
      Split.lines (Wire.requestBytes c.text) = [encode c.text] ∧
        ∃ body, Wire.requestBytes c.text = body ++ [0x0D, 0x0A] ∧ 0x0D ∉ body ∧ 0x0A ∉ body) := by
  have hiff : OneLine c.text ↔ ∀ s ∈ c.texts, OneLine s := by
    rw [OneLine, h.notMem_text (by decide), h.notMem_text (by decide)]
    exact forall₂_and.symm
  refine ⟨hiff, ?_, fun htexts => ?_⟩
  · rw [lines_requestBytes_length, h.count_text (by decide)]
  · obtain ⟨hreturn, hfeed⟩ := hiff.2 htexts
    refine ⟨lines_requestBytes hfeed, encode c.text, rfl, ?_, ?_⟩
    · exact ascii_notMem_encode (by decide) hreturn
    · exact ascii_notMem_encode (by decide) hfeed

theorem text_oneLine_quoted :
    let c : Command := {
      name := "lookup-tag-exact"
      params := [⟨"0", .text "a\t\"b\\"⟩, ⟨"", .int (-5)⟩]
      language := "c++"
      callType := .callgraph
      client := {}
      corpus := "a) (b"
      currentFile := some "" }
    c.SymbolNamed ∧ (∀ s ∈ c.texts, OneLine s) ∧ OneLine c.text ∧
      Split.lines (Wire.requestBytes c.text) = [encode c.text] := by
  intro c
  have hc : c.SymbolNamed := by decide
  have htexts : ∀ s ∈ c.texts, OneLine s := by decide
  obtain ⟨hiff, -, hlines⟩ := text_oneLine_iff c hc
  exact ⟨hc, htexts, hiff.2 htexts, (hlines htexts).1⟩

theorem lineFeed_in_param_cuts_request :
    let c : Command := {
      name := "lookup-tag-exact"
      params := [⟨"tag", .text "a\nb"⟩]
      language := "c++"
      callType := .definition
      client := {}
      corpus := "google3"
      currentFile := none }
    c.SymbolNamed ∧ '\n' ∈ c.text.toList ∧ Split.lines (Wire.requestBytes c.text) =
      [encode ("(lookup-tag-exact (client-type \"semfora\") (client-version 3) " ++
        "(protocol-version 2) (corpus \"google3\") (language \"c++\") (callers nil) (tag \"a"),
        encode "b\"))"] := by
  intro c
  refine ⟨by decide, ?_, ?_⟩
  · rw [toList_text]
    decide
  · rw [Wire.requestBytes, encode, toList_text]
    decide +kernel

end Command

end Tagwire

import Mathlib
import Tagwire.Command
import Tagwire.Proofs.Sexp.RoundTrip

namespace Tagwire

namespace Command

open Sexp (field)

def Value.toSexp : Value → Sexp
  | .text value => .string value
  | .int value =>
    match value.toInt with
    | .ofNat n => .integer (UInt64.ofNat n)
    | .negSucc n => .symbol (Decimal.signedText (.negSucc n))

def fields (c : Command) : List Sexp :=
  [field "client-type" (.string c.client.clientType),
    field "client-version" (.integer (UInt64.ofNat c.client.clientVersion.toNat)),
    field "protocol-version" (.integer 2),
    field "corpus" (.string c.corpus),
    field "language" (.string c.language),
    field "callers" (.boolean c.callType.callers)] ++
  (c.currentFile.map fun file => field "current-file" (.string file)).toList ++
  c.params.map fun p => field p.name p.value.toSexp

def toSexp (c : Command) : Sexp :=
  .list (.symbol c.name :: c.fields)

end Command

lemma Sexp.toList_decimal {n : Nat} (h : n < 2 ^ 64) :
    (Decimal.text n).toList = (Sexp.integer (UInt64.ofNat n)).chars := by
  rw [Decimal.text, String.toList_ofList, chars, UInt64.toNat_ofNat_of_lt' h]

lemma Sexp.toList_quote (s : String) : (quote s).toList = (Sexp.string s).chars := by
  rw [quote, String.toList_ofList, chars]

lemma Sexp.itemChars_cons (v : Sexp) (vs : List Sexp) :
    itemChars (v :: vs) = v.chars ++ vs.flatMap fun w => ' ' :: w.chars := by
  induction vs generalizing v with
  | nil => simp [itemChars]
  | cons w vs ih => simp [itemChars, ih w]

namespace Command

open Sexp (field)

lemma Value.toList_rendered (v : Value) : v.rendered.toList = v.toSexp.chars := by
  cases v with
  | text value => exact Sexp.toList_quote value
  | int value =>
    have hlt := value.toInt_lt
    cases hv : value.toInt with
    | ofNat n =>
      have hn : n < 2 ^ 64 := by
        rw [hv] at hlt
        simp only [Int.ofNat_eq_natCast] at hlt
        omega
      simp only [rendered, toSexp, hv, Decimal.signedText]
      exact Sexp.toList_decimal hn
    | negSucc n => simp [rendered, toSexp, hv, Sexp.chars]

lemma toList_clause {name value : String} {v : Sexp} (hv : value.toList = v.chars) :
    (clause name value).toList = ' ' :: (field name v).chars := by
  simp [clause, Sexp.field_chars, hv]

lemma flatMap_clause {α : Type} (l : List α) (name value : α → String) (v : α → Sexp)
    (hv : ∀ a, (value a).toList = (v a).chars) :
    (l.map fun a => clause (name a) (value a)).flatMap String.toList =
      (l.map fun a => field (name a) (v a)).flatMap fun w => ' ' :: w.chars := by
  induction l with
  | nil => rfl
  | cons a l ih => simp only [List.map_cons, List.flatMap_cons, toList_clause (hv a), ih]

lemma flatMap_clauses (c : Command) :
    (c.clauses.map fun p => clause p.1 p.2).flatMap String.toList =
      c.fields.flatMap fun w => ' ' :: w.chars := by
  have hversion : c.client.clientVersion.toNat < 2 ^ 64 :=
    Nat.lt_trans c.client.clientVersion.toNat_lt (by decide)
  have hprotocol : (Decimal.text protocolVersion).toList = (Sexp.integer 2).chars := rfl
  have hcallers : (if c.callType.callers then "t" else "nil").toList =
      (Sexp.boolean c.callType.callers).chars := rfl
  have hfile := flatMap_clause c.currentFile.toList (fun _ => "current-file") Sexp.quote
    Sexp.string Sexp.toList_quote
  have hparams := flatMap_clause c.params (·.name) (·.value.rendered) (·.value.toSexp)
    fun p => p.value.toList_rendered
  simp only [clauses, fields, List.map_append, List.flatMap_append, List.map_cons, List.map_nil,
    List.flatMap_cons, List.flatMap_nil, toList_clause (Sexp.toList_quote _),
    toList_clause (Sexp.toList_decimal hversion), toList_clause hprotocol, toList_clause hcallers,
    Option.toList_map, List.map_map, Function.comp_def, hfile, hparams]

lemma toList_text (c : Command) : c.text.toList = c.toSexp.chars := by
  simp [text, toSexp, Sexp.chars, Sexp.itemChars_cons, flatMap_clauses]

lemma isName_negSucc (n : Nat) : Sexp.isName (Decimal.signedText (.negSucc n)) = true := by
  have htext : Decimal.signedText (.negSucc n) = String.ofList ('-' :: Decimal.digits (n + 1)) := by
    apply String.toList_inj.1
    simp [Decimal.signedText, Decimal.text]
  rw [htext]
  refine Sexp.Reader.isName_ofList (by decide) (List.forall_mem_cons.2 ⟨by decide, fun c hc => ?_⟩)
  exact Sexp.Reader.isSymbolChar_of_isDigit (Decimal.isDigit_of_mem_digits hc)

lemma Value.readableItem_toSexp (v : Value) : v.toSexp.ReadableItem := by
  cases v with
  | text value => exact Sexp.readableItem_string value
  | int value =>
    cases hv : value.toInt with
    | ofNat n => simp [toSexp, hv]
    | negSucc n =>
      simp only [toSexp, hv, Sexp.readableItem_symbol]
      refine ⟨isName_negSucc n, fun he => ?_⟩
      have hlist := congrArg String.toList he
      simp [Decimal.signedText] at hlist

structure WellNamed (c : Command) : Prop where
  name : Sexp.isName c.name = true ∧ c.name ≠ "."
  params : ∀ p ∈ c.params, Sexp.isName p.name = true ∧ p.name ≠ "."

lemma readableItem_boolean (b : Bool) : (Sexp.boolean b).ReadableItem := by
  cases b <;> decide

lemma WellNamed.readableItem {c : Command} (h : c.WellNamed) : c.toSexp.ReadableItem := by
  simp only [toSexp, fields, Sexp.readableItem_list, List.mem_cons, List.mem_append,
    List.mem_map, Option.mem_toList, Option.map_eq_some_iff, List.not_mem_nil, or_false]
  rintro v (rfl | ((rfl | rfl | rfl | rfl | rfl | rfl) | ⟨file, -, rfl⟩) | ⟨p, hp, rfl⟩)
  · exact Sexp.readableItem_symbol.2 h.name
  · exact Sexp.readableItem_field (by decide) (Sexp.readableItem_string _)
  · exact Sexp.readableItem_field (by decide) (Sexp.readableItem_integer _)
  · exact Sexp.readableItem_field (by decide) (Sexp.readableItem_integer _)
  · exact Sexp.readableItem_field (by decide) (Sexp.readableItem_string _)
  · exact Sexp.readableItem_field (by decide) (Sexp.readableItem_string _)
  · exact Sexp.readableItem_field (by decide) (readableItem_boolean _)
  · exact Sexp.readableItem_field (by decide) (Sexp.readableItem_string _)
  · exact Sexp.readableItem_field (h.params p hp) p.value.readableItem_toSexp

theorem read_command (c : Command) (h : c.WellNamed) :
    Sexp.read c.text = .ok c.toSexp ∧
      Sexp.Reader.form c.text.toList = .ok (c.toSexp, []) := by
  have hform : Sexp.Reader.form c.text.toList = .ok (c.toSexp, []) := by
    have hread := h.readableItem.form_list []
    rw [List.append_nil] at hread
    rw [toList_text]
    exact hread
  exact ⟨by rw [Sexp.read, hform]; rfl, hform⟩

theorem read_command_hostile :
    let c : Command := {
      name := "lookup-tag-exact"
      params := [⟨"tag", .text "x\") (callers \"t\\"⟩, ⟨"limit", .int (-5)⟩]
      language := "c++"
      callType := .callgraph
      client := {}
      corpus := "a)\n(b"
      currentFile := some "" }
    c.WellNamed ∧ Sexp.read c.text = .ok (.list [.symbol "lookup-tag-exact",
      field "client-type" (.string "semfora"), field "client-version" (.integer 3),
      field "protocol-version" (.integer 2), field "corpus" (.string "a)\n(b"),
      field "language" (.string "c++"), field "callers" (.symbol "t"),
      field "current-file" (.string ""), field "tag" (.string "x\") (callers \"t\\"),
      field "limit" (.symbol "-5")]) := by
  intro c
  have hc : c.WellNamed := ⟨by decide, by decide⟩
  exact ⟨hc, (read_command c hc).1⟩

end Command

end Tagwire

import Mathlib
import Tagwire.Proofs.Sexp.Spelling

/-! The values that are printed and read back. That no others come back is a matter of counting the
characters that are not spaces. -/

namespace Tagwire.Sexp

def memberSymbols : Sexp → List String
  | .list items => itemSymbols items
  | _ => []

structure Readable (v : Sexp) : Prop where
  names : ∀ name ∈ v.symbols, isName name = true
  noDot : "." ∉ v.memberSymbols

instance (v : Sexp) : Decidable v.Readable :=
  decidable_of_iff ((∀ name ∈ v.symbols, isName name = true) ∧ "." ∉ v.memberSymbols)
    ⟨fun h => ⟨h.1, h.2⟩, fun h => ⟨h.names, h.noDot⟩⟩

def ReadableItem (v : Sexp) : Prop :=
  ∀ name ∈ v.symbols, isName name = true ∧ name ≠ "."

instance (v : Sexp) : Decidable v.ReadableItem :=
  inferInstanceAs (Decidable (∀ name ∈ v.symbols, isName name = true ∧ name ≠ "."))

lemma itemSymbols_eq_flatMap (vs : List Sexp) : itemSymbols vs = vs.flatMap symbols := by
  induction vs with
  | nil => rfl
  | cons v vs ih => rw [itemSymbols, ih, List.flatMap_cons]

@[simp] lemma readableItem_string (s : String) : (Sexp.string s).ReadableItem := by
  simp [ReadableItem, symbols]

@[simp] lemma readableItem_integer (n : UInt64) : (Sexp.integer n).ReadableItem := by
  simp [ReadableItem, symbols]

@[simp] lemma readableItem_symbol {name : String} :
    (Sexp.symbol name).ReadableItem ↔ isName name = true ∧ name ≠ "." := by
  simp [ReadableItem, symbols]

@[simp] lemma readableItem_list {vs : List Sexp} :
    (Sexp.list vs).ReadableItem ↔ ∀ v ∈ vs, v.ReadableItem := by
  simp only [ReadableItem, symbols, itemSymbols_eq_flatMap, List.mem_flatMap]
  exact ⟨fun h v hv name hn => h name ⟨v, hv, hn⟩, fun h name ⟨v, hv, hn⟩ => h v hv name hn⟩

def field (name : String) (value : Sexp) : Sexp :=
  .list [.symbol name, value]

lemma readableItem_field {name : String} {v : Sexp} (hname : isName name = true ∧ name ≠ ".")
    (hv : v.ReadableItem) : (field name v).ReadableItem := by
  simp [field, hname, hv]

lemma field_chars (name : String) (v : Sexp) :
    (field name v).chars = '(' :: (name.toList ++ ' ' :: (v.chars ++ [')'])) := by
  simp [field, chars, itemChars]

def ink (s : List Char) : Nat :=
  s.countP (· != ' ')

@[simp] lemma ink_nil : ink [] = 0 := rfl

@[simp] lemma ink_append (s t : List Char) : ink (s ++ t) = ink s + ink t :=
  List.countP_append

lemma ink_cons (c : Char) (s : List Char) : ink (c :: s) = ink s + if c = ' ' then 0 else 1 := by
  by_cases hc : c = ' ' <;> simp [ink, hc]

lemma ink_skip_le (s : List Char) : ink (Reader.skip s) ≤ ink s :=
  (List.dropWhile_sublist _).countP_le

lemma ink_eq_length {s : List Char} (h : ∀ c ∈ s, c.isDigit = true) : ink s = s.length := by
  refine List.countP_eq_length.2 fun c hc => ?_
  have hd := h c hc
  simp only [bne_iff_ne, ne_eq]
  rintro rfl
  cases hd

lemma ink_itemChars_cons (v : Sexp) (vs : List Sexp) :
    ink (itemChars (v :: vs)) = ink v.chars + ink (itemChars vs) := by
  cases vs with
  | nil => simp [itemChars]
  | cons w vs => simp [itemChars, ink_cons]

lemma ink_list (vs : List Sexp) : ink (Sexp.list vs).chars = ink (itemChars vs) + 2 := by
  simp [chars, ink_cons]

namespace Reader

lemma unescape_space_iff (c : Char) : unescape c = ' ' ↔ c = ' ' := by
  unfold unescape
  split
  · next h => simp [h]
  · exact Iff.rfl

lemma ink_unescape_cons (c : Char) (s : List Char) : ink (unescape c :: s) = ink (c :: s) := by
  simp only [ink_cons, unescape_space_iff]

lemma ink_escape_cons_le (c : Char) (s : List Char) :
    ink (escape (c :: s)) ≤ ink (c :: escape s) + 1 := by
  rw [escape]
  split
  · exact Nat.le_of_eq (ink_cons '\\' (c :: escape s))
  · exact Nat.le_succ _

lemma stringBody_ink {s t rest : List Char} (h : stringBody s = .ok (t, rest)) :
    ink (escape t) + ink rest + 1 ≤ ink s := by
  fun_induction stringBody s generalizing t with
  | case1 => cases h
  | case2 s =>
    cases h
    simp [escape, ink_cons]
  | case3 => cases h
  | case4 c s ih =>
    obtain ⟨⟨u, w⟩, hs, he⟩ := map_eq_ok.1 h
    obtain ⟨rfl, rfl⟩ : unescape c :: u = t ∧ w = rest := by simpa using he
    have hu := ih hs
    have hle := ink_escape_cons_le (unescape c) u
    rw [ink_unescape_cons, ink_cons] at hle
    rw [ink_cons, ink_cons, if_neg (show ¬ '\\' = ' ' by decide)]
    omega
  | case5 c s hquote hend hback ih =>
    obtain ⟨⟨u, w⟩, hs, he⟩ := map_eq_ok.1 h
    obtain ⟨rfl, rfl⟩ : c :: u = t ∧ w = rest := by simpa using he
    have hu := ih hs
    have hplain : ¬ (c = '\\' ∨ c = '"') :=
      not_or.2 ⟨ne_backslash hend hback, hquote⟩
    rw [escape, if_neg hplain, ink_cons, ink_cons]
    omega

lemma symbolBody_ink {s t rest : List Char} (h : symbolBody s = .ok (t, rest)) :
    ink t + ink rest ≤ ink s ∧
      (ink s ≤ ink t + ink rest → ∀ c ∈ t, isSymbolChar c = true) := by
  fun_induction symbolBody s generalizing t with
  | case1 =>
    cases h
    simp
  | case2 => cases h
  | case3 c s ih =>
    obtain ⟨⟨u, w⟩, hs, he⟩ := map_eq_ok.1 h
    obtain ⟨rfl, rfl⟩ : unescape c :: u = t ∧ w = rest := by simpa using he
    obtain ⟨hle, -⟩ := ih hs
    -- the backslash is used up and not printed, so the count is strict
    rw [ink_unescape_cons, ink_cons '\\', if_neg (by decide), ink_cons, ink_cons]
    exact ⟨by omega, fun hge => by omega⟩
  | case4 c s _ _ hc ih =>
    obtain ⟨⟨u, w⟩, hs, he⟩ := map_eq_ok.1 h
    obtain ⟨rfl, rfl⟩ : c :: u = t ∧ w = rest := by simpa using he
    obtain ⟨hle, hall⟩ := ih hs
    rw [ink_cons, ink_cons]
    refine ⟨by omega, fun hge => List.forall_mem_cons.2 ⟨hc, hall (by omega)⟩⟩
  | case5 c s =>
    cases h
    simp

lemma integerOf_ink {ds : List Char} {v : Sexp} (hne : ds ≠ [])
    (hd : ∀ c ∈ ds, c.isDigit = true) (h : integerOf ds = .ok v) :
    ink v.chars ≤ ink ds ∧ v.symbols = [] := by
  unfold integerOf at h
  split at h
  · next hlt =>
    cases h
    refine ⟨?_, rfl⟩
    have hval : (UInt64.ofNat (Decimal.value ds)).toNat = Decimal.value ds :=
      UInt64.toNat_ofNat_of_lt hlt
    rw [chars, hval, ink_eq_length hd, ink_eq_length fun c => Decimal.isDigit_of_mem_digits]
    exact Decimal.digits_value_length_le hne hd
  · cases h

lemma isName_ofList {c : Char} {cs : List Char} (hdig : c.isDigit = false)
    (hsym : ∀ d ∈ c :: cs, isSymbolChar d = true) : isName (String.ofList (c :: cs)) = true := by
  simpa [isName, hdig] using hsym

lemma symbolBody_isName {c : Char} {s t rest : List Char} (hdig : c.isDigit = false)
    (hc : (isSymbolChar c || c == '\\') = true) (h : symbolBody (c :: s) = .ok (t, rest))
    (hink : ink (c :: s) ≤ ink t + ink rest) : isName (String.ofList t) = true := by
  have hall := (symbolBody_ink h).2 hink
  by_cases hback : c = '\\'
  · subst hback
    cases s with
    | nil => cases h
    | cons d s =>
      obtain ⟨⟨u, r⟩, hs, he⟩ := map_eq_ok.1 h
      obtain ⟨rfl, rfl⟩ : unescape d :: u = t ∧ r = rest := by simpa using he
      have hle := (symbolBody_ink hs).1
      rw [ink_unescape_cons, ink_cons '\\', if_neg (by decide), ink_cons, ink_cons] at hink
      omega
  · have hsym : isSymbolChar c = true := by simpa [hback] using hc
    rw [symbolBody, if_pos hsym] at h
    · obtain ⟨⟨u, r⟩, hs, he⟩ := map_eq_ok.1 h
      obtain ⟨rfl, -⟩ : c :: u = t ∧ r = rest := by simpa using he
      exact isName_ofList hdig hall
    all_goals simp [hback]

lemma atom_ink {c : Char} {s rest : List Char} {v : Sexp} (h : atom c s = .ok (v, rest)) :
    ink v.chars + ink rest ≤ ink (c :: s) ∧
      (ink (c :: s) ≤ ink v.chars + ink rest → ∀ name ∈ v.symbols, isName name = true) := by
  unfold atom at h
  split at h
  · next hquote =>
    obtain ⟨⟨t, r⟩, hs, he⟩ := map_eq_ok.1 h
    obtain ⟨rfl, rfl⟩ : .string (String.ofList t) = v ∧ r = rest := by simpa using he
    have hink := stringBody_ink hs
    subst hquote
    refine ⟨?_, fun _ => by simp [symbols]⟩
    simp [chars, quoteChars, ink_cons]
    omega
  · next hquote =>
    split at h
    · next hdig =>
      obtain ⟨w, hi, he⟩ := map_eq_ok.1 h
      obtain ⟨rfl, rfl⟩ : w = v ∧ s.dropWhile Char.isDigit = rest := by simpa using he
      have hd : ∀ d ∈ c :: s.takeWhile Char.isDigit, d.isDigit = true :=
        List.forall_mem_cons.2 ⟨hdig, fun d hd => List.all_eq_true.1 List.all_takeWhile d hd⟩
      obtain ⟨hle, hsym⟩ := integerOf_ink (List.cons_ne_nil _ _) hd hi
      refine ⟨?_, fun _ => by simp [hsym]⟩
      have hsplit : ink s =
          ink (s.takeWhile Char.isDigit) + ink (s.dropWhile Char.isDigit) := by
        rw [← ink_append, List.takeWhile_append_dropWhile]
      rw [ink_cons] at hle ⊢
      omega
    · next hdig =>
      split at h
      · next hc =>
        obtain ⟨⟨t, r⟩, hs, he⟩ := map_eq_ok.1 h
        obtain ⟨rfl, rfl⟩ : .symbol (String.ofList t) = v ∧ r = rest := by simpa using he
        simp only [chars, String.toList_ofList, symbols, List.mem_singleton, forall_eq]
        exact ⟨(symbolBody_ink hs).1, symbolBody_isName (by simpa using hdig) hc hs⟩
      · cases h

lemma itemsRead_ink {s rest : List Char} {vs : List Sexp} (h : ItemsRead s vs rest) :
    ink (itemChars vs) + ink rest + 1 ≤ ink s ∧
      (ink s ≤ ink (itemChars vs) + ink rest + 1 → ∀ name ∈ itemSymbols vs, isName name = true) := by
  induction h with
  | @close s rest h =>
    have hskip := ink_skip_le s
    rw [h, ink_cons, if_neg (by decide)] at hskip
    exact ⟨by simpa [itemChars] using hskip, fun _ => by simp [itemSymbols]⟩
  | @dot s t rest vs h hd ht ih =>
    have hskip := ink_skip_le s
    rw [h, ink_cons, if_neg (by decide)] at hskip
    exact ⟨by omega, fun hge => by omega⟩
  | @sublist s t r rest inner vs h hi hr ihi ihr =>
    have hskip := ink_skip_le s
    rw [h, ink_cons, if_neg (by decide)] at hskip
    rw [ink_itemChars_cons, ink_list]
    refine ⟨by omega, fun hge => ?_⟩
    rw [itemSymbols, List.forall_mem_append]
    exact ⟨ihi.2 (by omega), ihr.2 (by omega)⟩
  | @atom s t r rest c v vs h ha hr ih =>
    have hskip := ink_skip_le s
    obtain ⟨hle, hnames⟩ := atom_ink ha
    rw [h] at hskip
    rw [ink_itemChars_cons]
    refine ⟨by omega, fun hge => ?_⟩
    rw [itemSymbols, List.forall_mem_append]
    exact ⟨hnames (by omega), ih.2 (by omega)⟩

lemma form_ink {s rest : List Char} {v : Sexp} (h : form s = .ok (v, rest)) :
    ink s ≤ ink v.chars + ink rest → ∀ name ∈ v.symbols, isName name = true := by
  intro hge
  have hskip := ink_skip_le s
  cases hs : skip s with
  | nil => simp [form, hs] at h
  | cons c t =>
    rw [hs] at hskip
    by_cases hopen : c = '('
    · subst hopen
      rw [form_open hs] at h
      obtain ⟨⟨vs, r⟩, hi, he⟩ := map_eq_ok.1 h
      obtain ⟨rfl, rfl⟩ : .list vs = v ∧ r = rest := by simpa using he
      rw [ink_cons, if_neg (by decide)] at hskip
      rw [ink_list] at hge
      exact (itemsRead_ink (itemsRead_of_items hi)).2 (by omega)
    · rw [form_atom hs hopen] at h
      exact (atom_ink h).2 (by omega)

end Reader

lemma Readable.withoutDots_eq {v : Sexp} (h : v.Readable) : v.withoutDots = v := by
  cases v with
  | list vs => exact withoutDots_eq_self h.noDot
  | _ => rfl

lemma ReadableItem.withoutDots_eq {v : Sexp} (h : v.ReadableItem) : v.withoutDots = v :=
  withoutDots_eq_self fun hdot => (h "." hdot).2 rfl

lemma ReadableItem.spells {v : Sexp} (h : v.ReadableItem) : Reader.Spells v.chars [v] := by
  have hs := Reader.spells_chars fun name hn => (h name hn).1
  have hdot : ¬ v.isSymbol "." = true := by
    rw [isSymbol_iff]
    rintro rfl
    exact (h "." List.mem_cons_self).2 rfl
  rwa [itemsWithoutDots, if_neg hdot, h.withoutDots_eq, itemsWithoutDots] at hs

lemma ReadableItem.form_list {vs : List Sexp} (h : (Sexp.list vs).ReadableItem)
    (rest : List Char) :
    Reader.form ((Sexp.list vs).chars ++ rest) = .ok (.list vs, rest) := by
  rw [Reader.form_chars_list (fun name hn => (h name hn).1),
    itemsWithoutDots_eq_self fun hdot => (h "." hdot).2 rfl]

lemma readAll_text {vs : List Sexp} (h : (Sexp.list vs).ReadableItem) :
    readAll (Sexp.list vs).text = .ok [.list vs] := by
  have hform := h.form_list []
  rw [List.append_nil] at hform
  rw [readAll, text, String.toList_ofList, Reader.forms_of_form hform, Reader.forms]
  rfl

lemma readable_of_form {v : Sexp} {rest : List Char} (h : Reader.form v.chars = .ok (v, rest)) :
    v.Readable := by
  have hnames : ∀ name ∈ v.symbols, isName name = true := Reader.form_ink h (by omega)
  refine ⟨hnames, ?_⟩
  have hform := Reader.form_chars hnames (show Reader.endsDot [] = true from rfl)
  rw [List.append_nil, h] at hform
  obtain ⟨hv, -⟩ : v = v.withoutDots ∧ rest = [] := by simpa using hform
  cases v with
  | list vs => exact dot_notMem_itemSymbols (Sexp.list.inj hv).symm
  | _ => exact List.not_mem_nil

lemma Readable.read_text {v : Sexp} (h : v.Readable) : read v.text = .ok v := by
  have hform := Reader.form_chars h.names (show Reader.endsDot [] = true from rfl)
  rw [List.append_nil, h.withoutDots_eq] at hform
  simp [read, text, hform, Except.map]

lemma Readable.read_text_append {v : Sexp} (h : v.Readable)
    (hv : (∃ items, v = .list items) ∨ ∃ s, v = .string s) (rest : String) :
    read (v.text ++ rest) = .ok v := by
  have hform : Reader.form (v.chars ++ rest.toList) = .ok (v, rest.toList) := by
    rcases hv with ⟨vs, rfl⟩ | ⟨s, rfl⟩
    · have hvs := Reader.form_chars_list h.names rest.toList
      rwa [itemsWithoutDots_eq_self h.noDot] at hvs
    · rw [chars, Reader.form_quoteChars, String.ofList_toList]
  simp [read, text, hform, Except.map]

theorem read_text_iff_readable (v : Sexp) :
    (read v.text = .ok v ↔ v.Readable) ∧
      (v.Readable → ((∃ items, v = .list items) ∨ ∃ s, v = .string s) →
        ∀ rest : String, read (v.text ++ rest) = .ok v) := by
  refine ⟨⟨fun h => ?_, Readable.read_text⟩, Readable.read_text_append⟩
  obtain ⟨⟨w, rest⟩, hform, he⟩ := Reader.map_eq_ok.1 h
  obtain rfl : w = v := he
  rw [text, String.toList_ofList] at hform
  exact readable_of_form hform

theorem read_text_dotted_name :
    let v := Sexp.list [.symbol ".emacs", .list [], .string "a\"b\\", .integer 18446744073709551615]
    v.Readable ∧ read v.text = .ok v ∧ read (v.text ++ ") .") = .ok v := by
  intro v
  have hv : v.Readable := by decide
  obtain ⟨hiff, happ⟩ := read_text_iff_readable v
  exact ⟨hv, hiff.2 hv, happ hv (.inl ⟨_, rfl⟩) ") ."⟩

end Tagwire.Sexp

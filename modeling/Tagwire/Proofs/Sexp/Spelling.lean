import Mathlib
import Tagwire.Proofs.Sexp.Reading

namespace Tagwire.Sexp

def isName (name : String) : Bool :=
  match name.toList with
  | [] => false
  | c :: cs => !c.isDigit && (c :: cs).all isSymbolChar

mutual

def symbols : Sexp → List String
  | .string _ => []
  | .integer _ => []
  | .symbol name => [name]
  | .list items => itemSymbols items

def itemSymbols : List Sexp → List String
  | [] => []
  | v :: rest => symbols v ++ itemSymbols rest

end

mutual

def withoutDots : Sexp → Sexp
  | .string text => .string text
  | .integer value => .integer value
  | .symbol name => .symbol name
  | .list items => .list (itemsWithoutDots items)

def itemsWithoutDots : List Sexp → List Sexp
  | [] => []
  | v :: rest =>
    if v.isSymbol "." then itemsWithoutDots rest else withoutDots v :: itemsWithoutDots rest

end

lemma isSymbol_iff {v : Sexp} {name : String} : v.isSymbol name = true ↔ v = .symbol name := by
  cases v <;> simp [isSymbol, symbol?]

namespace Reader

def Spells (s : List Char) (vs : List Sexp) : Prop :=
  ∀ rest, endsDot rest = true → items (s ++ rest) = (items rest).map fun r => (vs ++ r.1, r.2)

lemma endsDot_append {s t : List Char} (hs : endsDot s = true) (ht : endsDot t = true) :
    endsDot (s ++ t) = true := by
  cases s with
  | nil => exact ht
  | cons c s => exact hs

lemma spells_nil : Spells [] [] := by
  intro rest _
  cases h : items rest <;> simp [h, Except.map]

lemma Spells.append {s t : List Char} {vs ws : List Sexp} (hs : Spells s vs) (ht : Spells t ws)
    (hd : endsDot t = true) : Spells (s ++ t) (vs ++ ws) := by
  intro rest hr
  rw [List.append_assoc, hs _ (endsDot_append hd hr), ht rest hr]
  cases items rest <;> simp [Except.map]

lemma Spells.space {s : List Char} {vs : List Sexp} (hs : Spells s vs) {c : Char}
    (hc : isSpace c = true) : Spells (c :: s) vs := by
  intro rest hr
  rw [← hs rest hr]
  exact items_congr (skip_cons_of_space hc _)

lemma form_list {s : List Char} {vs : List Sexp} (hs : Spells s vs) (rest : List Char) :
    form ('(' :: (s ++ ')' :: rest)) = .ok (.list vs, rest) := by
  rw [form_open (skip_cons_of_not_space (by decide) _), hs _ rfl,
    items_close (skip_cons_of_not_space (by decide) _)]
  simp [Except.map]

lemma spells_of_form {s : List Char} {v : Sexp}
    (hs : ∀ rest, endsDot rest = true → form (s ++ rest) = .ok (v, rest))
    (hdot : ∀ rest t, endsDot rest = true → skip (s ++ rest) = '.' :: t → endsDot t = false) :
    Spells s [v] := by
  intro rest hr
  rw [items_of_form (hs rest hr) (hdot rest · hr)]
  rfl

lemma spells_cons_of_form {c : Char} {s : List Char} {v : Sexp} (hc : isSpace c = false)
    (hdot : c ≠ '.') (hs : ∀ rest, endsDot rest = true → form (c :: s ++ rest) = .ok (v, rest)) :
    Spells (c :: s) [v] := by
  refine spells_of_form hs fun rest t _ ht => ?_
  rw [List.cons_append, skip_cons_of_not_space hc] at ht
  exact absurd (List.cons_eq_cons.1 ht).1 hdot

lemma spells_dot : Spells ['.'] [] := by
  intro rest hr
  have hskip : skip (['.'] ++ rest) = '.' :: rest := skip_cons_of_not_space (by decide) _
  rw [items_dot hskip hr]
  cases items rest <;> rfl

lemma isName_cons {name : String} (h : isName name = true) :
    ∃ c cs, name.toList = c :: cs ∧ c.isDigit = false ∧ ∀ d ∈ c :: cs, isSymbolChar d = true := by
  unfold isName at h
  split at h
  · cases h
  · next c cs hname =>
    obtain ⟨hdig, hsym⟩ := Bool.and_eq_true_iff.1 h
    exact ⟨c, cs, hname, by simpa using hdig, by simpa using hsym⟩

lemma form_name {name : String} (h : isName name = true) {rest : List Char}
    (hr : endsDot rest = true) : form (name.toList ++ rest) = .ok (.symbol name, rest) := by
  obtain ⟨c, cs, hname, hdig, hsym⟩ := isName_cons h
  have hc := hsym c List.mem_cons_self
  have hs : skip (name.toList ++ rest) = c :: (cs ++ rest) := by
    rw [hname]
    exact skip_cons_of_not_space (not_isSpace_of_isSymbolChar hc) _
  have hbody : symbolBody (c :: (cs ++ rest)) = .ok (c :: cs, rest) := symbolBody_append hsym hr
  rw [form_atom hs (by rintro rfl; exact absurd hc (by decide)), atom,
    if_neg (by rintro rfl; exact absurd hc (by decide)), if_neg (by simp [hdig]),
    if_pos (by simp [hc]), hbody, ← hname]
  simp [Except.map]

lemma spells_name {name : String} (h : isName name = true) (hdot : name ≠ ".") :
    Spells name.toList [.symbol name] := by
  refine spells_of_form (fun rest hr => form_name h hr) fun rest t hr ht => ?_
  obtain ⟨c, cs, hname, -, hsym⟩ := isName_cons h
  rw [hname, List.cons_append,
    skip_cons_of_not_space (not_isSpace_of_isSymbolChar (hsym c List.mem_cons_self))] at ht
  obtain ⟨rfl, rfl⟩ := List.cons_eq_cons.1 ht
  cases cs with
  | nil => exact absurd (String.toList_inj.1 hname) hdot
  | cons d cs =>
    by_contra hd
    have hend := ends_symbol (show endsDot (d :: (cs ++ rest)) = true by simpa using hd)
    rw [hsym d (by simp)] at hend
    cases hend.1

lemma spells_string (cs : List Char) :
    Spells (quoteChars cs) [.string (String.ofList cs)] :=
  spells_cons_of_form (by decide) (by decide) fun rest _ => form_quoteChars cs rest

lemma spells_digits (n : UInt64) : Spells (Decimal.digits n.toNat) [.integer n] := by
  obtain ⟨d, ds, hd⟩ := List.exists_cons_of_ne_nil (Decimal.digits_ne_nil n.toNat)
  have hdig : d.isDigit = true := Decimal.isDigit_of_mem_digits (hd ▸ List.mem_cons_self)
  rw [hd]
  refine spells_cons_of_form (not_isSpace_of_isSymbolChar (isSymbolChar_of_isDigit hdig)) ?_
    fun rest hr => hd ▸ form_digits n hr
  rintro rfl
  exact absurd hdig (by decide)

lemma Spells.list {s : List Char} {vs : List Sexp} (hs : Spells s vs) :
    Spells ('(' :: (s ++ [')'])) [.list vs] :=
  spells_cons_of_form (by decide) (by decide) fun rest _ => by simpa using form_list hs rest

lemma Spells.spaces {blank s : List Char} {vs : List Sexp} (hs : Spells s vs)
    (hb : ∀ c ∈ blank, isSpace c = true) : Spells (blank ++ s) vs := by
  induction blank with
  | nil => exact hs
  | cons c blank ih =>
    obtain ⟨hc, hblank⟩ := List.forall_mem_cons.1 hb
    exact (ih hblank).space hc

lemma Spells.intercalate {α : Type} {sep : List Char} {c : Char} {text : α → List Char}
    {v : α → Sexp} (l : List α) (hsep : ∀ d ∈ c :: sep, isSpace d = true)
    (h : ∀ a ∈ l, Spells (text a) [v a]) :
    Spells ((c :: sep).intercalate (l.map text)) (l.map v) := by
  induction l with
  | nil => exact spells_nil
  | cons a l ih =>
    obtain ⟨ha, hl⟩ := List.forall_mem_cons.1 h
    cases l with
    | nil => simpa using ha
    | cons b l =>
      have hrest := (ih hl).spaces hsep
      have happ := ha.append hrest (by simp [endsDot, hsep c List.mem_cons_self])
      simpa [List.intercalate] using happ

def SpellsAll (s : List Char) (vs : List Sexp) : Prop :=
  ∀ rest, forms (s ++ rest) = (forms rest).map (vs ++ ·)

lemma spellsAll_nil : SpellsAll [] [] := by
  intro rest
  cases h : forms rest <;> simp [h, Except.map]

lemma SpellsAll.append {s t : List Char} {vs ws : List Sexp} (hs : SpellsAll s vs)
    (ht : SpellsAll t ws) : SpellsAll (s ++ t) (vs ++ ws) := by
  intro rest
  rw [List.append_assoc, hs, ht]
  cases forms rest <;> simp [Except.map]

lemma spellsAll_space {c : Char} (hc : isSpace c = true) : SpellsAll [c] [] := by
  intro rest
  rw [← spellsAll_nil rest]
  exact forms_congr (skip_cons_of_space hc rest)

lemma SpellsAll.flatMap {α : Type} {text : α → List Char} {v : α → Sexp} (l : List α)
    (h : ∀ a ∈ l, SpellsAll (text a) [v a]) : SpellsAll (l.flatMap text) (l.map v) := by
  induction l with
  | nil => exact spellsAll_nil
  | cons a l ih =>
    obtain ⟨ha, hl⟩ := List.forall_mem_cons.1 h
    exact ha.append (ih hl)

lemma spellsAll_list {s : List Char} {vs : List Sexp} (hs : Spells s vs) :
    SpellsAll ('(' :: (s ++ [')'])) [.list vs] := by
  intro rest
  rw [List.cons_append, List.append_assoc]
  exact forms_of_form (form_list hs rest)

lemma SpellsAll.forms_eq {s : List Char} {vs : List Sexp} (hs : SpellsAll s vs) :
    forms s = .ok vs := by
  have h := hs []
  rw [List.append_nil] at h
  rw [h, forms]
  simp [skip, Except.map]

mutual

lemma spells_chars {v : Sexp} (h : ∀ name ∈ v.symbols, isName name = true) :
    Spells v.chars (itemsWithoutDots [v]) := by
  match v with
  | .string text =>
    have hs := spells_string text.toList
    rw [String.ofList_toList] at hs
    exact hs
  | .integer value => exact spells_digits value
  | .symbol name =>
    by_cases hdot : name = "."
    · subst hdot
      exact spells_dot
    · have hs := spells_name (h name List.mem_cons_self) hdot
      have hkeep : ¬ (Sexp.symbol name).isSymbol "." = true := by simpa [isSymbol_iff] using hdot
      simpa [itemsWithoutDots, withoutDots, chars, hkeep] using hs
  | .list vs => exact (spells_itemChars h).list

lemma spells_itemChars {vs : List Sexp} (h : ∀ name ∈ itemSymbols vs, isName name = true) :
    Spells (itemChars vs) (itemsWithoutDots vs) := by
  match vs with
  | [] => exact spells_nil
  | [v] => exact spells_chars fun name hn => h name (by simpa [itemSymbols] using hn)
  | v :: w :: rest =>
    have hv := spells_chars (v := v) fun name hn => h name (List.mem_append_left _ hn)
    have hrest : Spells (itemChars (w :: rest)) (itemsWithoutDots (w :: rest)) :=
      spells_itemChars fun name hn => h name (List.mem_append_right _ hn)
    have happ := hv.append (hrest.space (c := ' ') rfl) rfl
    have hcut : itemsWithoutDots (v :: w :: rest) =
        itemsWithoutDots [v] ++ itemsWithoutDots (w :: rest) := by
      by_cases hdot : v.isSymbol "." = true <;> simp [itemsWithoutDots, hdot]
    rw [hcut]
    exact happ

end

lemma form_chars_list {vs : List Sexp} (h : ∀ name ∈ itemSymbols vs, isName name = true)
    (rest : List Char) :
    form ((Sexp.list vs).chars ++ rest) = .ok (.list (itemsWithoutDots vs), rest) := by
  simpa [chars] using form_list (spells_itemChars h) rest

lemma form_chars {v : Sexp} (h : ∀ name ∈ v.symbols, isName name = true) {rest : List Char}
    (hr : endsDot rest = true) : form (v.chars ++ rest) = .ok (v.withoutDots, rest) := by
  cases v with
  | string text => rw [chars, form_quoteChars, String.ofList_toList, withoutDots]
  | integer value => exact form_digits value hr
  | symbol name => exact form_name (h name List.mem_cons_self) hr
  | list vs => exact form_chars_list h rest

end Reader

mutual

lemma withoutDots_eq_self {v : Sexp} (h : "." ∉ v.symbols) : v.withoutDots = v := by
  match v with
  | .string _ => rfl
  | .integer _ => rfl
  | .symbol _ => rfl
  | .list vs => exact congrArg Sexp.list (itemsWithoutDots_eq_self h)

lemma itemsWithoutDots_eq_self {vs : List Sexp} (h : "." ∉ itemSymbols vs) :
    itemsWithoutDots vs = vs := by
  match vs with
  | [] => rfl
  | v :: rest =>
    obtain ⟨hv, hrest⟩ : "." ∉ v.symbols ∧ "." ∉ itemSymbols rest := by
      simpa [itemSymbols] using h
    have hdot : ¬ v.isSymbol "." = true := by
      rw [isSymbol_iff]
      rintro rfl
      exact hv List.mem_cons_self
    simp [itemsWithoutDots, hdot, withoutDots_eq_self hv, itemsWithoutDots_eq_self hrest]

end

lemma length_itemsWithoutDots_le (vs : List Sexp) :
    (itemsWithoutDots vs).length ≤ vs.length := by
  induction vs with
  | nil => exact Nat.le_refl _
  | cons v rest ih =>
    by_cases hdot : v.isSymbol "." = true
    · simp only [itemsWithoutDots, hdot, if_true, List.length_cons]
      omega
    · simp only [itemsWithoutDots, hdot, List.length_cons]
      simpa using ih

mutual

lemma dot_notMem_itemSymbols {vs : List Sexp} (h : itemsWithoutDots vs = vs) :
    "." ∉ itemSymbols vs := by
  match vs with
  | [] => exact List.not_mem_nil
  | v :: rest =>
    by_cases hdot : v.isSymbol "." = true
    · -- without its dot the list is shorter, so it is not the same list
      have hlen := length_itemsWithoutDots_le rest
      rw [itemsWithoutDots, if_pos hdot] at h
      rw [h, List.length_cons] at hlen
      omega
    · rw [itemsWithoutDots, if_neg hdot] at h
      obtain ⟨hv, hrest⟩ := List.cons_eq_cons.1 h
      rw [itemSymbols, List.mem_append, not_or]
      exact ⟨dot_notMem_symbols hv hdot, dot_notMem_itemSymbols hrest⟩

lemma dot_notMem_symbols {v : Sexp} (h : v.withoutDots = v) (hdot : ¬ v.isSymbol "." = true) :
    "." ∉ v.symbols := by
  match v with
  | .string _ => exact List.not_mem_nil
  | .integer _ => exact List.not_mem_nil
  | .symbol name =>
    intro hmem
    obtain rfl := List.mem_singleton.1 hmem
    exact hdot rfl
  | .list vs => exact dot_notMem_itemSymbols (Sexp.list.inj h)

end

end Tagwire.Sexp

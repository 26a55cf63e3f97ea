import Mathlib
import Tagwire.Proofs.Sexp.Joining
import Tagwire.Proofs.TagsFile.RoundTrip

namespace Tagwire.TagsFile

open Sexp (field)

def headerNames : List String :=
  ["tags-format-version", "tags-comment", "timestamp", "tags-corpus-name"]

def IsHeaderForm (form : Sexp) : Prop :=
  ∃ name ∈ headerNames, ∃ v, form = field name v

def HeaderForms.after (h : HeaderForms) : Sexp → HeaderForms
  | .list [.symbol "tags-format-version", v] => { h with formatVersion := v.integer? }
  | .list [.symbol "tags-comment", v] => { h with comment := v.string? }
  | .list [.symbol "timestamp", v] => { h with timestamp := v.integer? }
  | .list [.symbol "tags-corpus-name", v] => { h with corpus := v.string? }
  | _ => h

lemma HeaderForms.after_eq_self (h : HeaderForms) {form : Sexp} (hform : ¬ IsHeaderForm form) :
    h.after form = h := by
  unfold HeaderForms.after
  split
  · next v => exact absurd ⟨"tags-format-version", by decide, v, rfl⟩ hform
  · next v => exact absurd ⟨"tags-comment", by decide, v, rfl⟩ hform
  · next v => exact absurd ⟨"timestamp", by decide, v, rfl⟩ hform
  · next v => exact absurd ⟨"tags-corpus-name", by decide, v, rfl⟩ hform
  · rfl

lemma foldl_after_eq_self (h : HeaderForms) {forms : List Sexp}
    (hforms : ∀ form ∈ forms, ¬ IsHeaderForm form) : forms.foldl HeaderForms.after h = h := by
  induction forms with
  | nil => rfl
  | cons form forms ih =>
    obtain ⟨hform, hrest⟩ := List.forall_mem_cons.1 hforms
    rw [List.foldl_cons, h.after_eq_self hform]
    exact ih hrest

def Parsed.onto (p : Parsed) (h : HeaderForms) (q : Parsed) : Parsed :=
  ⟨h, p.files ++ q.files, p.deleted ++ q.deleted⟩

lemma isHeaderForm_iff {head : String} {rest : List Sexp} :
    IsHeaderForm (.list (.symbol head :: rest)) ↔ head ∈ headerNames ∧ ∃ v, rest = [v] := by
  constructor
  · rintro ⟨name, hname, v, hform⟩
    obtain ⟨rfl, rfl⟩ : head = name ∧ rest = [v] := by simpa [field] using hform
    exact ⟨hname, v, rfl⟩
  · rintro ⟨hname, v, rfl⟩
    exact ⟨head, hname, v, rfl⟩

lemma take_onto (p : Parsed) (form : Sexp) :
    p.take form = (Parsed.take {} form).map (p.onto (p.header.after form)) := by
  cases form with
  | list items =>
    rcases items with _ | ⟨_ | _ | head | _, rest⟩
    · rfl
    · rfl
    · rfl
    · simp only [Parsed.take]
      split
      · simp [Except.map, Parsed.onto, HeaderForms.after]
      · simp [Except.map, Parsed.onto, HeaderForms.after]
      · simp [Except.map, Parsed.onto, HeaderForms.after]
      · simp [Except.map, Parsed.onto, HeaderForms.after]
      · next fields =>
        rw [p.header.after_eq_self (mt isHeaderForm_iff.1 (by simp [headerNames]))]
        cases File.ofFields rest <;> simp [Except.map, Parsed.onto]
      · next path =>
        rw [p.header.after_eq_self (mt isHeaderForm_iff.1 (by simp [headerNames]))]
        simp [Except.map, Parsed.onto]
      · next _ h₁ h₂ h₃ h₄ _ =>
        have hform : ¬ IsHeaderForm (.list (.symbol head :: rest)) := by
          rw [isHeaderForm_iff]
          rintro ⟨hname, v, rfl⟩
          simp only [headerNames, List.mem_cons, List.not_mem_nil, or_false] at hname
          rcases hname with rfl | rfl | rfl | rfl
          · exact h₁ v rfl rfl
          · exact h₂ v rfl rfl
          · exact h₃ v rfl rfl
          · exact h₄ v rfl rfl
        rw [p.header.after_eq_self hform]
        simp [Except.map, Parsed.onto]
    · rfl
  | _ => rfl

lemma foldlM_take_onto (p : Parsed) (forms : List Sexp) :
    forms.foldlM Parsed.take p =
      (forms.foldlM Parsed.take {}).map (p.onto (forms.foldl HeaderForms.after p.header)) := by
  induction forms generalizing p with
  | nil => simp [pure, Except.pure, Except.map, Parsed.onto]
  | cons form forms ih =>
    rw [List.foldlM_cons, List.foldlM_cons, List.foldl_cons, take_onto]
    cases Parsed.take {} form with
    | error e => rfl
    | ok q =>
      simp only [Except.map, bind, Except.bind]
      rw [ih, ih q]
      cases forms.foldlM Parsed.take {} with
      | error e => rfl
      | ok r => simp [Except.map, Parsed.onto]

def headerOf (forms : List Sexp) : HeaderForms :=
  forms.foldl HeaderForms.after {}

lemma headerOf_append_left {f₁ f₂ : List Sexp} (h : ∀ form ∈ f₂, ¬ IsHeaderForm form) :
    headerOf (f₁ ++ f₂) = headerOf f₁ := by
  rw [headerOf, List.foldl_append, foldl_after_eq_self _ h]
  rfl

lemma headerOf_append_right {f₁ f₂ : List Sexp} (h : ∀ form ∈ f₁, ¬ IsHeaderForm form) :
    headerOf (f₁ ++ f₂) = headerOf f₂ := by
  rw [headerOf, List.foldl_append, foldl_after_eq_self _ h]
  rfl

lemma header_of_foldlM {forms : List Sexp} {p : Parsed} (h : forms.foldlM Parsed.take {} = .ok p) :
    p.header = headerOf forms := by
  have honto := foldlM_take_onto {} forms
  rw [h] at honto
  exact congrArg Parsed.header (Except.ok.inj honto)

variable {f₁ f₂ : List Sexp} {t₁ t₂ : TagsFile}

lemma ofForms_header (h : ofForms f₁ = .ok t₁) : t₁.header = (headerOf f₁).header? := by
  obtain ⟨p, hp, rfl⟩ := Sexp.Reader.map_eq_ok.1 h
  rw [← header_of_foldlM hp]
  rfl

lemma ofForms_append (h₁ : ofForms f₁ = .ok t₁) (h₂ : ofForms f₂ = .ok t₂) :
    ofForms (f₁ ++ f₂) =
      .ok ⟨(headerOf (f₁ ++ f₂)).header?, t₁.files ++ t₂.files, t₁.deleted ++ t₂.deleted⟩ := by
  obtain ⟨p, hp, rfl⟩ := Sexp.Reader.map_eq_ok.1 h₁
  obtain ⟨q, hq, rfl⟩ := Sexp.Reader.map_eq_ok.1 h₂
  have hheader : headerOf (f₁ ++ f₂) = f₂.foldl HeaderForms.after p.header := by
    rw [header_of_foldlM hp, headerOf, List.foldl_append]
    rfl
  rw [ofForms, List.foldlM_append, hp, hheader]
  simp only [bind, Except.bind]
  rw [foldlM_take_onto, hq]
  rfl

lemma parse_eq_ok {text : String} {t : TagsFile} (h : parse text = .ok t) :
    ∃ forms, Sexp.readAll text = .ok forms ∧ ofForms forms = .ok t := by
  unfold parse at h
  split at h
  · cases h
  · next forms hread =>
    refine ⟨forms, hread, ?_⟩
    cases hforms : ofForms forms with
    | error e => simp [hforms, Except.mapError] at h
    | ok t' =>
      rw [hforms] at h
      exact congrArg Except.ok (Except.ok.inj h)

def HasHeaderForm (text : String) : Prop :=
  ∃ forms, Sexp.readAll text = .ok forms ∧ ∃ form ∈ forms, IsHeaderForm form

lemma parse_joined {text₁ text₂ : String} (h₁ : parse text₁ = .ok t₁)
    (h₂ : parse text₂ = .ok t₂) :
    ∃ t, parse (text₁ ++ "\n" ++ text₂) = .ok t ∧ t.files = t₁.files ++ t₂.files ∧
      t.deleted = t₁.deleted ++ t₂.deleted ∧ (¬ HasHeaderForm text₂ → t.header = t₁.header) ∧
        (¬ HasHeaderForm text₁ → t.header = t₂.header) := by
  obtain ⟨f₁, hread₁, hf₁⟩ := parse_eq_ok h₁
  obtain ⟨f₂, hread₂, hf₂⟩ := parse_eq_ok h₂
  have hread : Sexp.readAll (text₁ ++ "\n" ++ text₂) = .ok (f₁ ++ f₂) := by
    rw [Sexp.readAll_joined hread₁, hread₂]
    rfl
  refine ⟨⟨(headerOf (f₁ ++ f₂)).header?, t₁.files ++ t₂.files, t₁.deleted ++ t₂.deleted⟩, ?_, rfl,
    rfl, fun hnone => ?_, fun hnone => ?_⟩
  · unfold parse
    rw [hread]
    simp only
    rw [ofForms_append hf₁ hf₂]
    rfl
  · have hf : ∀ form ∈ f₂, ¬ IsHeaderForm form :=
      fun form hmem hform => hnone ⟨f₂, hread₂, form, hmem, hform⟩
    rw [headerOf_append_left hf, ofForms_header hf₁]
  · have hf : ∀ form ∈ f₁, ¬ IsHeaderForm form :=
      fun form hmem hform => hnone ⟨f₁, hread₁, form, hmem, hform⟩
    rw [headerOf_append_right hf, ofForms_header hf₂]

theorem read_and_parse_joined (text₁ text₂ : String) :
    (∀ f₁, Sexp.readAll text₁ = .ok f₁ →
      (∀ f₂, Sexp.readAll text₂ = .ok f₂ →
        Sexp.readAll (text₁ ++ "\n" ++ text₂) = .ok (f₁ ++ f₂)) ∧
      ∀ e, Sexp.readAll text₂ = .error e →
        Sexp.readAll (text₁ ++ "\n" ++ text₂) = .error e) ∧
    ∀ t₁ t₂, parse text₁ = .ok t₁ → parse text₂ = .ok t₂ →
      ∃ t, parse (text₁ ++ "\n" ++ text₂) = .ok t ∧ t.files = t₁.files ++ t₂.files ∧
        t.deleted = t₁.deleted ++ t₂.deleted ∧ (¬ HasHeaderForm text₂ → t.header = t₁.header) ∧
          (¬ HasHeaderForm text₁ → t.header = t₂.header) := by
  refine ⟨fun f₁ h₁ => ?_, fun t₁ t₂ h₁ h₂ => parse_joined h₁ h₂⟩
  have hjoin := Sexp.readAll_joined h₁ text₂
  constructor
  · intro f₂ h₂
    rw [hjoin, h₂]
    rfl
  · intro e h₂
    rw [hjoin, h₂]
    rfl

theorem read_and_parse_joined_update :
    let versioned := field "tags-format-version" (.integer 2)
    let update := Sexp.list [.symbol "file", field "path" (.string "\\"), field "language" (.string "c")]
    Sexp.readAll "f\\ " = .ok [.symbol "f "] ∧ Sexp.readAll "\")" = .error .unterminatedString ∧
    Sexp.readAll ("f\\ " ++ "\n" ++ "\")") = .error .unterminatedString ∧
    ¬ HasHeaderForm update.text ∧
    parse (versioned.text ++ "\n" ++ update.text) =
      .ok ⟨some ⟨2, "", 0, ""⟩, [⟨"\\", "c", []⟩], []⟩ := by
  intro versioned update
  have hblank : Sexp.readAll "f\\ " = .ok [.symbol "f "] := by with_unfolding_all rfl
  have hbroken : Sexp.readAll "\")" = .error .unterminatedString := by with_unfolding_all rfl
  have hread₁ : Sexp.readAll versioned.text = .ok [versioned] :=
    Sexp.readAll_text (show versioned.ReadableItem by decide)
  have hread₂ : Sexp.readAll update.text = .ok [update] := Sexp.readAll_text (by decide)
  have hnone : ¬ HasHeaderForm update.text := by
    rintro ⟨forms, hf, form, hmem, hform⟩
    rw [hread₂] at hf
    cases hf
    obtain rfl := List.mem_singleton.1 hmem
    simp [update, isHeaderForm_iff] at hform
  have hfull : parse versioned.text = .ok ⟨some ⟨2, "", 0, ""⟩, [], []⟩ := by
    rw [parse, hread₁]
    rfl
  have hupdate : parse update.text = .ok ⟨none, [⟨"\\", "c", []⟩], []⟩ := by
    rw [parse, hread₂]
    rfl
  refine ⟨hblank, hbroken, ?_, hnone, ?_⟩
  · exact ((read_and_parse_joined "f\\ " "\")").1 _ hblank).2 _ hbroken
  · obtain ⟨⟨header, files, deleted⟩, ht, hfiles, hdeleted, hheader, -⟩ :=
      (read_and_parse_joined versioned.text update.text).2 _ _ hfull hupdate
    rw [ht]
    rw [show files = [⟨"\\", "c", []⟩] from hfiles, show deleted = [] from hdeleted,
      show header = some ⟨2, "", 0, ""⟩ from hheader hnone]

end Tagwire.TagsFile

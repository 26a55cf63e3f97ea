import Mathlib
import Tagwire.Proofs.TagsFile.Joining

namespace Tagwire.TagsFile

open Sexp (field)

def fileKeys : List String :=
  ["path", "language", "contents"]

def itemKeys : List String :=
  ["descriptor", "line", "offset", "snippet"]

def knownHeads : List String :=
  ["file", "deleted"] ++ headerNames

def keyOf? : Sexp → Option String
  | .list [.symbol key, _] => some key
  | _ => none

/-- The fields of a form in another order, when no key occurs twice, or with one more field that
the reader does not look for. -/
inductive FieldEdit (known : List String) : List Sexp → List Sexp → Prop
  | permute {fields fields' : List Sexp} (hkeys : (fields.filterMap keyOf?).Nodup)
      (h : fields.Perm fields') : FieldEdit known fields fields'
  | insert (before after : List Sexp) {key : String} (value : Sexp) (hkey : key ∉ known) :
      FieldEdit known (before ++ after) (before ++ field key value :: after)

inductive ItemEdit : Sexp → Sexp → Prop
  | fields {fields fields' : List Sexp} (h : FieldEdit itemKeys fields fields') :
      ItemEdit (.list (.symbol "item" :: fields)) (.list (.symbol "item" :: fields'))

inductive FileEdit : List Sexp → List Sexp → Prop
  | fields {fields fields' : List Sexp} (h : FieldEdit fileKeys fields fields') :
      FileEdit fields fields'
  | item (before after left right : List Sexp) {item item' : Sexp} (h : ItemEdit item item') :
      FileEdit (before ++ field "contents" (.list (left ++ item :: right)) :: after)
        (before ++ field "contents" (.list (left ++ item' :: right)) :: after)

inductive FormsEdit : List Sexp → List Sexp → Prop
  | file (before after : List Sexp) {fields fields' : List Sexp} (h : FileEdit fields fields') :
      FormsEdit (before ++ .list (.symbol "file" :: fields) :: after)
        (before ++ .list (.symbol "file" :: fields') :: after)
  | insert (before after : List Sexp) {head : String} (rest : List Sexp)
      (hhead : head ∉ knownHeads) :
      FormsEdit (before ++ after) (before ++ .list (.symbol head :: rest) :: after)

lemma filterMap_keyOf? (entries : Alist) :
    (entries.map fun e => field e.1 e.2).filterMap keyOf? = entries.map Prod.fst := by
  rw [List.filterMap_map]
  exact congrFun (List.filterMap_eq_map (f := Prod.fst)) entries

lemma FieldEdit.ofItems {known : List String} {fields fields' : List Sexp} {entries : Alist}
    (h : FieldEdit known fields fields') (hentries : Alist.ofItems fields = .ok entries) :
    ∃ entries', Alist.ofItems fields' = .ok entries' ∧
      ∀ key ∈ known, entries'.find? key = entries.find? key := by
  cases h with
  | permute hkeys h =>
    obtain rfl := Alist.ofItems_eq_ok_iff.1 hentries
    rw [filterMap_keyOf?] at hkeys
    obtain ⟨entries', rfl, hperm⟩ :=
      (iff_of_eq (congrFun₂ (List.eq_map_comp_perm _) fields' entries)).2 h.symm
    refine ⟨entries', Alist.ofItems_field entries', fun key _ => ?_⟩
    exact Alist.find?_perm hperm.symm hkeys key
  | @insert before after other value hother =>
    obtain ⟨front, rest, rfl, rfl, rfl⟩ :=
      List.map_eq_append_iff.1 (Alist.ofItems_eq_ok_iff.1 hentries).symm
    refine ⟨front ++ (other, value) :: rest, ?_, fun key hkey => ?_⟩
    · rw [Alist.ofItems_eq_ok_iff, List.map_append, List.map_cons]
    · apply Alist.find?_insert
      rintro rfl
      exact hother hkey

lemma ItemEdit.ofSexp {form form' : Sexp} {item : Item} (h : ItemEdit form form')
    (hitem : Item.ofSexp form = .ok item) : Item.ofSexp form' = .ok item := by
  obtain ⟨h⟩ := h
  rename_i fields fields'
  cases hentries : Alist.ofItems fields with
  | error fault =>
    simp [Item.ofSexp, itemFields, hentries, Except.mapError, bind, Except.bind] at hitem
  | ok entries =>
    obtain ⟨entries', hentries', hfind⟩ := h.ofItems hentries
    have hdescriptor := hfind "descriptor" (by decide)
    have hline := hfind "line" (by decide)
    have hoffset := hfind "offset" (by decide)
    have hsnippet := hfind "snippet" (by decide)
    rw [← hitem]
    simp only [Item.ofSexp, itemFields, hentries, hentries', Except.mapError, bind, Except.bind,
      Alist.integer?, Alist.string?, hdescriptor, hline, hoffset, hsnippet]

lemma mapM_replace {α β ε : Type} {f : α → Except ε β} {left right : List α} {a a' : α}
    {bs : List β} (ha : ∀ b, f a = .ok b → f a' = .ok b)
    (h : (left ++ a :: right).mapM f = .ok bs) : (left ++ a' :: right).mapM f = .ok bs := by
  rw [List.mapM_append, List.mapM_cons] at h ⊢
  cases hleft : left.mapM f with
  | error e =>
    rw [hleft] at h
    cases h
  | ok front =>
    cases hfa : f a with
    | error e =>
      rw [hleft, hfa] at h
      cases h
    | ok b =>
      rw [hleft, hfa] at h
      rwa [ha b hfa]

lemma ofFields_congr {fields fields' : List Sexp} {entries entries' : Alist}
    (hentries : Alist.ofItems fields = .ok entries)
    (hentries' : Alist.ofItems fields' = .ok entries')
    (hfind : ∀ key ∈ fileKeys, entries'.find? key = entries.find? key) :
    File.ofFields fields' = File.ofFields fields := by
  have hpath := hfind "path" (by decide)
  have hlanguage := hfind "language" (by decide)
  have hcontents := hfind "contents" (by decide)
  simp only [File.ofFields, hentries, hentries', Except.mapError, bind, Except.bind,
    Alist.string?, hpath, hlanguage, hcontents]

lemma ofFields_item {fields fields' left right : List Sexp} {entries entries' : Alist}
    {form form' : Sexp} {file : File} (hentries : Alist.ofItems fields = .ok entries)
    (hentries' : Alist.ofItems fields' = .ok entries')
    (hpath : entries'.find? "path" = entries.find? "path")
    (hlanguage : entries'.find? "language" = entries.find? "language")
    (hcontents : entries.find? "contents" = some (.list (left ++ form :: right)))
    (hcontents' : entries'.find? "contents" = some (.list (left ++ form' :: right)))
    (h : ItemEdit form form') (hfile : File.ofFields fields = .ok file) :
    File.ofFields fields' = .ok file := by
  simp only [File.ofFields, hentries, hentries', Except.mapError, bind, Except.bind,
    Alist.string?, hpath, hlanguage, hcontents, hcontents'] at hfile ⊢
  cases hitems : (left ++ form :: right).mapM Item.ofSexp with
  | ok items =>
    rw [hitems] at hfile
    rw [mapM_replace (fun _ => h.ofSexp) hitems]
    exact hfile
  | error fault =>
    rw [hitems] at hfile
    split at hfile
    · split at hfile <;> cases hfile
    · cases hfile

lemma FileEdit.ofFields {fields fields' : List Sexp} {file : File} (h : FileEdit fields fields')
    (hfile : File.ofFields fields = .ok file) : File.ofFields fields' = .ok file := by
  cases hentries : Alist.ofItems fields with
  | error fault =>
    simp [File.ofFields, hentries, Except.mapError, bind, Except.bind] at hfile
  | ok entries =>
    cases h with
    | fields h =>
      obtain ⟨entries', hentries', hfind⟩ := h.ofItems hentries
      rw [ofFields_congr hentries hentries' hfind, hfile]
    | item before after left right h =>
      obtain ⟨front, rest, rfl, haround⟩ := Alist.ofItems_around hentries
      have hother (value value' : Sexp) {key : String} (hkey : "contents" ≠ key) :
          Alist.find? key (front ++ ("contents", value) :: rest) =
            Alist.find? key (front ++ ("contents", value') :: rest) := by
        rw [Alist.find?_insert _ _ _ hkey, Alist.find?_insert _ _ _ hkey]
      have hcontents (value : Sexp) :
          Alist.find? "contents" (front ++ ("contents", value) :: rest) =
            (Alist.find? "contents" rest).or (some value) := by
        rw [Alist.find?_append, Alist.find?]
        cases Alist.find? "contents" rest <;> simp
      cases hlater : Alist.find? "contents" rest with
      | some later =>
        -- a later field with the same key is the one that is read
        rw [ofFields_congr hentries (haround _) fun key _ => ?_, hfile]
        by_cases hkey : "contents" = key
        · subst hkey
          rw [hcontents, hcontents, hlater]
          rfl
        · exact hother _ _ hkey
      | none =>
        have hread (value : Sexp) := (hcontents value).trans (by rw [hlater, Option.none_or])
        exact ofFields_item hentries (haround _) (hother _ _ (by decide)) (hother _ _ (by decide))
          (hread _) (hread _) h hfile

lemma take_file_edit {fields fields' : List Sexp} {p q : Parsed} (h : FileEdit fields fields')
    (hp : p.take (.list (.symbol "file" :: fields)) = .ok q) :
    p.take (.list (.symbol "file" :: fields')) = .ok q := by
  obtain ⟨file, hfile, rfl⟩ := Sexp.Reader.map_eq_ok.1 hp
  exact Sexp.Reader.map_eq_ok.2 ⟨file, h.ofFields hfile, rfl⟩

lemma take_unknown (p : Parsed) {head : String} (rest : List Sexp) (h : head ∉ knownHeads) :
    p.take (.list (.symbol head :: rest)) = .ok p := by
  simp only [knownHeads, headerNames, List.cons_append, List.nil_append, List.mem_cons,
    List.not_mem_nil, or_false, not_or] at h
  obtain ⟨hfile, hdeleted, hversion, hcomment, htimestamp, hcorpus⟩ := h
  simp only [Parsed.take]
  split
  · exact absurd rfl hversion
  · exact absurd rfl hcomment
  · exact absurd rfl htimestamp
  · exact absurd rfl hcorpus
  · exact absurd rfl hfile
  · exact absurd rfl hdeleted
  · rfl

lemma foldlM_replace {α β ε : Type} {f : β → α → Except ε β} {left right : List α}
    {a a' : α} {b c : β} (ha : ∀ b c, f b a = .ok c → f b a' = .ok c)
    (h : (left ++ a :: right).foldlM f b = .ok c) : (left ++ a' :: right).foldlM f b = .ok c := by
  rw [List.foldlM_append] at h ⊢
  cases hleft : left.foldlM f b with
  | error e =>
    rw [hleft] at h
    cases h
  | ok d =>
    rw [hleft] at h
    simp only [bind, Except.bind, List.foldlM_cons] at h ⊢
    cases hfa : f d a with
    | error e =>
      rw [hfa] at h
      cases h
    | ok d' =>
      rw [hfa] at h
      rwa [ha d d' hfa]

lemma FormsEdit.ofForms {forms forms' : List Sexp} {t : TagsFile} (h : FormsEdit forms forms')
    (ht : TagsFile.ofForms forms = .ok t) : TagsFile.ofForms forms' = .ok t := by
  obtain ⟨p, hp, rfl⟩ := Sexp.Reader.map_eq_ok.1 ht
  refine Sexp.Reader.map_eq_ok.2 ⟨p, ?_, rfl⟩
  cases h with
  | file before after h => exact foldlM_replace (fun _ _ => take_file_edit h) hp
  | insert before after rest hhead =>
    rw [List.foldlM_append] at hp ⊢
    simp only [List.foldlM_cons, take_unknown _ rest hhead]
    exact hp

def Edited : List Sexp → List Sexp → Prop :=
  Relation.ReflTransGen FormsEdit

lemma Edited.ofForms {forms forms' : List Sexp} {t : TagsFile} (h : Edited forms forms')
    (ht : TagsFile.ofForms forms = .ok t) : TagsFile.ofForms forms' = .ok t := by
  induction h with
  | refl => exact ht
  | tail _ hedit ih => exact hedit.ofForms ih

theorem parse_edited {text text' : String} {forms forms' : List Sexp} {t : TagsFile}
    (hread : Sexp.readAll text = .ok forms) (hread' : Sexp.readAll text' = .ok forms')
    (hedited : Edited forms forms') (ht : parse text = .ok t) : parse text' = .ok t := by
  obtain ⟨_, hforms, hparsed⟩ := parse_eq_ok ht
  obtain rfl := Except.ok.inj (hread.symm.trans hforms)
  rw [parse, hread']
  simp only [hedited.ofForms hparsed]
  rfl

theorem parse_edited_at_three_levels :
    let line := field "line" (.integer 3)
    let offset := field "offset" (.integer 9)
    let descriptor := field "descriptor" (.symbol "d")
    let item : Sexp := .list [.symbol "item", line, offset, descriptor]
    let item' : Sexp := .list [.symbol "item", descriptor, line, field "size" (.string "x"), offset]
    let path := field "path" (.string "a.cc")
    let language := field "language" (.string "c++")
    let file : Sexp := .list [.symbol "file", path, language, field "contents" (.list [item])]
    let file' : Sexp := .list [.symbol "file", field "contents" (.list [item']), path, language]
    let note : Sexp := .list [.symbol "note", .list []]
    let t : TagsFile := { files := [⟨"a.cc", "c++", [⟨3, 9, .other (.symbol "d"), []⟩]⟩] }
    parse file.text = .ok t ∧ parse (note.text ++ "\n" ++ file'.text) = .ok t := by
  intro line offset descriptor item item' path language file file' note t
  have hread : Sexp.readAll file.text = .ok [file] := Sexp.readAll_text (by decide)
  have hnote : Sexp.readAll note.text = .ok [note] := Sexp.readAll_text (by decide)
  have hread' : Sexp.readAll (note.text ++ "\n" ++ file'.text) = .ok [note, file'] := by
    rw [Sexp.readAll_joined hnote, Sexp.readAll_text (by decide)]
    rfl
  have hparse : parse file.text = .ok t := by
    rw [parse, hread]
    rfl
  have hinner : ItemEdit item (.list [.symbol "item", descriptor, line, offset]) :=
    .fields (.permute (by decide) (List.perm_append_comm : ([line, offset] ++ [descriptor]).Perm _))
  have hsize : ItemEdit (.list [.symbol "item", descriptor, line, offset]) item' :=
    .fields (.insert [descriptor, line] [offset] (.string "x") (by decide))
  have hfields : FieldEdit fileKeys [path, language, field "contents" (.list [item'])]
      [field "contents" (.list [item']), path, language] :=
    .permute (by decide) (List.perm_append_comm : ([path, language] ++ [_]).Perm _)
  have hpermuted : FormsEdit [file] _ :=
    .file [] [] (.item [path, language] [] [] [] hinner)
  have hinserted : FormsEdit _ _ :=
    .file [] [] (.item [path, language] [] [] [] hsize)
  have hmoved : FormsEdit _ [file'] := .file [] [] (.fields hfields)
  have hnoted : FormsEdit [file'] [note, file'] := .insert [] [file'] [.list []] (by decide)
  have hedited : Edited [file] [note, file'] :=
    (((Relation.ReflTransGen.single hpermuted).tail hinserted).tail hmoved).tail hnoted
  exact ⟨hparse, parse_edited hread hread' hedited hparse⟩

end Tagwire.TagsFile

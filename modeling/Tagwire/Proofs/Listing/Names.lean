import Mathlib
import Tagwire.Listing
import Tagwire.Proofs.Text.Utf8

namespace Tagwire.Listing

def Precedes (a b : String) : Prop :=
  Utf8.encode a < Utf8.encode b

instance : Std.Irrefl Precedes :=
  ⟨fun _ => List.lt_irrefl _⟩

instance : Std.Antisymm Precedes :=
  ⟨fun _ _ h h' => absurd h' (List.lt_asymm h)⟩

lemma Precedes.trans {a b c : String} (h : Precedes a b) (h' : Precedes b c) : Precedes a c :=
  List.lt_trans h h'

lemma precedes_of_not {a b : String} (h : ¬ Precedes a b) (hne : a ≠ b) : Precedes b a := by
  by_contra h'
  exact hne (Utf8.encode_injective (Std.Trichotomous.trichotomous _ _ h h'))

lemma bytesBefore_iff (a b : List UInt8) : bytesBefore a b = true ↔ a < b := by
  induction a generalizing b with
  | nil => cases b <;> simp [bytesBefore]
  | cons x a ih =>
    cases b with
    | nil => simp [bytesBefore]
    | cons y b =>
      rw [bytesBefore, List.cons_lt_cons_iff]
      by_cases h : x = y
      · simp [h, ih]
      · simp [h]

lemma before_iff {a b : String} : before a b = true ↔ Precedes a b :=
  bytesBefore_iff _ _

lemma mem_insertName {name n : String} {ns : List String} :
    n ∈ insertName name ns ↔ n = name ∨ n ∈ ns := by
  induction ns with
  | nil => simp [insertName]
  | cons m ns ih =>
    rw [insertName]
    split_ifs with hbefore hsame
    · exact List.mem_cons
    · simp [hsame]
    · rw [List.mem_cons, List.mem_cons, ih, or_left_comm]

lemma pairwise_insertName (name : String) {ns : List String} (h : ns.Pairwise Precedes) :
    (insertName name ns).Pairwise Precedes := by
  induction ns with
  | nil => exact List.pairwise_singleton _ _
  | cons n ns ih =>
    obtain ⟨hn, hns⟩ := List.pairwise_cons.1 h
    rw [insertName]
    split_ifs with hbefore hsame
    · have hname := before_iff.1 hbefore
      exact .cons (List.forall_mem_cons.2 ⟨hname, fun m hm => hname.trans (hn m hm)⟩) h
    · exact h
    · have hname := precedes_of_not (mt before_iff.2 hbefore) hsame
      refine .cons (fun m hm => ?_) (ih hns)
      rcases mem_insertName.1 hm with rfl | hold
      · exact hname
      · exact hn m hold

lemma pairwise_names (tags : List TagRecord) : (names tags).Pairwise Precedes := by
  induction tags with
  | nil => exact .nil
  | cons t tags ih => exact pairwise_insertName t.tag ih

lemma mem_names {tags : List TagRecord} {name : String} :
    name ∈ names tags ↔ ∃ t ∈ tags, t.tag = name := by
  induction tags with
  | nil => simp [names]
  | cons t tags ih =>
    change name ∈ insertName t.tag (names tags) ↔ _
    rw [mem_insertName, ih, List.exists_mem_cons_iff, eq_comm]

theorem names_canonical (tags : List TagRecord) :
    (names tags).Pairwise (fun a b => Utf8.encode a < Utf8.encode b) ∧
      (∀ name, name ∈ names tags ↔ ∃ t ∈ tags, t.tag = name) ∧
      ∀ others : List TagRecord,
        (∀ name, (∃ t ∈ others, t.tag = name) ↔ ∃ t ∈ tags, t.tag = name) →
          names others = names tags := by
  refine ⟨pairwise_names tags, fun _ => mem_names, ?_⟩
  intro others hsame
  apply (pairwise_names others).eq_of_mem_iff (pairwise_names tags)
  intro name
  rw [mem_names, mem_names, hsame]

theorem names_canonical_reordered :
    let t (name : String) : TagRecord := ⟨"a.c", name, 1, 0, ""⟩
    let tags := [t "𝔸", t "ﬁ", t "Z", t "ﬁ"]
    let others := [t "Z", t "Z", t "ﬁ", t "𝔸"]
    (∀ name, (∃ r ∈ others, r.tag = name) ↔ ∃ r ∈ tags, r.tag = name) ∧
      names others = names tags ∧ names tags = ["Z", "ﬁ", "𝔸"] := by
  intro t tags others
  have hsame (name : String) : (∃ r ∈ others, r.tag = name) ↔ ∃ r ∈ tags, r.tag = name := by
    simp only [others, tags, t, List.mem_cons, List.not_mem_nil, or_false, exists_eq_or_imp,
      exists_eq_left]
    tauto
  exact ⟨hsame, (names_canonical tags).2.2 others hsame, by decide +kernel⟩

end Tagwire.Listing

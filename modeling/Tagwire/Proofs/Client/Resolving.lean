import Mathlib
import Tagwire.Client

namespace Tagwire.Resolver

def derivedAt (placement : Placement) (resolvers : List Resolver) (tag : TagRecord) :
    List TagRecord :=
  (resolvers.filter fun r => r.placement = placement).filterMap fun r => r.derive tag

lemma derivedAt_cons (placement : Placement) (r : Resolver) (resolvers : List Resolver)
    (tag : TagRecord) : derivedAt placement (r :: resolvers) tag =
      (if r.placement = placement then (r.derive tag).toList else []) ++
        derivedAt placement resolvers tag := by
  by_cases hp : r.placement = placement
  · cases hd : r.derive tag <;> simp [derivedAt, hp, hd]
  · simp [derivedAt, hp]

lemma foldl_put_derived (resolvers : List Resolver) (tag : TagRecord) (f : Found) :
    (derived resolvers tag).foldl Found.put f =
      ⟨f.front ++ derivedAt .prepend resolvers tag, f.hits ++ derivedAt .append resolvers tag⟩ := by
  induction resolvers generalizing f with
  | nil => simp [derived, derivedAt]
  | cons r resolvers ih =>
    have hcons : derived (r :: resolvers) tag =
        ((r.derive tag).map fun t => (t, r.placement)).toList ++ derived resolvers tag := by
      cases hd : r.derive tag <;> simp [derived, hd]
    rw [hcons, List.foldl_append, ih, derivedAt_cons, derivedAt_cons]
    cases r.derive tag with
    | none => simp
    | some t => cases r.placement <;> simp [Found.put]

lemma take_eq (resolvers : List Resolver) (f : Found) (tag : TagRecord) :
    f.take resolvers tag = ⟨f.front ++ derivedAt .prepend resolvers tag,
      f.hits ++ tag :: derivedAt .append resolvers tag⟩ := by
  rw [Found.take, foldl_put_derived, List.append_assoc, List.singleton_append]

lemma foldl_take (resolvers : List Resolver) (tags : List TagRecord) (f : Found) :
    tags.foldl (Found.take resolvers) f =
      ⟨f.front ++ tags.flatMap (derivedAt .prepend resolvers),
        f.hits ++ tags.flatMap fun t => t :: derivedAt .append resolvers t⟩ := by
  induction tags generalizing f with
  | nil => simp
  | cons t tags ih => simp [ih, take_eq]

lemma apply_eq (resolvers : List Resolver) (tags : List TagRecord) :
    apply resolvers tags = tags.flatMap (derivedAt .prepend resolvers) ++
      tags.flatMap fun t => t :: derivedAt .append resolvers t := by
  unfold apply
  split
  · next h =>
    obtain rfl := List.isEmpty_iff.1 h
    simp [derivedAt]
  · simp [foldl_take]

lemma sublist_flatMap_cons (g : TagRecord → List TagRecord) (tags : List TagRecord) :
    tags.Sublist (tags.flatMap fun t => t :: g t) := by
  induction tags with
  | nil => exact .slnil
  | cons t tags ih =>
    rw [List.flatMap_cons, List.cons_append]
    exact (List.sublist_append_of_sublist_right ih).cons_cons t

lemma length_derivedAt (resolvers : List Resolver) (tag : TagRecord) :
    (derivedAt .prepend resolvers tag).length + (derivedAt .append resolvers tag).length =
      resolvers.countP fun r => (r.derive tag).isSome := by
  induction resolvers with
  | nil => rfl
  | cons r resolvers ih =>
    rw [derivedAt_cons, derivedAt_cons, List.countP_cons, ← ih]
    cases r.derive tag with
    | none => simp
    | some t => cases r.placement <;> simp <;> omega

lemma length_apply (resolvers : List Resolver) (tags : List TagRecord) :
    (apply resolvers tags).length = tags.length +
      (tags.map fun t => resolvers.countP fun r => (r.derive t).isSome).sum := by
  rw [apply_eq]
  induction tags with
  | nil => rfl
  | cons t tags ih =>
    have hlength := length_derivedAt resolvers t
    simp only [List.flatMap_cons, List.length_append, List.length_cons, List.map_cons,
      List.sum_cons] at ih ⊢
    omega

def AlikeOn (tags : List TagRecord) : List Resolver → List Resolver → Prop :=
  List.Forall₂ fun r s => r.placement = s.placement ∧ ∀ t ∈ tags, r.derive t = s.derive t

lemma AlikeOn.derivedAt_eq {tags : List TagRecord} {resolvers others : List Resolver}
    (h : AlikeOn tags resolvers others) (placement : Placement) {tag : TagRecord}
    (htag : tag ∈ tags) : derivedAt placement others tag = derivedAt placement resolvers tag := by
  induction h with
  | nil => rfl
  | @cons r s resolvers others hrs _ ih =>
    obtain ⟨hplacement, hderive⟩ := hrs
    rw [derivedAt_cons, derivedAt_cons, hplacement, hderive tag htag, ih]

lemma AlikeOn.apply_eq {tags : List TagRecord} {resolvers others : List Resolver}
    (h : AlikeOn tags resolvers others) : apply others tags = apply resolvers tags := by
  rw [Resolver.apply_eq, Resolver.apply_eq]
  congr 1
  · exact List.flatMap_congr fun t ht => h.derivedAt_eq .prepend ht
  · exact List.flatMap_congr fun t ht => congrArg (t :: ·) (h.derivedAt_eq .append ht)

theorem apply_places_derived (resolvers : List Resolver) (tags : List TagRecord) :
    apply resolvers tags = tags.flatMap (derivedAt .prepend resolvers) ++
        (tags.flatMap fun t => t :: derivedAt .append resolvers t) ∧
      tags.Sublist (apply resolvers tags) ∧
      (apply resolvers tags).length = tags.length +
        (tags.map fun t => resolvers.countP fun r => (r.derive t).isSome).sum ∧
      ∀ others, AlikeOn tags resolvers others → apply others tags = apply resolvers tags := by
  refine ⟨apply_eq resolvers tags, ?_, length_apply resolvers tags, fun _ h => h.apply_eq⟩
  rw [apply_eq]
  exact List.sublist_append_of_sublist_right (sublist_flatMap_cons _ tags)

theorem apply_places_derived_mixed :
    let t (name : String) (line : UInt64) : TagRecord := ⟨"a.c", name, line, 0, ""⟩
    let tags := [t "f" 1, t "g" 1]
    let front : Resolver := ⟨fun r => some (t r.tag 2), .prepend⟩
    let behind : Resolver := ⟨fun r => if r.tag = "g" then some (t "h" 3) else none, .append⟩
    let narrow : Resolver := ⟨fun r => if r.line = 1 then some (t r.tag 2) else none, .prepend⟩
    AlikeOn tags [behind, front] [behind, narrow] ∧
      apply [behind, narrow] tags = apply [behind, front] tags ∧
      apply [behind, front] tags = [t "f" 2, t "g" 2, t "f" 1, t "g" 1, t "h" 3] := by
  intro t tags front behind narrow
  have halike : AlikeOn tags [behind, front] [behind, narrow] := by
    refine .cons ⟨rfl, fun _ _ => rfl⟩ (.cons ⟨rfl, ?_⟩ .nil)
    simp [tags, front, narrow, t]
  exact ⟨halike, (apply_places_derived [behind, front] tags).2.2.2 _ halike, by decide⟩

end Tagwire.Resolver

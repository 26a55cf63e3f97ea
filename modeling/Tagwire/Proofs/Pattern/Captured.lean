import Mathlib
import Tagwire.CallSites
import Tagwire.Proofs.Text.Utf8

/-! What a search can capture, by an invariant of each way through a pattern. -/

namespace Tagwire

def CharSet.Within (P : UInt8 → Prop) (set : CharSet) : Prop :=
  ∀ piece, set.admits piece = true → ∀ b ∈ piece.bytes, P b

lemma CharSet.within_ranges {P : UInt8 → Prop} {table : Ranges.Table}
    (hascii : ∀ r ∈ table, r.2 < 0x80)
    (h : ∀ r ∈ table, ∀ n < 0x80, r.1 ≤ n → n ≤ r.2 → P (UInt8.ofNat n)) :
    (CharSet.ranges table).Within P := by
  intro piece hpiece b hb
  cases piece with
  | stray b' => cases hpiece
  | char c =>
    obtain ⟨r, hr, hc⟩ := List.any_eq_true.1 hpiece
    obtain ⟨hlow, hhigh⟩ : r.1 ≤ c.toNat ∧ c.toNat ≤ r.2 := by simpa using hc
    have hlt : c.toNat < 0x80 := Nat.lt_of_le_of_lt hhigh (hascii r hr)
    have hbytes : (Utf8.Piece.char c).bytes = [UInt8.ofNat c.toNat] := if_pos hlt
    rw [hbytes, List.mem_singleton] at hb
    subst hb
    exact h r hr _ hlt hlow hhigh

namespace Pattern

variable {P : UInt8 → Prop}

/-- Whether all that a pattern reads while a group is open is of the kind `P`. -/
def Allows (P : UInt8 → Prop) : (isOpen : Bool) → Pattern → Prop
  | _, .empty => True
  | o, .one set => o = true → set.Within P
  | o, .seq first second => first.Allows P o ∧ second.Allows P o
  | o, .either first second => first.Allows P o ∧ second.Allows P o
  | o, .many set => o = true → set.Within P
  | _, .capture body => body.Allows P true

lemma Allows.mono {p : Pattern} {o o' : Bool} (h : p.Allows P o) (ho : o' = true → o = true) :
    p.Allows P o' := by
  induction p with
  | empty => trivial
  | one set => exact fun ho' => h (ho ho')
  | seq first second ih₁ ih₂ => exact ⟨ih₁ h.1, ih₂ h.2⟩
  | either first second ih₁ ih₂ => exact ⟨ih₁ h.1, ih₂ h.2⟩
  | many set => exact fun ho' => h (ho ho')
  | capture body => exact h

namespace Capture

def isOpen : Capture → Bool
  | .opened _ => true
  | _ => false

def Within (P : UInt8 → Prop) : Capture → Prop
  | .none => True
  | .opened taken => ∀ b ∈ taken, P b
  | .closed taken => ∀ b ∈ taken, P b

@[simp] lemma isOpen_take (piece : Utf8.Piece) (c : Capture) :
    (c.take piece).isOpen = c.isOpen := by
  cases c <;> rfl

@[simp] lemma isOpen_close (c : Capture) : c.close.isOpen = false := by
  cases c <;> rfl

lemma Within.close {c : Capture} (h : c.Within P) : c.close.Within P := by
  cases c <;> exact h

lemma Within.take {c : Capture} (h : c.Within P) {piece : Utf8.Piece}
    (hpiece : c.isOpen = true → ∀ b ∈ piece.bytes, P b) : (c.take piece).Within P := by
  cases c with
  | none => trivial
  | opened taken =>
    intro b hb
    rcases List.mem_append.1 hb with hb | hb
    · exact hpiece rfl b (List.mem_reverse.1 hb)
    · exact h b hb
  | closed taken => exact h

lemma Within.group {c : Capture} (h : c.Within P) {g : List UInt8} (hg : c.group? = some g) :
    ∀ b ∈ g, P b := by
  cases c with
  | closed taken =>
    cases hg
    intro b hb
    exact h b (List.mem_reverse.1 hb)
  | _ => cases hg

end Capture

def Ready (P : UInt8 → Prop) : (isOpen : Bool) → List Part → Prop
  | _, [] => True
  | _, .close :: rest => Ready P false rest
  | o, .piece p :: rest => p.Allows P o ∧ Ready P o rest

lemma Ready.mono {rest : List Part} {o o' : Bool} (h : Ready P o rest)
    (ho : o' = true → o = true) : Ready P o' rest := by
  induction rest with
  | nil => trivial
  | cons part rest ih =>
    cases part with
    | close => exact h
    | piece p => exact ⟨h.1.mono ho, ih h.2⟩

structure Way.Safe (P : UInt8 → Prop) (w : Way) : Prop where
  capture : w.capture.Within P
  rest : Ready P w.capture.isOpen w.rest
  next : w.capture.isOpen = true → ∀ set ∈ w.next, set.Within P

-- The ways on from behind a pattern start with a group that may have been closed on the way, but
-- that is open only if it was open before.
lemma ways_safe {p : Pattern} {rest : List Part} {c : Capture} {past : Capture → List Way}
    (hp : p.Allows P c.isOpen) (hc : c.Within P) (hrest : Ready P c.isOpen rest)
    (hpast : ∀ c' : Capture, c'.Within P → (c'.isOpen = true → c.isOpen = true) →
      ∀ w ∈ past c', w.Safe P) : ∀ w ∈ p.ways rest c past, w.Safe P := by
  induction p generalizing rest c past with
  | empty => exact hpast c hc id
  | one set =>
    intro w hw
    obtain rfl := List.mem_singleton.1 hw
    exact ⟨hc, hrest, fun ho _ hset => Option.mem_some_iff.1 hset ▸ hp ho⟩
  | seq first second ih₁ ih₂ =>
    refine ih₁ hp.1 hc ⟨hp.2, hrest⟩ fun c' hc' ho => ?_
    exact ih₂ (hp.2.mono ho) hc' (hrest.mono ho) fun c'' hc'' ho' => hpast c'' hc'' (ho ∘ ho')
  | either first second ih₁ ih₂ =>
    rw [ways, List.forall_mem_append]
    exact ⟨ih₁ hp.1 hc hrest hpast, ih₂ hp.2 hc hrest hpast⟩
  | many set =>
    rw [ways, List.forall_mem_cons]
    exact ⟨⟨hc, ⟨hp, hrest⟩, fun ho _ hset => Option.mem_some_iff.1 hset ▸ hp ho⟩, hpast c hc id⟩
  | capture body ih =>
    refine ih (c := .opened []) hp (by simp [Capture.Within]) ?_ fun c' hc' _ => ?_
    · exact hrest.mono fun h => by cases h
    · exact hpast c'.close hc'.close (by simp)

lemma resume_safe {rest : List Part} {c : Capture} (hc : c.Within P)
    (hrest : Ready P c.isOpen rest) : ∀ w ∈ resume rest c, w.Safe P := by
  induction rest generalizing c with
  | nil =>
    intro w hw
    obtain rfl := List.mem_singleton.1 hw
    exact ⟨hc, trivial, fun _ _ hset => by cases hset⟩
  | cons part rest ih =>
    cases part with
    | close => exact ih hc.close (by rw [Capture.isOpen_close]; exact hrest)
    | piece p => exact ways_safe hrest.1 hc hrest.2 fun c' hc' ho => ih hc' (hrest.2.mono ho)

lemma start_safe {p : Pattern} (hp : p.Allows P false) : ∀ w ∈ p.start, w.Safe P :=
  resume_safe trivial ⟨hp, trivial⟩

lemma Way.Safe.read {w : Way} (hw : w.Safe P) (piece : Utf8.Piece) :
    ∀ w' ∈ w.read piece, w'.Safe P := by
  rw [Way.read]
  split
  · next set hset =>
    split
    · next hpiece =>
      refine resume_safe (hw.capture.take fun ho => hw.next ho set hset piece hpiece) ?_
      rw [Capture.isOpen_take]
      exact hw.rest
    · simp
  · simp

lemma mem_of_mem_distinct {w : Way} {ws : List Way} (h : w ∈ distinct ws) : w ∈ ws := by
  suffices key : ∀ kept, w ∈ ws.foldl (fun kept w => if kept.any w.agrees then kept
      else kept ++ [w]) kept → w ∈ kept ∨ w ∈ ws by
    exact (key [] h).resolve_left List.not_mem_nil
  clear h
  induction ws with
  | nil => exact fun kept h => .inl h
  | cons v ws ih =>
    intro kept h
    rw [List.foldl_cons] at h
    rcases ih _ h with hkept | hws
    · split at hkept
      · exact .inl hkept
      · rcases List.mem_append.1 hkept with hkept | hv
        · exact .inl hkept
        · exact .inr (List.mem_singleton.1 hv ▸ List.mem_cons_self)
    · exact .inr (List.mem_cons_of_mem v hws)

-- The best match so far, when a way is complete at this place.
lemma best_within {ways : List Way} (hways : ∀ w ∈ ways, w.Safe P) {best : Option Hit}
    (hbest : ∀ hit ∈ best, hit.capture.Within P) (position : Nat) (rest : List Utf8.Piece) :
    ∀ hit ∈ ((ways.find? fun w => w.next = none).map fun w =>
      (⟨w.capture, position, rest⟩ : Hit)).or best, hit.capture.Within P := by
  cases hfind : ways.find? fun w => w.next = none with
  | none => exact hbest
  | some w =>
    rintro hit ⟨⟩
    exact (hways w (List.mem_of_find?_eq_some hfind)).capture

lemma forall_mem_ite {α : Type} {Q : α → Prop} {a b : Option α} {c : Prop} [Decidable c]
    (ha : ∀ x ∈ a, Q x) (hb : ∀ x ∈ b, Q x) : ∀ x ∈ if c then a else b, Q x := by
  split
  · exact ha
  · exact hb

lemma search_within {fresh ways : List Way} (hfresh : ∀ w ∈ fresh, w.Safe P)
    (hways : ∀ w ∈ ways, w.Safe P) {best : Option Hit}
    (hbest : ∀ hit ∈ best, hit.capture.Within P) {position : Nat} {s : List Utf8.Piece} :
    ∀ hit ∈ search fresh ways best position s, hit.capture.Within P := by
  induction s generalizing ways best position with
  | nil => exact best_within hways hbest position []
  | cons piece rest ih =>
    have hnow := best_within hways hbest position (piece :: rest)
    have honward : ∀ w ∈ (ways.takeWhile fun w => w.next ≠ none).flatMap (Way.read piece),
        w.Safe P := by
      intro w hw
      obtain ⟨v, hv, hw⟩ := List.mem_flatMap.1 hw
      exact (hways v ((List.takeWhile_sublist _).subset hv)).read piece w hw
    have hnext (found : Bool) : ∀ w ∈ distinct (if found = true then
        (ways.takeWhile fun w => w.next ≠ none).flatMap (Way.read piece)
        else (ways.takeWhile fun w => w.next ≠ none).flatMap (Way.read piece) ++ fresh),
        w.Safe P := by
      intro w hw
      have hmem := mem_of_mem_distinct hw
      cases found with
      | true => exact honward w hmem
      | false => exact (List.mem_append.1 hmem).elim (honward w) (hfresh w)
    rw [search]
    exact forall_mem_ite hnow (ih (hnext _) hnow)

lemma groupsFrom_within {p : Pattern} (hp : p.Allows P false) {n : Nat} {adjoins : Bool}
    {s : List Utf8.Piece} {g : List UInt8} (hg : some g ∈ p.groupsFrom n adjoins s) :
    ∀ b ∈ g, P b := by
  induction n generalizing adjoins s with
  | zero => cases hg
  | succ n ih =>
    rw [groupsFrom.eq_def] at hg
    simp only at hg
    split at hg
    · cases hg
    · next hit hfind =>
      split at hg
      · split at hg
        · cases hg
        · exact ih hg
      · rcases List.mem_cons.1 hg with hgroup | hrest
        · have hnone : ∀ hit ∈ (none : Option Hit), hit.capture.Within P := by rintro _ ⟨⟩
          have hhit := search_within (start_safe hp) (start_safe hp) hnone hit hfind
          exact hhit.group hgroup.symm
        · exact ih hrest

lemma groups_within {p : Pattern} (hp : p.Allows P false) {s g : List UInt8}
    (hg : g ∈ p.groups s) : ∀ b ∈ g, P b := by
  rw [groups, List.mem_filterMap] at hg
  obtain ⟨o, ho, rfl⟩ := hg
  exact groupsFrom_within hp ho

end Pattern

namespace CallSites

def isWordByte (b : UInt8) : Bool :=
  (0x61 ≤ b && b ≤ 0x7A) || (0x41 ≤ b && b ≤ 0x5A) || (0x30 ≤ b && b ≤ 0x39) || b == 0x5F

lemma ascii_of_isWordByte {b : UInt8} (h : isWordByte b = true) : b.toNat < 0x80 := by
  simp only [isWordByte, Bool.or_eq_true, Bool.and_eq_true, decide_eq_true_eq, beq_iff_eq,
    UInt8.le_iff_toNat_le, ← UInt8.toNat_inj, UInt8.reduceToNat] at h
  omega

lemma call_allows : Pattern.call.Allows (fun b => isWordByte b = true) false := by
  refine ⟨⟨fun _ => ?_, fun _ => ?_⟩, by rintro ⟨⟩⟩
  · exact CharSet.within_ranges (by decide) (by decide)
  · exact CharSet.within_ranges (by decide) (by decide)

lemma exists_of_mem_names {name : String} {line : List UInt8} (h : name ∈ names .call line) :
    ∃ g, name = Utf8.decode g ∧ ∀ b ∈ g, isWordByte b = true := by
  obtain ⟨g, hg, rfl⟩ := List.mem_map.1 h
  exact ⟨g, rfl, Pattern.groups_within call_allows (List.mem_eraseDups.1 hg)⟩

end CallSites

end Tagwire

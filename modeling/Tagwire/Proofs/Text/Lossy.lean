import Mathlib
import Tagwire.Proofs.Text.Utf8

/-! What damaged bytes decode to: where no character stands, the longest block that one could begin
with is replaced. -/

namespace Tagwire.Utf8

def Begins (block : List UInt8) : Prop :=
  ∃ c, block <+: encodeChar c

/-- Whether the block is what one replacement character stands for when `rest` follows it. -/
structure Damaged (block rest : List UInt8) : Prop where
  ne_nil : block ≠ []
  no_char : ∀ c, ¬ encodeChar c <+: block ++ rest
  begins : Begins block ∨ block.length = 1
  longest : ∀ other, other <+: block ++ rest → Begins other → other.length ≤ block.length

/-- What bytes are read as: their characters, and one replacement for each damaged block. -/
inductive Lossy : List UInt8 → List Char → Prop
  | nil : Lossy [] []
  | char {rest cs} (c : Char) : Lossy rest cs → Lossy (encodeChar c ++ rest) (c :: cs)
  | damaged {block rest cs} : Damaged block rest → Lossy rest cs →
      Lossy (block ++ rest) (replacement :: cs)

lemma start_ne (b : UInt8) : start b ≠ ([], none) := by
  rw [start]
  cases lead b <;> simp

lemma step_ne (state : Option Pending) (b : UInt8) : step state b ≠ ([], none) := by
  cases state with
  | none => exact start_ne b
  | some p =>
    rcases hf : p.feed b with _ | c | q
    · simp [step_broken hf]
    · simp [step_char hf]
    · simp [step_pending hf]

lemma run_eq_nil_iff {state : Option Pending} {bytes : List UInt8} :
    run state bytes = [] ↔ state = none ∧ bytes = [] := by
  induction bytes generalizing state with
  | nil => cases state <;> simp [finish]
  | cons b bytes ih =>
    rw [run_cons, List.append_eq_nil_iff, ih]
    have hne := step_ne state b
    constructor
    · rintro ⟨hout, hidle, -⟩
      exact absurd (Prod.ext hout hidle) hne
    · rintro ⟨-, h⟩
      cases h

lemma run_broken {p : Pending} {b : UInt8} (h : p.feed b = none) (rest : List UInt8) :
    run (some p) (b :: rest) = replacement :: run none (b :: rest) := by
  rw [run_cons, step_broken h]
  rfl

lemma encodeChar_ne_nil (c : Char) : encodeChar c ≠ [] := by
  intro h
  have hrun := run_encodeChar c []
  rw [h] at hrun
  cases hrun

lemma Begins.shorten {a b : List UInt8} (hb : Begins b) (h : a <+: b) : Begins a := by
  obtain ⟨c, hc⟩ := hb
  exact ⟨c, h.trans hc⟩

lemma encodeChar_append_inj {c d : Char} {s t : List UInt8}
    (h : encodeChar c ++ s = encodeChar d ++ t) : c = d ∧ s = t := by
  have hrun := congrArg (run none) h
  rw [run_encodeChar, run_encodeChar] at hrun
  obtain rfl := (List.cons_eq_cons.1 hrun).1
  exact ⟨rfl, List.append_cancel_left h⟩

def trail : Nat → Nat → List UInt8
  | 0, _ => []
  | k + 1, n => UInt8.ofNat (0x80 + n / 64 ^ k % 64) :: trail k n

/-- A block brings the decoder to a sequence in progress: each number that the sequence can still
end in is a character, encoded as the block and the bytes that are to come. -/
structure Opened (block : List UInt8) (p : Pending) : Prop where
  reads : ∀ rest, run none (block ++ rest) = run (some p) rest
  low_le : 0x80 ≤ p.low
  low_le_high : p.low ≤ p.high
  high_le : p.high ≤ 0xBF
  encodes : ∀ n, p.value * 64 + (p.low - 0x80) ≤ n / 64 ^ p.following →
    n / 64 ^ p.following ≤ p.value * 64 + (p.high - 0x80) →
      n.isValidChar ∧ encodeChar (Char.ofNat n) = block ++ trail (p.following + 1) n

section Numbers

variable {n : Nat} (hvalid : n.isValidChar)
include hvalid

lemma encodeChar_two (h₁ : 0x80 ≤ n) (h₂ : n < 0x800) :
    encodeChar (Char.ofNat n) = UInt8.ofNat (0xC0 + n / 64) :: trail 1 n := by
  simp only [encodeChar, Char.toNat_ofNat, if_pos hvalid]
  rw [if_neg (by omega), if_pos h₂]
  simp [trail]

lemma encodeChar_three (h₁ : 0x800 ≤ n) (h₂ : n < 0x10000) :
    encodeChar (Char.ofNat n) = UInt8.ofNat (0xE0 + n / 4096) :: trail 2 n := by
  simp only [encodeChar, Char.toNat_ofNat, if_pos hvalid]
  rw [if_neg (by omega), if_neg (by omega), if_pos h₂]
  simp [trail]

lemma encodeChar_four (h : 0x10000 ≤ n) :
    encodeChar (Char.ofNat n) = UInt8.ofNat (0xF0 + n / 262144) :: trail 3 n := by
  simp only [encodeChar, Char.toNat_ofNat, if_pos hvalid]
  rw [if_neg (by omega), if_neg (by omega), if_neg (by omega)]
  simp [trail]

end Numbers

lemma Leads.bounds {b : UInt8} {p : Pending} (h : Leads b (.opens p)) :
    0x80 ≤ p.low ∧ p.low ≤ p.high ∧ p.high ≤ 0xBF := by
  cases h with
  | two => simp
  | three => dsimp only; split <;> split <;> omega
  | four => dsimp only; split <;> split <;> omega

lemma Leads.encodes {b : UInt8} {p : Pending} (h : Leads b (.opens p)) {n : Nat}
    (hlow : p.value * 64 + (p.low - 0x80) ≤ n / 64 ^ p.following)
    (hhigh : n / 64 ^ p.following ≤ p.value * 64 + (p.high - 0x80)) :
    n.isValidChar ∧ encodeChar (Char.ofNat n) = b :: trail (p.following + 1) n := by
  have hb {m : Nat} (hm : m = b.toNat) : UInt8.ofNat m = b := by rw [hm, UInt8.ofNat_toNat]
  cases h with
  | two h₁ h₂ =>
    simp only [pow_zero, Nat.div_one] at hlow hhigh
    have hvalid : n.isValidChar := .inl (by omega)
    rw [encodeChar_two hvalid (by omega) (by omega), hb (by omega)]
    exact ⟨hvalid, rfl⟩
  | three h₁ h₂ =>
    simp only [pow_one] at hlow hhigh
    -- two first bytes have ranges of their own, for numbers below 0x800 and for surrogates
    have hwide : 0x800 ≤ n := by split at hlow <;> omega
    have hvalid : n < 0xD800 ∨ 0xDFFF < n ∧ n < 0x110000 := by split at hhigh <;> omega
    have hfirst : 0xE0 + n / 4096 = b.toNat := by split at hlow <;> split at hhigh <;> omega
    rw [encodeChar_three hvalid hwide (by omega), hb hfirst]
    exact ⟨hvalid, rfl⟩
  | four h₁ h₂ =>
    simp only [Nat.reducePow] at hlow hhigh
    have hwide : 0x10000 ≤ n := by split at hlow <;> omega
    have hlimit : n < 0x110000 := by split at hhigh <;> omega
    have hfirst : 0xF0 + n / 262144 = b.toNat := by split at hlow <;> split at hhigh <;> omega
    have hvalid : n.isValidChar := .inr ⟨by omega, hlimit⟩
    rw [encodeChar_four hvalid hwide, hb hfirst]
    exact ⟨hvalid, rfl⟩

lemma opened_of_lead {b : UInt8} {p : Pending} (h : lead b = .opens p) : Opened [b] p := by
  have hleads : Leads b (.opens p) := h ▸ leads_lead b
  obtain ⟨hlow, hle, hhigh⟩ := hleads.bounds
  exact ⟨run_opens h, hlow, hle, hhigh, fun _ => hleads.encodes⟩

namespace Opened

variable {block : List UInt8} {b : UInt8} {p q : Pending} {c : Char} (h : Opened block p)
include h

lemma ne_nil : block ≠ [] := by
  rintro rfl
  have hrun := h.reads []
  cases hrun

lemma exists_longer : ∃ d a tail, encodeChar d = block ++ a :: tail := by
  have hdiv : (p.value * 64 + (p.low - 0x80)) * 64 ^ p.following / 64 ^ p.following =
      p.value * 64 + (p.low - 0x80) := Nat.mul_div_cancel _ (by positivity)
  have hle := h.low_le_high
  obtain ⟨-, hencode⟩ := h.encodes _ hdiv.ge (by omega)
  exact ⟨_, _, _, hencode⟩

lemma begins : Begins block := by
  obtain ⟨d, a, tail, hd⟩ := h.exists_longer
  exact ⟨d, a :: tail, hd.symm⟩

lemma no_char_within (c : Char) : ¬ encodeChar c <+: block := by
  rintro ⟨t, ht⟩
  obtain ⟨d, a, tail, hd⟩ := h.exists_longer
  rw [← ht, List.append_assoc, ← List.append_nil (encodeChar d)] at hd
  have hnil := (encodeChar_append_inj hd).2
  simp at hnil

lemma feed_char (hf : p.feed b = some (.inl c)) : encodeChar c = block ++ [b] := by
  obtain ⟨hlow, hhigh⟩ := Pending.range_of_feed hf
  obtain ⟨hfollowing, hc⟩ := Pending.of_feed_char hf
  have hbounds := h.low_le
  have hlimit := h.high_le
  have hencodes := h.encodes (p.value * 64 + (b.toNat - 0x80))
  rw [hfollowing, pow_zero, Nat.div_one, ← hc] at hencodes
  obtain ⟨-, hencode⟩ := hencodes (by omega) (by omega)
  have hlast : 0x80 + (p.value * 64 + (b.toNat - 0x80)) % 64 = b.toNat := by omega
  rw [hencode, trail, trail, pow_zero, Nat.div_one, hlast, UInt8.ofNat_toNat]

lemma feed_pending (hf : p.feed b = some (.inr q)) : Opened (block ++ [b]) q := by
  obtain ⟨hlow, hhigh⟩ := Pending.range_of_feed hf
  have hreads (rest : List UInt8) : run none (block ++ [b] ++ rest) = run (some q) rest := by
    rw [List.append_assoc, h.reads, List.singleton_append, run_feed_pending hf]
  obtain ⟨k, hfollowing, rfl⟩ := Pending.of_feed_pending hf
  have hbounds := h.low_le
  have hlimit := h.high_le
  refine ⟨hreads, Nat.le_refl _, by simp, Nat.le_refl _, fun n hn hn' => ?_⟩
  simp only [Nat.sub_self, Nat.add_zero, Nat.reduceSub] at hn hn'
  -- the digit of `n` at this place is the one that was read
  have hvalue : n / 64 ^ k / 64 = p.value * 64 + (b.toNat - 0x80) := by omega
  have hdigit : 0x80 + n / 64 ^ (k + 1) % 64 = b.toNat := by
    rw [pow_succ, ← Nat.div_div_eq_div_mul, hvalue]
    omega
  have hencodes := h.encodes n
  rw [hfollowing, pow_succ, ← Nat.div_div_eq_div_mul, hvalue] at hencodes
  obtain ⟨hvalid, hencode⟩ := hencodes (by omega) (by omega)
  rw [trail, hdigit, UInt8.ofNat_toNat] at hencode
  rw [List.append_assoc, List.singleton_append]
  exact ⟨hvalid, hencode⟩

lemma not_begins (hf : p.feed b = none) : ¬ Begins (block ++ [b]) := by
  rintro ⟨d, t, ht⟩
  have hrun := run_encodeChar d []
  rw [List.append_nil, ← ht, List.append_assoc, h.reads, List.singleton_append,
    run_broken hf] at hrun
  exact absurd (run_eq_nil_iff.1 (List.cons_eq_cons.1 hrun).2).2 (List.cons_ne_nil b t)

end Opened

lemma not_begins_stray {b : UInt8} (h : lead b = .stray) : ¬ Begins [b] := by
  rintro ⟨d, t, ht⟩
  have hrun := run_encodeChar d []
  rw [List.append_nil, ← ht, List.singleton_append, run_cons, step, start, h] at hrun
  obtain ⟨rfl, hrest⟩ := List.cons_eq_cons.1 hrun
  obtain rfl := (run_eq_nil_iff.1 hrest).2
  -- the replacement itself has an encoding of three bytes
  have hlength : 1 = (encodeChar replacement).length := congrArg List.length ht
  exact absurd hlength (by decide)

lemma damaged_of_ends {block rest : List UInt8} (hne : block ≠ [])
    (hwithin : ∀ c, ¬ encodeChar c <+: block) (hbegins : Begins block ∨ block.length = 1)
    (hends : ∀ b after, rest = b :: after → ¬ Begins (block ++ [b])) : Damaged block rest := by
  have hcut {other : List UInt8} (ho : other <+: block ++ rest) (hb : Begins other) :
      other <+: block := by
    rcases List.prefix_or_prefix_of_prefix ho (List.prefix_append block rest) with hle | ⟨t, rfl⟩
    · exact hle
    · cases t with
      | nil => rw [List.append_nil]
      | cons b t =>
        obtain ⟨after, hafter⟩ := (List.prefix_append_right_inj block).1 ho
        have hlonger : block ++ [b] <+: block ++ b :: t := ⟨t, by simp⟩
        exact absurd (hb.shorten hlonger) (hends b _ hafter.symm)
  refine ⟨hne, fun c hc => hwithin c (hcut hc ⟨c, List.prefix_rfl⟩), hbegins, ?_⟩
  exact fun other ho hb => (hcut ho hb).length_le

lemma Opened.damaged {block rest : List UInt8} {p : Pending} (h : Opened block p)
    (hrest : ∀ b after, rest = b :: after → p.feed b = none) : Damaged block rest :=
  damaged_of_ends h.ne_nil h.no_char_within (.inl h.begins)
    fun b after hb => h.not_begins (hrest b after hb)

lemma damaged_stray {b : UInt8} (h : lead b = .stray) (rest : List UInt8) :
    Damaged [b] rest := by
  have hstray := not_begins_stray h
  refine damaged_of_ends (List.cons_ne_nil b []) (fun c hc => ?_) (.inr rfl) fun b' _ _ hb => ?_
  · rcases List.prefix_cons_iff.1 hc with hnil | ⟨t, ht, hempty⟩
    · exact encodeChar_ne_nil c hnil
    · rw [List.prefix_nil.1 hempty] at ht
      exact hstray ⟨c, by rw [ht]⟩
  · exact hstray (hb.shorten (List.prefix_append [b] [b']))

lemma lossy_run (bytes : List UInt8) : Lossy bytes (run none bytes) ∧
    ∀ block p, Opened block p → Lossy (block ++ bytes) (run (some p) bytes) := by
  induction bytes with
  | nil => exact ⟨.nil, fun block p h => .damaged (h.damaged (by simp)) .nil⟩
  | cons b bytes ih =>
    obtain ⟨ihidle, ihopened⟩ := ih
    -- a byte that breaks a block off is read anew, so the idle state comes first
    have hidle : Lossy (b :: bytes) (run none (b :: bytes)) := by
      rcases lead_cases b with ⟨hb, -⟩ | hstray | ⟨p, hopens, -⟩
      · have hchar := Lossy.char (Char.ofNat b.toNat) ihidle
        rw [encodeChar_ascii hb] at hchar
        rwa [run_ascii wide_none hb]
      · rw [run_cons, step, start, hstray]
        exact .damaged (damaged_stray hstray bytes) ihidle
      · rw [run_opens hopens]
        exact ihopened [b] p (opened_of_lead hopens)
    refine ⟨hidle, fun block p h => ?_⟩
    rcases hf : p.feed b with _ | c | q
    · rw [run_broken hf]
      refine .damaged (h.damaged ?_) hidle
      rintro b' after ⟨⟩
      exact hf
    · rw [run_feed_char hf, List.append_cons, ← h.feed_char hf]
      exact .char c ihidle
    · rw [run_feed_pending hf, List.append_cons]
      exact ihopened _ q (h.feed_pending hf)

lemma Damaged.eq {block block' rest rest' : List UInt8} (h : Damaged block rest)
    (h' : Damaged block' rest') (heq : block ++ rest = block' ++ rest') :
    block = block' ∧ rest = rest' := by
  have hle {s s' t t' : List UInt8} (hs : Damaged s t) (hs' : Damaged s' t')
      (he : s ++ t = s' ++ t') : s'.length ≤ s.length := by
    rcases hs'.begins with hb | hone
    · exact hs.longest s' (he ▸ List.prefix_append s' t') hb
    · rw [hone]
      exact List.length_pos_iff.2 hs.ne_nil
  exact List.append_inj heq (Nat.le_antisymm (hle h' h heq.symm) (hle h h' heq))

lemma Lossy.unique {bytes : List UInt8} {cs ds : List Char} (h : Lossy bytes cs)
    (h' : Lossy bytes ds) : cs = ds := by
  induction h generalizing ds with
  | nil =>
    generalize hbytes : ([] : List UInt8) = bytes at h'
    cases h' with
    | nil => rfl
    | char d _ => exact absurd (List.append_eq_nil_iff.1 hbytes.symm).1 (encodeChar_ne_nil d)
    | damaged hd _ => exact absurd (List.append_eq_nil_iff.1 hbytes.symm).1 hd.ne_nil
  | @char rest cs c _ ih =>
    generalize hbytes : encodeChar c ++ rest = bytes at h'
    cases h' with
    | nil => exact absurd (List.append_eq_nil_iff.1 hbytes).1 (encodeChar_ne_nil c)
    | char d hrest =>
      obtain ⟨rfl, rfl⟩ := encodeChar_append_inj hbytes
      rw [ih hrest]
    | damaged hd _ => exact absurd ⟨rest, hbytes⟩ (hd.no_char c)
  | @damaged block rest cs hd _ ih =>
    generalize hbytes : block ++ rest = bytes at h'
    cases h' with
    | nil => exact absurd (List.append_eq_nil_iff.1 hbytes).1 hd.ne_nil
    | char d _ => exact absurd ⟨_, hbytes.symm⟩ (hd.no_char d)
    | damaged hd' hrest =>
      obtain ⟨rfl, rfl⟩ := hd.eq hd' hbytes
      rw [ih hrest]

lemma lossy_iff {bytes : List UInt8} {cs : List Char} :
    Lossy bytes cs ↔ cs = decodeChars bytes := by
  constructor
  · exact fun h => h.unique (lossy_run bytes).1
  · rintro rfl
    exact (lossy_run bytes).1

end Tagwire.Utf8

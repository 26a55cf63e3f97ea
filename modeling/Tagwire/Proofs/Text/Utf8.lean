import Mathlib
import Tagwire.Text.Utf8

namespace Tagwire.Utf8

lemma toNat_ofNat_byte {n : Nat} (h : n < 256) : (UInt8.ofNat n).toNat = n := by
  simpa using h

lemma step_char {p : Pending} {b : UInt8} {c : Char} (h : p.feed b = some (.inl c)) :
    step (some p) b = ([c], none) := by
  simp [step, h]

lemma step_pending {p q : Pending} {b : UInt8} (h : p.feed b = some (.inr q)) :
    step (some p) b = ([], some q) := by
  simp [step, h]

lemma step_broken {p : Pending} {b : UInt8} (h : p.feed b = none) :
    step (some p) b = (replacement :: (start b).1, (start b).2) := by
  simp [step, h]

lemma run_opens {b : UInt8} {p : Pending} (h : lead b = .opens p) (rest : List UInt8) :
    run none (b :: rest) = run (some p) rest := by
  simp [step, start, h]

lemma run_feed_pending {p q : Pending} {b : UInt8} (h : p.feed b = some (.inr q))
    (rest : List UInt8) : run (some p) (b :: rest) = run (some q) rest := by
  simp [step_pending h]

lemma run_feed_char {p : Pending} {b : UInt8} {c : Char} (h : p.feed b = some (.inl c))
    (rest : List UInt8) : run (some p) (b :: rest) = c :: run none rest := by
  simp [step_char h]

lemma lead_ascii {b : UInt8} (h : b.toNat < 0x80) : lead b = .single (Char.ofNat b.toNat) := by
  simp [lead, h]

lemma feed_ofNat_zero {low high value n : Nat} (hn : n < 256) (hlow : low ≤ n) (hhigh : n ≤ high) :
    Pending.feed ⟨low, high, 0, value⟩ (UInt8.ofNat n) =
      some (.inl (Char.ofNat (value * 64 + (n - 0x80)))) := by
  simp only [Pending.feed, toNat_ofNat_byte hn]
  rw [if_pos ⟨hlow, hhigh⟩]

lemma feed_ofNat_succ {low high k value n : Nat} (hn : n < 256) (hlow : low ≤ n)
    (hhigh : n ≤ high) :
    Pending.feed ⟨low, high, k + 1, value⟩ (UInt8.ofNat n) =
      some (.inr ⟨0x80, 0xBF, k, value * 64 + (n - 0x80)⟩) := by
  simp only [Pending.feed, toNat_ofNat_byte hn]
  rw [if_pos ⟨hlow, hhigh⟩]

lemma lead_two {n : Nat} (h₁ : 0xC2 ≤ n) (h₂ : n < 0xE0) :
    lead (UInt8.ofNat n) = .opens ⟨0x80, 0xBF, 0, n - 0xC0⟩ := by
  simp only [lead, toNat_ofNat_byte (show n < 256 by omega)]
  rw [if_neg (by omega), if_neg (by omega), if_pos h₂]

lemma lead_three {n : Nat} (h₁ : 0xE0 ≤ n) (h₂ : n < 0xF0) :
    lead (UInt8.ofNat n) = .opens ⟨if n = 0xE0 then 0xA0 else 0x80,
      if n = 0xED then 0x9F else 0xBF, 1, n - 0xE0⟩ := by
  simp only [lead, toNat_ofNat_byte (show n < 256 by omega)]
  rw [if_neg (by omega), if_neg (by omega), if_neg (by omega)]
  split
  · next h => subst h; rfl
  · split
    · next h => subst h; rfl
    · rfl

lemma lead_four {n : Nat} (h₁ : 0xF0 ≤ n) (h₂ : n ≤ 0xF4) :
    lead (UInt8.ofNat n) = .opens ⟨if n = 0xF0 then 0x90 else 0x80,
      if n = 0xF4 then 0x8F else 0xBF, 2, n - 0xF0⟩ := by
  simp only [lead, toNat_ofNat_byte (show n < 256 by omega)]
  rw [if_neg (by omega), if_neg (by omega), if_neg (by omega), if_neg (by omega), if_neg (by omega),
    if_neg (by omega)]
  split
  · next h => subst h; rfl
  · split
    · next h => rw [if_neg (by omega)]
    · next h =>
      obtain rfl : n = 0xF4 := by omega
      rfl

lemma run_encodeChar (c : Char) (rest : List UInt8) :
    run none (encodeChar c ++ rest) = c :: run none rest := by
  have hvalid : c.toNat < 0xD800 ∨ 0xDFFF < c.toNat ∧ c.toNat < 0x110000 := c.valid
  have hchar : c = Char.ofNat c.toNat := (Char.ofNat_toNat c).symm
  generalize hn : c.toNat = n at hvalid hchar
  simp only [encodeChar, hn]
  split
  · next h =>
    have hb := toNat_ofNat_byte (show n < 256 by omega)
    simp [step, start, lead_ascii (show (UInt8.ofNat n).toNat < 0x80 by omega), hb, hchar]
  split
  · next h₁ h₂ =>
    have hval : (0xC0 + n / 64 - 0xC0) * 64 + (0x80 + n % 64 - 0x80) = n := by omega
    rw [List.cons_append, run_opens (lead_two (by omega) (by omega)), List.cons_append,
      run_feed_char (feed_ofNat_zero (by omega) (by omega) (by omega)), hval, ← hchar]
    rfl
  split
  · next h₁ h₂ h₃ =>
    have hval : ((0xE0 + n / 4096 - 0xE0) * 64 + (0x80 + n / 64 % 64 - 0x80)) * 64 +
        (0x80 + n % 64 - 0x80) = n := by omega
    rw [List.cons_append, run_opens (lead_three (by omega) (by omega)), List.cons_append,
      run_feed_pending (feed_ofNat_succ (by omega) (by split <;> omega) (by split <;> omega)),
      List.cons_append, run_feed_char (feed_ofNat_zero (by omega) (by omega) (by omega)), hval,
      ← hchar]
    rfl
  · next h₁ h₂ h₃ =>
    have hval : (((0xF0 + n / 262144 - 0xF0) * 64 + (0x80 + n / 4096 % 64 - 0x80)) * 64 +
        (0x80 + n / 64 % 64 - 0x80)) * 64 + (0x80 + n % 64 - 0x80) = n := by omega
    rw [List.cons_append, run_opens (lead_four (by omega) (by omega)), List.cons_append,
      run_feed_pending (feed_ofNat_succ (by omega) (by split <;> omega) (by split <;> omega)),
      List.cons_append, run_feed_pending (feed_ofNat_succ (by omega) (by omega) (by omega)),
      List.cons_append, run_feed_char (feed_ofNat_zero (by omega) (by omega) (by omega)), hval,
      ← hchar]
    rfl

lemma run_encodeChars (cs : List Char) (rest : List UInt8) :
    run none (encodeChars cs ++ rest) = cs ++ run none rest := by
  induction cs with
  | nil => rfl
  | cons c cs ih =>
    rw [encodeChars, List.flatMap_cons, List.append_assoc, run_encodeChar]
    exact congrArg (c :: ·) ih

lemma decodeChars_encodeChars (cs : List Char) : decodeChars (encodeChars cs) = cs := by
  have h := run_encodeChars cs []
  simpa [decodeChars, finish] using h

lemma decode_encode (s : String) : decode (encode s) = s := by
  rw [decode, encode, decodeChars_encodeChars, String.ofList_toList]

lemma encode_injective : Function.Injective encode :=
  Function.LeftInverse.injective decode_encode

/-- What decodes to a text of its own wherever it stands between whole characters. -/
def Decodes (bytes : List UInt8) (cs : List Char) : Prop :=
  ∀ rest, run none (bytes ++ rest) = cs ++ run none rest

lemma decodes_encode (s : String) : Decodes (encode s) s.toList :=
  run_encodeChars s.toList

lemma decodes_nil : Decodes [] [] :=
  fun _ => rfl

lemma Decodes.append {a b : List UInt8} {s t : List Char} (ha : Decodes a s) (hb : Decodes b t) :
    Decodes (a ++ b) (s ++ t) := by
  intro rest
  rw [List.append_assoc, ha, hb, List.append_assoc]

lemma Decodes.flatMap {α : Type} {f : α → List UInt8} {g : α → List Char}
    (h : ∀ a, Decodes (f a) (g a)) (l : List α) : Decodes (l.flatMap f) (l.flatMap g) := by
  induction l with
  | nil => exact decodes_nil
  | cons a l ih => exact (h a).append ih

lemma Decodes.decodeChars_eq {bytes : List UInt8} {cs : List Char} (h : Decodes bytes cs) :
    decodeChars bytes = cs := by
  have hrun := h []
  simpa [decodeChars, finish] using hrun

def Pending.Wide (p : Pending) : Prop :=
  0x80 ≤ p.low ∧ 0x80 ≤ (p.value * 64 + (p.low - 0x80)) * 64 ^ p.following

def Wide (state : Option Pending) : Prop :=
  ∀ p ∈ state, p.Wide

lemma wide_none : Wide none := by
  rintro p ⟨⟩

inductive Leads (b : UInt8) : Lead → Prop
  | ascii (h : b.toNat < 0x80) : Leads b (.single (Char.ofNat b.toNat))
  | stray : Leads b .stray
  | two (h₁ : 0xC2 ≤ b.toNat) (h₂ : b.toNat < 0xE0) :
      Leads b (.opens ⟨0x80, 0xBF, 0, b.toNat - 0xC0⟩)
  | three (h₁ : 0xE0 ≤ b.toNat) (h₂ : b.toNat < 0xF0) :
      Leads b (.opens ⟨if b.toNat = 0xE0 then 0xA0 else 0x80,
        if b.toNat = 0xED then 0x9F else 0xBF, 1, b.toNat - 0xE0⟩)
  | four (h₁ : 0xF0 ≤ b.toNat) (h₂ : b.toNat ≤ 0xF4) :
      Leads b (.opens ⟨if b.toNat = 0xF0 then 0x90 else 0x80,
        if b.toNat = 0xF4 then 0x8F else 0xBF, 2, b.toNat - 0xF0⟩)

lemma leads_lead (b : UInt8) : Leads b (lead b) := by
  have hb : UInt8.ofNat b.toNat = b := UInt8.ofNat_toNat
  by_cases h₁ : b.toNat < 0x80
  · rw [lead_ascii h₁]
    exact .ascii h₁
  by_cases h₂ : b.toNat < 0xC2
  · have hstray : lead b = .stray := by
      simp only [lead]
      rw [if_neg h₁, if_pos h₂]
    rw [hstray]
    exact .stray
  by_cases h₃ : b.toNat < 0xE0
  · have htwo := lead_two (Nat.le_of_not_lt h₂) h₃
    rw [hb] at htwo
    rw [htwo]
    exact .two (Nat.le_of_not_lt h₂) h₃
  by_cases h₄ : b.toNat < 0xF0
  · have hthree := lead_three (Nat.le_of_not_lt h₃) h₄
    rw [hb] at hthree
    rw [hthree]
    exact .three (Nat.le_of_not_lt h₃) h₄
  by_cases h₅ : b.toNat ≤ 0xF4
  · have hfour := lead_four (Nat.le_of_not_lt h₄) h₅
    rw [hb] at hfour
    rw [hfour]
    exact .four (Nat.le_of_not_lt h₄) h₅
  · have hstray : lead b = .stray := by
      simp only [lead]
      rw [if_neg h₁, if_neg h₂, if_neg h₃, if_neg (by omega), if_neg (by omega), if_neg h₄,
        if_neg (by omega), if_neg (by omega), if_neg (by omega)]
    rw [hstray]
    exact .stray

lemma Leads.wide {b : UInt8} {p : Pending} (h : Leads b (.opens p)) : p.Wide := by
  cases h with
  | two => simp only [Pending.Wide]; omega
  | three => simp only [Pending.Wide]; split <;> omega
  | four => simp only [Pending.Wide]; split <;> omega

lemma lead_cases (b : UInt8) :
    b.toNat < 0x80 ∧ lead b = .single (Char.ofNat b.toNat) ∨ lead b = .stray ∨
      ∃ p, lead b = .opens p ∧ p.Wide := by
  have hleads := leads_lead b
  cases hlead : lead b with
  | single c =>
    rw [hlead] at hleads
    cases hleads with
    | ascii h => exact .inl ⟨h, rfl⟩
  | stray => exact .inr (.inl rfl)
  | opens p => exact .inr (.inr ⟨p, rfl, (hlead ▸ hleads).wide⟩)

lemma start_wide (b : UInt8) : Wide (start b).2 := by
  rcases lead_cases b with ⟨-, h⟩ | h | ⟨p, h, hp⟩
  · simp only [start, h, wide_none]
  · simp only [start, h, wide_none]
  · simp only [start, h]
    rintro q ⟨⟩
    exact hp

namespace Pending

variable {p q : Pending} {b : UInt8} {c : Char}

lemma range_of_feed {r : Char ⊕ Pending} (h : p.feed b = some r) :
    p.low ≤ b.toNat ∧ b.toNat ≤ p.high := by
  rw [feed] at h
  split at h
  · next hb => exact hb
  · cases h

lemma of_feed_char (h : p.feed b = some (.inl c)) :
    p.following = 0 ∧ c = Char.ofNat (p.value * 64 + (b.toNat - 0x80)) := by
  obtain ⟨low, high, following, value⟩ := p
  rw [feed, if_pos (range_of_feed h)] at h
  cases following with
  | zero => exact ⟨rfl, (Sum.inl.inj (Option.some.inj h)).symm⟩
  | succ k => cases h

lemma of_feed_pending (h : p.feed b = some (.inr q)) :
    ∃ k, p.following = k + 1 ∧ q = ⟨0x80, 0xBF, k, p.value * 64 + (b.toNat - 0x80)⟩ := by
  obtain ⟨low, high, following, value⟩ := p
  rw [feed, if_pos (range_of_feed h)] at h
  cases following with
  | zero => cases h
  | succ k =>
    exact ⟨k, rfl, (Sum.inr.inj (Option.some.inj h)).symm⟩

lemma Wide.feed (hp : p.Wide) (h : p.feed b = some (.inr q)) : q.Wide := by
  obtain ⟨hlow, hwide⟩ := hp
  have hb := (range_of_feed h).1
  obtain ⟨k, hfollowing, rfl⟩ := of_feed_pending h
  refine ⟨Nat.le_refl _, hwide.trans ?_⟩
  simp only [Nat.sub_self, Nat.add_zero]
  rw [hfollowing, pow_succ, ← mul_assoc, mul_right_comm]
  exact Nat.mul_le_mul_right _ (by omega)

lemma Wide.feed_char (hp : p.Wide) (h : p.feed b = some (.inl c)) :
    ∃ n, 0x80 ≤ n ∧ c = Char.ofNat n := by
  obtain ⟨hlow, hwide⟩ := hp
  obtain ⟨hfollowing, hc⟩ := of_feed_char h
  have hb := (range_of_feed h).1
  rw [hfollowing, pow_zero, mul_one] at hwide
  exact ⟨_, by omega, hc⟩

end Pending

lemma step_wide {state : Option Pending} (hs : Wide state) (b : UInt8) :
    Wide (step state b).2 := by
  cases state with
  | none => exact start_wide b
  | some p =>
    rcases hf : p.feed b with _ | c | q
    · rw [step_broken hf]
      exact start_wide b
    · rw [step_char hf]
      exact wide_none
    · rw [step_pending hf]
      rintro r ⟨⟩
      exact (hs p rfl).feed hf

lemma step_ascii (state : Option Pending) {b : UInt8} (h : b.toNat < 0x80)
    (hs : Wide state) :
    step state b = (finish state ++ [Char.ofNat b.toNat], none) := by
  cases state with
  | none => simp [step, start, lead_ascii h, finish]
  | some p =>
    obtain ⟨hlow, -⟩ := hs p rfl
    have hfeed : p.feed b = none := if_neg (by omega)
    simp [step, hfeed, start, lead_ascii h, finish]

lemma run_ascii {state : Option Pending} (hs : Wide state) {b : UInt8} (h : b.toNat < 0x80)
    (rest : List UInt8) :
    run state (b :: rest) = finish state ++ Char.ofNat b.toNat :: run none rest := by
  simp [step_ascii state h hs]

lemma run_append_ascii {state : Option Pending} (hs : Wide state) (before : List UInt8) {b : UInt8}
    (h : b.toNat < 0x80) (rest : List UInt8) :
    run state (before ++ b :: rest) = run state before ++ Char.ofNat b.toNat :: run none rest := by
  induction before generalizing state with
  | nil => exact run_ascii hs h rest
  | cons a before ih =>
    rw [List.cons_append, run_cons, run_cons, ih (step_wide hs a), List.append_assoc]

lemma mem_start {b : UInt8} {c : Char} (hc : c ∈ (start b).1) :
    b.toNat < 0x80 ∧ c = Char.ofNat b.toNat ∨ c = replacement := by
  rcases lead_cases b with ⟨hb, h⟩ | h | ⟨p, h, -⟩
  · rw [start, h] at hc
    exact .inl ⟨hb, List.mem_singleton.1 hc⟩
  · rw [start, h] at hc
    exact .inr (List.mem_singleton.1 hc)
  · rw [start, h] at hc
    cases hc

lemma mem_step {state : Option Pending} (hs : Wide state) {b : UInt8} {c : Char}
    (h : c ∈ (step state b).1) :
    b.toNat < 0x80 ∧ c = Char.ofNat b.toNat ∨ ∃ n, 0x80 ≤ n ∧ c = Char.ofNat n := by
  have hstart (hc : c ∈ (start b).1) :
      b.toNat < 0x80 ∧ c = Char.ofNat b.toNat ∨ ∃ n, 0x80 ≤ n ∧ c = Char.ofNat n :=
    (mem_start hc).imp_right fun hr => ⟨0xFFFD, by decide, hr⟩
  cases state with
  | none => exact hstart h
  | some p =>
    rcases hf : p.feed b with _ | d | q
    · rw [step_broken hf] at h
      rcases List.mem_cons.1 h with rfl | hc
      · exact .inr ⟨0xFFFD, by decide, rfl⟩
      · exact hstart hc
    · rw [step_char hf] at h
      obtain rfl := List.mem_singleton.1 h
      exact .inr ((hs p rfl).feed_char hf)
    · rw [step_pending hf] at h
      cases h

lemma byte_eq_of_char_eq {b : UInt8} {c : Char} (hb : b.toNat < 0x80)
    (h : Char.ofNat b.toNat = c) : b = UInt8.ofNat c.toNat := by
  have hvalid : Nat.isValidChar b.toNat := .inl (by omega)
  rw [← h, Char.toNat_ofNat, if_pos hvalid, UInt8.ofNat_toNat]

lemma ofNat_ne_of_ascii {n : Nat} {c : Char} (hn : 0x80 ≤ n) (hpos : c.toNat ≠ 0)
    (hc : c.toNat < 0x80) : Char.ofNat n ≠ c := by
  rintro rfl
  rw [Char.toNat_ofNat] at hpos hc
  split at hc
  · omega
  · next hv => exact hpos (if_neg hv)

lemma ne_ofNat_of_ascii {b : UInt8} (hb : b.toNat < 0x80) {n : Nat} (hn : 0x80 ≤ n ∧ n < 256) :
    b ≠ UInt8.ofNat n := by
  rintro rfl
  rw [toNat_ofNat_byte hn.2] at hb
  omega

lemma encodeChar_ascii {b : UInt8} (hb : b.toNat < 0x80) :
    encodeChar (Char.ofNat b.toNat) = [b] := by
  have hn : (Char.ofNat b.toNat).toNat = b.toNat := by
    rw [Char.toNat_ofNat, if_pos (.inl (by omega))]
  simp [encodeChar, hn, hb]

lemma ascii_mem_encodeChar {b : UInt8} (hb : b.toNat < 0x80) {c : Char} :
    b ∈ encodeChar c ↔ c = Char.ofNat b.toNat := by
  constructor
  · intro h
    have hvalid : c.toNat < 0xD800 ∨ 0xDFFF < c.toNat ∧ c.toNat < 0x110000 := c.valid
    simp only [encodeChar] at h
    split_ifs at h with h₁ h₂ h₃ <;>
      simp only [List.mem_cons, List.not_mem_nil, or_false] at h
    · rw [h, toNat_ofNat_byte (by omega), Char.ofNat_toNat]
    · rcases h with h | h <;> exact absurd h (ne_ofNat_of_ascii hb (by omega))
    · rcases h with h | h | h <;> exact absurd h (ne_ofNat_of_ascii hb (by omega))
    · rcases h with h | h | h | h <;> exact absurd h (ne_ofNat_of_ascii hb (by omega))
  · rintro rfl
    rw [encodeChar_ascii hb]
    exact List.mem_cons_self

lemma ascii_mem_encode {b : UInt8} (hb : b.toNat < 0x80) {s : String} :
    b ∈ encode s ↔ Char.ofNat b.toNat ∈ s.toList := by
  simp only [encode, encodeChars, List.mem_flatMap, ascii_mem_encodeChar hb, exists_eq_right]

lemma ascii_notMem_encode {b : UInt8} (hb : b.toNat < 0x80) {s : String}
    (h : Char.ofNat b.toNat ∉ s.toList) : b ∉ encode s :=
  mt (ascii_mem_encode hb).1 h

lemma count_encode {b : UInt8} (hb : b.toNat < 0x80) (s : String) :
    (encode s).count b = s.toList.count (Char.ofNat b.toNat) := by
  rw [encode]
  induction s.toList with
  | nil => rfl
  | cons c cs ih =>
    rw [encodeChars, List.flatMap_cons, List.count_append, List.count_cons, Nat.add_comm]
    congr 1
    by_cases hc : c = Char.ofNat b.toNat
    · simp [hc, encodeChar_ascii hb]
    · rw [List.count_eq_zero_of_not_mem (mt (ascii_mem_encodeChar hb).1 hc)]
      simp [hc]

-- A character below 0x80 is let out by its own byte only. NUL is kept out: it is also what stands
-- for a number that is no character.
lemma mem_run {state : Option Pending} (hs : Wide state) {bytes : List UInt8} {c : Char}
    (hpos : c.toNat ≠ 0) (hc : c.toNat < 0x80) (h : c ∈ run state bytes) :
    UInt8.ofNat c.toNat ∈ bytes := by
  induction bytes generalizing state with
  | nil =>
    cases state with
    | none => cases h
    | some p =>
      have hr : c = Char.ofNat 0xFFFD := List.mem_singleton.1 h
      exact absurd hr.symm (ofNat_ne_of_ascii (by decide) hpos hc)
  | cons b bytes ih =>
    rw [run_cons, List.mem_append] at h
    rcases h with h | h
    · rcases mem_step hs h with ⟨hb, he⟩ | ⟨n, hn, he⟩
      · rw [← byte_eq_of_char_eq hb he.symm]
        exact List.mem_cons_self
      · exact absurd he.symm (ofNat_ne_of_ascii hn hpos hc)
    · exact List.mem_cons_of_mem b (ih (step_wide hs b) h)

lemma decodeChars_ascii {bytes : List UInt8} (h : ∀ b ∈ bytes, b.toNat < 0x80) :
    decodeChars bytes = bytes.map fun b => Char.ofNat b.toNat := by
  induction bytes with
  | nil => rfl
  | cons b bytes ih =>
    obtain ⟨hb, hbytes⟩ := List.forall_mem_cons.1 h
    rw [decodeChars, run_ascii wide_none hb, List.map_cons, ← ih hbytes]
    rfl

end Tagwire.Utf8

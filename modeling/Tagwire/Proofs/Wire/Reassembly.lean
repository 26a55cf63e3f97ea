import Mathlib
import Tagwire.Wire

/-! Replies put together again, wherever the stream was cut or interrupted. -/

namespace Tagwire.Wire

namespace ReadResult

def ends : ReadResult → Bool
  | .ok bytes => bytes.isEmpty
  | .error fault => fault.kind ≠ .interrupted

def bytes : ReadResult → List UInt8
  | .ok bytes => bytes
  | .error _ => []

def outcome (received : List UInt8) : ReadResult → Except IoFault String
  | .ok _ => .ok (Utf8.decode received)
  | .error fault =>
    if (fault.kind = .wouldBlock ∨ fault.kind = .timedOut) ∧ received ≠ [] then
      .ok (Utf8.decode received)
    else .error fault

end ReadResult

open ReadResult

def ending? (results : List ReadResult) : Option ReadResult :=
  results.find? ends

def received (results : List ReadResult) : List UInt8 :=
  (results.takeWhile fun r => !ends r).flatMap bytes

section Step

variable {r : ReadResult} (before : List UInt8) (results : List ReadResult)

lemma receive_of_not_ends (h : ends r = false) : receive before r = .going (before ++ bytes r) := by
  cases r with
  | ok bytes =>
    have hne : bytes.isEmpty = false := h
    simp [receive, ReadResult.bytes, hne]
  | error fault =>
    have hkind : fault.kind = .interrupted := by simpa [ends] using h
    simp [receive, ReadResult.bytes, hkind]

lemma receive_of_ends (h : ends r = true) : receive before r = .over (outcome before r) := by
  cases r with
  | ok bytes =>
    have hempty : bytes.isEmpty = true := h
    simp [receive, outcome, hempty]
  | error fault =>
    have hne : fault.kind ≠ .interrupted := by simpa [ends] using h
    cases hkind : fault.kind with
    | interrupted => exact absurd hkind hne
    | wouldBlock | timedOut => cases before <;> simp [receive, outcome, hkind]
    | notFound | other => simp [receive, outcome, hkind]

lemma ending?_of_not_ends (h : ends r = false) : ending? (r :: results) = ending? results := by
  simp [ending?, h]

lemma received_of_not_ends (h : ends r = false) :
    received (r :: results) = bytes r ++ received results := by
  simp [received, h]

lemma received_of_ends (h : ends r = true) : received (r :: results) = [] := by
  simp [received, h]

end Step

lemma collect_eq (before : List UInt8) (results : List ReadResult) :
    collect before results =
      outcome (before ++ received results) ((ending? results).getD (.ok [])) := by
  induction results generalizing before with
  | nil => simp [collect, ending?, received, outcome]
  | cons r results ih =>
    cases hr : ends r with
    | true =>
      have hending : ending? (r :: results) = some r := List.find?_cons_of_pos hr
      rw [collect, receive_of_ends before hr, hending, received_of_ends results hr,
        List.append_nil]
      rfl
    | false =>
      rw [collect, receive_of_not_ends before hr]
      simp only
      rw [ih, ending?_of_not_ends results hr, received_of_not_ends results hr, List.append_assoc]

lemma reply_eq (results : List ReadResult) :
    reply results = outcome (received results) ((ending? results).getD (.ok [])) :=
  collect_eq [] results

theorem reply_of_received (results : List ReadResult) :
    (ending? results = some (.ok []) →
      reply results = .ok (Utf8.decode (received results))) ∧
    (∀ fault, ending? results = some (.error fault) →
      (fault.kind = .wouldBlock ∨ fault.kind = .timedOut →
        (received results ≠ [] → reply results = .ok (Utf8.decode (received results))) ∧
        (received results = [] → reply results = .error fault)) ∧
      (fault.kind ≠ .wouldBlock → fault.kind ≠ .timedOut → reply results = .error fault)) ∧
    ∀ others, received others = received results → ending? others = ending? results →
      reply others = reply results := by
  refine ⟨fun h => ?_, fun fault h => ⟨fun hlate => ⟨fun hsome => ?_, fun hnone => ?_⟩,
    fun hblock htime => ?_⟩, fun others hreceived hending => ?_⟩
  · rw [reply_eq, h]
    rfl
  · rw [reply_eq, h]
    exact if_pos ⟨hlate, hsome⟩
  · rw [reply_eq, h]
    exact if_neg fun hn => hn.2 hnone
  · rw [reply_eq, h]
    exact if_neg fun hn => hn.1.elim hblock htime
  · rw [reply_eq, reply_eq, hreceived, hending]

theorem reply_of_received_split_character :
    let whole : List ReadResult := [.ok [0x28, 0xC3, 0xA9, 0x29], .error .tryAgain]
    let split : List ReadResult := [.error .interrupted, .ok [0x28, 0xC3], .error .interrupted,
      .ok [0xA9, 0x29], .error .tryAgain, .ok [0x21]]
    reply split = .ok "(é)" ∧ reply whole = reply split ∧
      reply [.ok [0x28, 0xC3], .ok []] = .ok "(\uFFFD" ∧
      reply [.error .interrupted, .error .timedOut, .ok [0x21]] = .error .timedOut ∧
      reply [.ok [0x28, 0xC3], .error .interrupted, .error .denied] = .error .denied := by
  intro whole split
  obtain ⟨-, hfault, hsame⟩ := reply_of_received split
  refine ⟨?_, hsame whole rfl rfl, ?_, ?_, ?_⟩
  · rw [((hfault .tryAgain rfl).1 (.inl rfl)).1 (by decide)]
    exact congrArg Except.ok (by decide)
  · rw [(reply_of_received [.ok [0x28, 0xC3], .ok []]).1 rfl]
    exact congrArg Except.ok (by decide)
  · exact (((reply_of_received _).2.1 .timedOut rfl).1 (.inr rfl)).2 rfl
  · exact ((reply_of_received _).2.1 .denied rfl).2 (by decide) (by decide)

end Tagwire.Wire

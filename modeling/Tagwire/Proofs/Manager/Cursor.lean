import Mathlib
import Tagwire.Host.Memory
import Tagwire.Proofs.Manager.History

namespace Tagwire

structure Cursor.PointsInto (candidates : List Endpoint) (c : Cursor) : Prop where
  next_le : c.next ≤ candidates.length
  current_eq_none_iff : c.current = none ↔ c.next = 0
  current_listed : ∀ e, c.current = some e → candidates[c.next - 1]? = some e

lemma Cursor.Within.pointsInto {candidates : List Endpoint} {c : Cursor}
    (h : c.Within candidates) : c.PointsInto candidates := by
  cases h with
  | fresh => exact ⟨Nat.zero_le _, by simp, by simp⟩
  | @reached i e h =>
    refine ⟨(List.getElem?_eq_some_iff.1 h).1, by simp, ?_⟩
    rintro _ ⟨⟩
    exact h

namespace Manager

open Program

variable {σ : Type} (handler : Handler σ)

theorem cursor_points_into_candidates (world : σ) (operations : List Operation) :
    let s := afterAll handler ({}, world) operations
    (∀ key, (s.1.cursors key).PointsInto (s.1.candidates key)) ∧
      ∀ key, ∀ operation ∈ [Operation.select key, .advance key], ∀ e,
        (record handler s operation).outcome = .endpoint (.error e) →
          (after handler s operation).1.candidates = s.1.candidates ∧
            (after handler s operation).1.cursors = s.1.cursors := by
  intro s
  refine ⟨fun key => (consistent_afterAll handler consistent_new operations key).pointsInto, ?_⟩
  intro key operation hop e hout
  have hsame : (after handler s operation).1 = s.1 := by
    simp only [List.mem_cons, List.not_mem_nil, or_false] at hop
    rcases hop with rfl | rfl
    · exact (select_of_error (Prod.ext (Outcome.endpoint.inj hout) rfl)).2
    · exact (advance_of_error (Prod.ext (Outcome.endpoint.inj hout) rfl)).2
  rw [hsame]
  exact ⟨rfl, rfl⟩

theorem cursor_points_into_candidates_twice_listed :
    let key : Key := ⟨"c", .definition⟩
    let operations : List Operation := [.add key (.localhost 1), .add key (.localhost 2),
      .add key (.localhost 1), .send key "a", .remove key (.localhost 1), .select key,
      .send key "b"]
    let s := afterAll Memory.handle ({}, {}) operations
    s.1.cursors key = ⟨some (.localhost 1), 2⟩ ∧
      (s.1.cursors key).PointsInto (s.1.candidates key) ∧
      (record Memory.handle s (.advance key)).outcome =
        .endpoint (.error (.noAvailableServer "c" .definition)) ∧
      (after Memory.handle s (.advance key)).1.cursors = s.1.cursors := by
  intro key operations
  have hout : (record Memory.handle (afterAll Memory.handle ({}, {}) operations)
      (.advance key)).outcome = .endpoint (.error (.noAvailableServer "c" .definition)) := by cbv
  obtain ⟨hpoints, hfail⟩ := cursor_points_into_candidates Memory.handle {} operations
  exact ⟨by cbv, hpoints key, hout, (hfail key (.advance key) (by simp) _ hout).2⟩

end Manager

end Tagwire

import Mathlib
import Tagwire.Host.Disk

namespace Tagwire.Disk

variable {d : Disk} {here place : List String} {path : String}

lemma node?_put_self (hplace : place ≠ []) (node : Node) :
    (d.put place node).node? place = some node := by
  have hnone : (d.nodes.filter fun e => e.1 ≠ place).find? (fun e => e.1 = place) = none := by
    apply List.find?_eq_none.2
    intro e he
    simpa using (List.mem_filter.1 he).2
  rw [node?, if_neg hplace, put, List.find?_append, hnone]
  simp

lemma node?_put_of_ne {other : List String} (hne : other ≠ place) (node : Node) :
    (d.put place node).node? other = d.node? other := by
  have hfind : (d.nodes.filter fun e => e.1 ≠ place).find? (fun e => e.1 = other) =
      d.nodes.find? fun e => e.1 = other := by
    rw [List.find?_filter]
    congr 1
    funext e
    by_cases he : e.1 = other <;> simp [he, hne]
  rw [node?, node?, put, List.find?_append, hfind]
  simp [Ne.symm hne]

lemma enter_put (hplace : d.node? place ≠ some .directory) (node : Node) {p q : List String}
    {segment : String} (h : d.enter p segment = .ok q) :
    (d.put place node).enter p segment = .ok q := by
  have hp : d.node? p = some .directory := by
    rw [enter] at h
    split at h
    · cases h
    · cases h
    · assumption
  have hne : p ≠ place := by
    rintro rfl
    exact hplace hp
  rw [enter] at h ⊢
  rwa [node?_put_of_ne hne]

lemma walk_put (hplace : d.node? place ≠ some .directory) (node : Node) {segs p q : List String}
    (h : segs.foldlM d.enter p = .ok q) : segs.foldlM (d.put place node).enter p = .ok q := by
  induction segs generalizing p with
  | nil => exact h
  | cons segment segs ih =>
    rw [List.foldlM_cons] at h ⊢
    cases hstep : d.enter p segment with
    | error fault =>
      rw [hstep] at h
      cases h
    | ok next =>
      rw [hstep] at h
      rw [enter_put hplace node hstep]
      exact ih h

lemma locate_put (hplace : d.node? place ≠ some .directory) (node : Node) {l : Location}
    (h : d.locate here path = .ok l) : (d.put place node).locate here path = .ok l := by
  rw [locate] at h ⊢
  split at h
  · cases h
  split at h
  · cases h
  split at h
  · cases h
  · next hempty hzero hlong =>
    rw [if_neg hempty, if_neg hzero, if_neg hlong]
    simp only [bind, Except.bind] at h ⊢
    split at h
    · cases h
    · next holder hwalk =>
      rw [walk_put hplace node hwalk]
      exact h

structure LeadsTo (d : Disk) (here : List String) (path : String) (place : List String) : Prop where
  found : ∃ l, d.locate here path = .ok l ∧ l.named = true ∧ l.slash = false ∧
    d.resolve l = .ok place
  free : d.node? place ≠ some .directory

namespace LeadsTo

lemma put (h : d.LeadsTo here path place) (content : List UInt8) (executable : Bool) :
    (d.put place (.file content executable)).LeadsTo here path place ∧
      (d.put place (.file content executable)).node? place = some (.file content executable) := by
  have hroot : place ≠ [] := by
    rintro rfl
    exact h.free rfl
  obtain ⟨l, hlocate, hnamed, hslash, hresolve⟩ := h.found
  have hnode := node?_put_self (d := d) hroot (.file content executable)
  refine ⟨⟨⟨l, locate_put h.free _ hlocate, hnamed, hslash, enter_put h.free _ hresolve⟩, ?_⟩, hnode⟩
  rw [hnode]
  simp

lemma load_file (h : d.LeadsTo here path place) {content : List UInt8} {executable : Bool}
    (hnode : d.node? place = some (.file content executable)) :
    d.load here path = .ok content := by
  obtain ⟨l, hlocate, -, hslash, hresolve⟩ := h.found
  simp [load, stat, hlocate, hresolve, hnode, hslash, bind, Except.bind, pure, Except.pure]

lemma load_absent (h : d.LeadsTo here path place) (hnode : d.node? place = none) :
    d.load here path = .error .notFound := by
  obtain ⟨l, hlocate, -, -, hresolve⟩ := h.found
  simp [load, stat, hlocate, hresolve, hnode, bind, Except.bind, throw, throwThe,
    MonadExceptOf.throw]

lemma write_eq (h : d.LeadsTo here path place) (change : List UInt8 → List UInt8) :
    ∃ executable, d.write here path change =
      .ok (d.put place (.file (change ((d.load here path).toOption.getD [])) executable)) := by
  obtain ⟨l, hlocate, hnamed, hslash, hresolve⟩ := h.found
  simp only [write, hlocate, hresolve, hnamed, hslash, bind, Except.bind]
  cases hnode : d.node? place with
  | none =>
    rw [h.load_absent hnode]
    exact ⟨false, rfl⟩
  | some node =>
    cases node with
    | directory => exact absurd hnode h.free
    | file old executable =>
      rw [h.load_file hnode]
      exact ⟨executable, rfl⟩

end LeadsTo

def Writable (d : Disk) (here : List String) (path : String) : Prop :=
  ∃ d', d.write here path id = .ok d'

lemma writable_iff : (d.write here path id).toBool = true ↔ d.Writable here path := by
  rw [Writable]
  cases d.write here path id <;> simp [Except.toBool]

instance : Decidable (d.Writable here path) :=
  decidable_of_iff _ writable_iff

lemma Writable.leadsTo (h : d.Writable here path) : ∃ place, d.LeadsTo here path place := by
  obtain ⟨d', h⟩ := h
  simp only [write, bind, Except.bind] at h
  split at h
  · cases h
  · next l hlocate =>
    split at h
    · cases h
    · next hplain =>
      split at h
      · cases h
      · next place hresolve =>
        have hplain : l.named = true ∧ l.slash = false := by simpa using hplain
        refine ⟨place, ⟨l, hlocate, hplain.1, hplain.2, hresolve⟩, ?_⟩
        intro hnode
        rw [hnode] at h
        cases h

lemma LeadsTo.writable (h : d.LeadsTo here path place) : d.Writable here path := by
  obtain ⟨executable, hwrite⟩ := h.write_eq id
  exact ⟨_, hwrite⟩

lemma Writable.write (h : d.Writable here path) (change : List UInt8 → List UInt8) :
    ∃ d', d.write here path change = .ok d' ∧ d'.Writable here path ∧
      d'.load here path = .ok (change ((d.load here path).toOption.getD [])) := by
  obtain ⟨place, hplace⟩ := h.leadsTo
  obtain ⟨executable, hwrite⟩ := hplace.write_eq change
  obtain ⟨hput, hnode⟩ := hplace.put (change ((d.load here path).toOption.getD [])) executable
  exact ⟨_, hwrite, hput.writable, hput.load_file hnode⟩

end Tagwire.Disk

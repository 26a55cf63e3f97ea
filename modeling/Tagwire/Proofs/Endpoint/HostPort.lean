import Mathlib
import Tagwire.Endpoint
import Tagwire.Proofs.Text.Decimal
import Tagwire.Proofs.Text.Split

namespace Tagwire.Endpoint

lemma parse_of_notMem {text : String} (h : ':' ∉ text.toList) :
    parse text = .error (.noColon text) := by
  rw [parse, Split.atLast_eq_none_iff.2 h]

lemma exists_cut {text : String} (h : ':' ∈ text.toList) :
    ∃ host port : String, text = host ++ ":" ++ port ∧ ':' ∉ port.toList := by
  cases hcut : Split.atLast ':' text.toList with
  | none => exact absurd h (Split.atLast_eq_none_iff.1 hcut)
  | some p =>
    obtain ⟨host, port⟩ := p
    obtain ⟨htext, hport⟩ := Split.atLast_spec hcut
    refine ⟨String.ofList host, String.ofList port, ?_, by rwa [String.toList_ofList]⟩
    apply String.toList_inj.1
    simp [htext]

lemma parse_cut (host : String) {port : String} (h : ':' ∉ port.toList) :
    parse (host ++ ":" ++ port) =
      if host = "" then .error (.noHost (host ++ ":" ++ port))
      else match Decimal.word16? port.toList with
        | none => .error (.badPort (host ++ ":" ++ port))
        | some n => .ok ⟨host, n⟩ := by
  have hcut : Split.atLast ':' (host ++ ":" ++ port).toList = some (host.toList, port.toList) := by
    rw [String.toList_append, String.toList_append, List.append_assoc]
    exact Split.atLast_append host.toList h
  rw [parse, hcut]
  split_ifs with hhost
  · subst hhost
    rfl
  · obtain ⟨c, cs, hcs⟩ := List.exists_cons_of_ne_nil (mt String.toList_eq_nil_iff.1 hhost)
    have hofList : String.ofList (c :: cs) = host := by rw [← hcs, String.ofList_toList]
    cases hport : Decimal.word16? port.toList with
    | none => simp only [hcs, hport]
    | some n => simp only [hcs, hport, hofList]

lemma parse_cut_eq_ok_iff {host port : String} (h : ':' ∉ port.toList) {e : Endpoint} :
    parse (host ++ ":" ++ port) = .ok e ↔
      e.host = host ∧ host ≠ "" ∧ Decimal.Numeral port.toList e.port.toNat := by
  rw [parse_cut host h, ← Decimal.word16?_eq_some_iff]
  split_ifs with hhost
  · simp [hhost]
  · cases hport : Decimal.word16? port.toList with
    | none => simp
    | some n =>
      obtain ⟨host', n'⟩ := e
      simp [hhost, eq_comm]

theorem parse_accepts_hostPort (e : Endpoint) :
    (∀ text, parse text = .ok e ↔ ∃ port : String,
      text = e.host ++ ":" ++ port ∧ e.host ≠ "" ∧ ':' ∉ port.toList ∧
        Decimal.Numeral port.toList e.port.toNat) ∧
    (e.host ≠ "" → parse e.text = .ok e) := by
  refine ⟨fun text => ⟨fun h => ?_, ?_⟩, fun hhost => ?_⟩
  · by_cases hcolon : ':' ∈ text.toList
    · obtain ⟨host, port, rfl, hport⟩ := exists_cut hcolon
      obtain ⟨rfl, hhost, hnumeral⟩ := (parse_cut_eq_ok_iff hport).1 h
      exact ⟨port, rfl, hhost, hport, hnumeral⟩
    · rw [parse_of_notMem hcolon] at h
      cases h
  · rintro ⟨port, rfl, hhost, hport, hnumeral⟩
    exact (parse_cut_eq_ok_iff hport).2 ⟨rfl, hhost, hnumeral⟩
  · have hdigits : (Decimal.text e.port.toNat).toList = Decimal.digits e.port.toNat :=
      String.toList_ofList
    apply (parse_cut_eq_ok_iff ?_).2 ⟨rfl, hhost, ?_⟩
    · rw [hdigits]
      exact Decimal.notMem_digits (by decide) _
    · rw [hdigits]
      exact Decimal.numeral_digits _

theorem parse_accepts_hostPort_colons :
    let e : Endpoint := ⟨"fe80::1", 2223⟩
    e.host ≠ "" ∧ parse e.text = .ok e ∧ parse "fe80::1:+0002223" = .ok e ∧
      parse "fe80::1:65536" = .error (.badPort "fe80::1:65536") := by
  intro e
  have hhost : e.host ≠ "" := by decide
  have hplus : Decimal.Numeral "+0002223".toList e.port.toNat :=
    ⟨"0002223".toList, .inr rfl, by decide, List.all_eq_true.1 rfl, rfl⟩
  obtain ⟨hread, hback⟩ := parse_accepts_hostPort e
  refine ⟨hhost, hback hhost, ?_, rfl⟩
  exact (hread _).2 ⟨"+0002223", by decide, hhost, by decide, hplus⟩

end Tagwire.Endpoint

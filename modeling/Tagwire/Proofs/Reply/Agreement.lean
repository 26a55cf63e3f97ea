import Mathlib
import Tagwire.Proofs.Sexp.Alist
import Tagwire.Reply

namespace Tagwire.Reply

open Sexp (field)

inductive Verdict : Except TagError (List TagRecord) → Except TagError Sexp → Prop
  | rejected (e : TagError) : Verdict (.error e) (.error e)
  | noValue : Verdict (.error (.violation .noValue)) (.ok (.list []))
  | noRecords : Verdict (.ok []) (.ok (.symbol "nil"))
  | notList (v : Sexp) : Verdict (.error (.violation (.valueNotList v))) (.ok v)
  | elements (vs : List Sexp) : Verdict ((vs.mapM tagRecord).mapError .violation) (.ok (.list vs))

lemma verdict (reply : String) : Verdict (tagRecords reply) (status reply) := by
  unfold tagRecords status
  cases fields reply with
  | error e => exact .rejected e
  | ok entries =>
    simp only [bind, Except.bind]
    rcases entries.find? "value" with _ | (text | value | name | vs)
    · exact .noValue
    · exact .notList _
    · exact .notList _
    · by_cases hname : name = "nil"
      · subst hname
        exact .noRecords
      · split
        · cases ‹_›
        · next h => exact absurd (Sexp.symbol.inj (Option.some.inj h)) hname
        · cases ‹_›
        · next h => exact Option.some.inj h ▸ .notList _
    · dsimp only
      cases accepted vs with
      | error e => exact .rejected e
      | ok vs => exact .elements vs

variable {r : Except TagError (List TagRecord)} {s : Except TagError Sexp}

lemma mapError_eq_error {ε ε' α : Type} {f : ε → ε'} {x : Except ε α} {e : ε'}
    (h : x.mapError f = .error e) : ∃ e', e = f e' := by
  cases x with
  | error e' => exact ⟨e', (Except.error.inj h).symm⟩
  | ok a => cases h

lemma length_of_mapM {ε α β : Type} {f : α → Except ε β} {xs : List α} {ys : List β}
    (h : xs.mapM f = .ok ys) : xs.length = ys.length := by
  induction xs generalizing ys with
  | nil =>
    cases h
    rfl
  | cons x xs ih =>
    rw [List.mapM_cons] at h
    cases hx : f x with
    | error e => simp [hx, bind, Except.bind] at h
    | ok y =>
      cases hxs : xs.mapM f with
      | error e => simp [hx, hxs, bind, Except.bind] at h
      | ok ys' =>
        simp only [hx, hxs, bind, Except.bind, pure, Except.pure, Except.ok.injEq] at h
        rw [← h, List.length_cons, List.length_cons, ih hxs]

lemma Verdict.of_error (h : Verdict r s) {e : TagError} (hs : s = .error e) : r = .error e := by
  cases h with
  | rejected e' =>
    cases hs
    rfl
  | noValue | noRecords | notList | elements => cases hs

lemma Verdict.error_iff (h : Verdict r s) {e : TagError} (he : ∀ v, e ≠ .violation v) :
    r = .error e ↔ s = .error e := by
  refine ⟨fun hr => ?_, h.of_error⟩
  cases h with
  | rejected e' =>
    cases hr
    rfl
  | noValue => exact absurd (Except.error.inj hr).symm (he _)
  | noRecords => cases hr
  | notList v => exact absurd (Except.error.inj hr).symm (he _)
  | elements vs =>
    obtain ⟨v, hv⟩ := mapError_eq_error hr
    exact absurd hv (he v)

lemma Verdict.of_ok (h : Verdict r s) {records : List TagRecord} (hr : r = .ok records) :
    (s = .ok (.symbol "nil") ∧ records = []) ∨
      ∃ items, s = .ok (.list items) ∧ items.length = records.length := by
  cases h with
  | rejected e => cases hr
  | noValue => cases hr
  | noRecords => exact .inl ⟨rfl, (Except.ok.inj hr).symm⟩
  | notList v => cases hr
  | elements vs =>
    cases hm : vs.mapM tagRecord with
    | error e => simp [hm, Except.mapError] at hr
    | ok records' =>
      simp only [hm, Except.mapError, Except.ok.injEq] at hr
      exact .inr ⟨vs, rfl, hr ▸ length_of_mapM hm⟩

def IsErrorForm (v : Sexp) : Prop :=
  ∃ payload, v = .list (.symbol "error" :: payload)

def Rejected (reply text : String) : Prop :=
  tagRecords reply = .error (.server text) ∧ status reply = .error (.server text)

variable {reply : String} {entries : Alist}

lemma rejected_of_error_entry (h : Sexp.read reply = .ok entries.toSexp) {payload : Sexp}
    (he : entries.find? "error" = some payload) : Rejected reply (errorText [payload]) := by
  have hfields : fields reply = .error (.server (errorText [payload])) := by
    simp only [fields, h, Alist.ofSexp_toSexp, he]
  simp only [Rejected, tagRecords, status, hfields]
  exact ⟨rfl, rfl⟩

lemma fields_eq_ok (h : Sexp.read reply = .ok entries.toSexp)
    (he : entries.find? "error" = none) : fields reply = .ok entries := by
  simp only [fields, h, Alist.ofSexp_toSexp, he]

lemma rejected_of_accepted (h : Sexp.read reply = .ok entries.toSexp)
    (he : entries.find? "error" = none) {vs : List Sexp} {text : String}
    (hv : entries.find? "value" = some (.list vs)) (ha : accepted vs = .error (.server text)) :
    Rejected reply text := by
  simp [Rejected, tagRecords, status, fields_eq_ok h he, bind, Except.bind, hv, ha, Except.map]

lemma errorForm?_eq_none {v : Sexp} (h : ¬ IsErrorForm v) : errorForm? v = none := by
  unfold errorForm?
  split
  · exact absurd ⟨_, rfl⟩ h
  · rfl

lemma accepted_of_errorForm {pre post payload : List Sexp} (hpre : ∀ v ∈ pre, ¬ IsErrorForm v) :
    accepted (pre ++ .list (.symbol "error" :: payload) :: post) =
      .error (.server (errorText payload)) := by
  have hnone : pre.findSome? errorForm? = none :=
    List.findSome?_eq_none_iff.2 fun v hv => errorForm?_eq_none (hpre v hv)
  simp [accepted, hnone, errorForm?]

lemma messageOf_field (m : String) : messageOf (.list [field "message" (.string m)]) = some m := by
  have h : Alist.ofSexp (.list [field "message" (.string m)]) = .ok [("message", .string m)] :=
    Alist.ofSexp_toSexp [("message", .string m)]
  simp [messageOf, h, Alist.string?, Alist.find?, Sexp.string?]

lemma errorText_alist (m : String) : errorText [.list [field "message" (.string m)]] = m := by
  simp [errorText, messageOf_field]

lemma errorText_entry (m : String) : errorText [field "message" (.string m)] = m := by
  have hnone : messageOf (field "message" (.string m)) = none := rfl
  simp [errorText, hnone, messageOf_field]

theorem decoders_agree (reply : String) :
    (∀ text, tagRecords reply = .error (.server text) ↔ status reply = .error (.server text)) ∧
    (∀ cause, tagRecords reply = .error (.unreadable cause) ↔
      status reply = .error (.unreadable cause)) ∧
    (∀ cause, status reply = .error (.violation cause) →
      tagRecords reply = .error (.violation cause)) ∧
    (∀ records, tagRecords reply = .ok records →
      (status reply = .ok (.symbol "nil") ∧ records = []) ∨
        ∃ items, status reply = .ok (.list items) ∧ items.length = records.length) ∧
    (∀ entries : Alist, Sexp.read reply = .ok entries.toSexp →
      (∀ before payload after, entries = before ++ ("error", payload) :: after →
        (∀ e ∈ after, e.1 ≠ "error") → Rejected reply (errorText [payload])) ∧
      ((∀ e ∈ entries, e.1 ≠ "error") →
        ∀ before vs after, entries = before ++ ("value", .list vs) :: after →
          (∀ e ∈ after, e.1 ≠ "value") →
          ∀ pre payload post, vs = pre ++ .list (.symbol "error" :: payload) :: post →
            (∀ v ∈ pre, ¬ IsErrorForm v) → Rejected reply (errorText payload))) ∧
    ∀ m, errorText [.list [field "message" (.string m)]] = m ∧
      errorText [field "message" (.string m)] = m := by
  have hverdict := verdict reply
  refine ⟨fun text => hverdict.error_iff (by simp), fun cause => hverdict.error_iff (by simp),
    fun cause => hverdict.of_error, fun records => hverdict.of_ok, ?_,
    fun m => ⟨errorText_alist m, errorText_entry m⟩⟩
  intro entries hread
  constructor
  · rintro before payload after rfl hlast
    exact rejected_of_error_entry hread (Alist.find?_last hlast)
  · rintro hnone before vs after rfl hlast pre payload post rfl hpre
    apply rejected_of_accepted hread (Alist.find?_eq_none hnone) (Alist.find?_last hlast)
    exact accepted_of_errorForm hpre

theorem decoders_agree_late_error :
    let late := Sexp.list [.symbol "error", field "message" (.string "late")]
    let entries : Alist := [("value", .symbol "nil"),
      ("value", .list [.integer 7, .list [.symbol "errors"], late, .list [.symbol "error"]]),
      ("version", .integer 2)]
    Rejected entries.toSexp.text "late" := by
  intro late entries
  have hread : Sexp.read entries.toSexp.text = .ok entries.toSexp :=
    Sexp.Readable.read_text (by decide)
  obtain ⟨-, -, -, -, hrejected, htext⟩ := decoders_agree entries.toSexp.text
  have h := (hrejected entries hread).2 (by decide) [("value", .symbol "nil")] _
    [("version", .integer 2)] rfl (by decide) [.integer 7, .list [.symbol "errors"]] _ _ rfl
    (by simp [IsErrorForm])
  rwa [(htext "late").2] at h

end Tagwire.Reply

import Mathlib
import Tagwire.Proofs.Host.Requests

/-! A world whose files are a map from paths to contents. Any operation may fail; a rename gives the
target its new content in one step or changes nothing. -/

namespace Tagwire

def Request.changesFiles : Request → Bool
  | .store .. | .openOutput .. | .append .. | .rename .. => true
  | _ => false

structure Files (τ : Type) where
  content : String → Option (List UInt8)
  rest : τ

/-- What the contents leave open: which operations on files fail, what a write that fails leaves in
its file, and the answers to all other requests. -/
structure Surroundings (τ : Type) where
  answer : (q : Request) → Files τ → q.Answer × τ
  torn : Request → Files τ → Option (List UInt8)

namespace Files

variable {τ : Type}

def load (f : Files τ) (path : String) : Except IoFault (List UInt8) :=
  match f.content path with
  | none => .error .notFound
  | some content => .ok content

def write (f : Files τ) (path : String) (content : List UInt8) (torn : Option (List UInt8)) :
    Except IoFault Unit → Except IoFault Unit × Files τ
  | .ok () => (.ok (), { f with content := Function.update f.content path (some content) })
  | .error fault => (.error fault, { f with content := Function.update f.content path torn })

def rename (f : Files τ) (source target : String) :
    Except IoFault Unit → Except IoFault Unit × Files τ
  | .ok () =>
    match f.content source with
    | none => (.error .notFound, f)
    | some content =>
      let without := Function.update f.content source none
      (.ok (), { f with content := Function.update without target (some content) })
  | .error fault => (.error fault, f)

def respond (torn : Option (List UInt8)) (f : Files τ) :
    (q : Request) → q.Answer → q.Answer × Files τ
  | .present path, there => (there || (f.content path).isSome, f)
  | .load path, answer => (answer.bind fun _ => f.load path, f)
  | .store path content, answer => f.write path content torn answer
  | .openOutput path keep, answer =>
    f.write path (if keep then (f.content path).getD [] else []) torn answer
  | .append path content, answer => f.write path ((f.content path).getD [] ++ content) torn answer
  | .rename source target, answer => f.rename source target answer
  | .exchange .., answer => (answer, f)
  | .which _, answer => (answer, f)
  | .launch .., answer => (answer, f)
  | .pause _, answer => (answer, f)
  | .makeDirectories _, answer => (answer, f)
  | .input, answer => (answer, f)
  | .output _, answer => (answer, f)
  | .workingDirectory, answer => (answer, f)
  | .clock, answer => (answer, f)

def handle (s : Surroundings τ) (q : Request) (f : Files τ) : q.Answer × Files τ :=
  let (answer, rest) := s.answer q f
  respond (s.torn q f) { f with rest } q answer

variable {s : Surroundings τ} {f : Files τ}

lemma handle_content {q : Request} (h : q.changesFiles = false) :
    (handle s q f).2.content = f.content := by
  cases q <;> first | rfl | cases h

lemma run_content {α : Type} {p : Program α}
    (h : Program.Asks (fun q => q.changesFiles = false) p) :
    (p.run (handle s) f).world.content = f.content :=
  h.keeps (I := fun f' : Files τ => f'.content = f.content)
    (fun _ _ hq hw => (handle_content hq).trans hw) rfl

lemma handle_load {path : String} {content : List UInt8}
    (h : (handle s (.load path) f).1 = .ok content) : f.content path = some content := by
  simp only [handle, respond, load] at h
  cases ha : (s.answer (.load path) f).1 with
  | error fault =>
    rw [ha] at h
    cases h
  | ok _ =>
    rw [ha] at h
    cases hcontent : f.content path with
    | none =>
      rw [hcontent] at h
      cases h
    | some c =>
      rw [hcontent] at h
      rw [Except.ok.inj h]

end Files

namespace Attempt

section Ends

variable {α β σ : Type} {handler : Program.Handler σ} {w : σ} {Q : Except TagError α → σ → Prop}

def Ends (handler : Program.Handler σ) (w : σ) (p : Attempt α)
    (Q : Except TagError α → σ → Prop) : Prop :=
  Q (p.run.run handler w).result (p.run.run handler w).world

lemma Ends.mono {p : Attempt α} {R : Except TagError α → σ → Prop} (h : p.Ends handler w Q)
    (hQR : ∀ r w', Q r w' → R r w') : p.Ends handler w R :=
  hQR _ _ h

lemma Ends.bind {p : Attempt β} {g : β → Attempt α} {R : Except TagError β → σ → Prop}
    (hp : p.Ends handler w R) (hok : ∀ b w', R (.ok b) w' → (g b).Ends handler w' Q)
    (herror : ∀ e w', R (.error e) w' → Q (.error e) w') : (p >>= g).Ends handler w Q := by
  unfold Ends at hp hok ⊢
  simp only [ExceptT.run_bind, Program.bind_eq, Program.run_bind]
  cases hresult : (p.run.run handler w).result with
  | ok b =>
    rw [hresult] at hp
    exact hok b _ hp
  | error e =>
    rw [hresult] at hp
    exact herror e _ hp

lemma ends_io {p : Program (Except IoFault α)}
    (h : match (p.run handler w).result with
      | .ok a => Q (.ok a) (p.run handler w).world
      | .error fault => Q (.error (.io fault)) (p.run handler w).world) :
    (io p).Ends handler w Q := by
  unfold Ends
  change Q (Program.run handler (p.bind _) w).result (Program.run handler (p.bind _) w).world
  simp only [Program.run_bind]
  cases hp : (p.run handler w).result with
  | ok a =>
    rw [hp] at h
    exact h
  | error fault =>
    rw [hp] at h
    exact h

end Ends

section Reads

variable {τ α β : Type} {s : Surroundings τ} {f : Files τ} {R : α → Prop}

def Reads (s : Surroundings τ) (f : Files τ) (p : Attempt α) (R : α → Prop) : Prop :=
  p.Ends (Files.handle s) f fun r f' => f'.content = f.content ∧ ∀ a, r = .ok a → R a

lemma Reads.bind {p : Attempt β} {g : β → Attempt α} {S : β → Prop} (hp : p.Reads s f S)
    (hg : ∀ b f', f'.content = f.content → S b → (g b).Reads s f' R) :
    (p >>= g).Reads s f R := by
  refine Ends.bind hp ?_ ?_
  · rintro b f' ⟨hf', hb⟩
    refine (hg b f' hf' (hb b rfl)).mono ?_
    rintro r f'' ⟨hf'', hr⟩
    exact ⟨hf''.trans hf', hr⟩
  · rintro e f' ⟨hf', -⟩
    exact ⟨hf', by simp⟩

lemma reads_outcome {r : Except TagError α} (h : ∀ a, r = .ok a → R a) :
    (outcome r).Reads s f R := by
  cases r with
  | ok a => exact ⟨rfl, h⟩
  | error e => exact ⟨rfl, fun _ ha => nomatch ha⟩

lemma reads_pure {a : α} (h : R a) : (pure a : Attempt α).Reads s f R :=
  reads_outcome (r := .ok a) fun _ ha => Except.ok.inj ha ▸ h

lemma reads_throw (e : TagError) : (throw e : Attempt α).Reads s f R :=
  reads_outcome (r := .error e) fun _ ha => nomatch ha

lemma reads_ask {q : Request} (hq : q.changesFiles = false) {R : q.Answer → Prop}
    (h : R (Files.handle s q f).1) : (ask q).Reads s f R :=
  ⟨Files.handle_content hq, fun _ ha => Except.ok.inj ha ▸ h⟩

lemma Reads.mono {p : Attempt α} {S : α → Prop} (h : p.Reads s f S) (hS : ∀ a, S a → R a) :
    p.Reads s f R :=
  Ends.mono h fun _ _ hr => ⟨hr.1, fun a ha => hS a (hr.2 a ha)⟩

lemma reads_io {p : Program (Except IoFault α)}
    (hp : Program.Asks (fun q => q.changesFiles = false) p) :
    (io p).Reads s f fun a => (p.run (Files.handle s) f).result = .ok a := by
  apply ends_io
  split
  · next h => exact ⟨Files.run_content hp, fun _ ha => Except.ok.inj ha ▸ h⟩
  · exact ⟨Files.run_content hp, by simp⟩

lemma reads_load (path : String) :
    (io (.request (.load path))).Reads s f fun content => f.content path = some content :=
  (reads_io (.ask rfl .done)).mono fun _ => Files.handle_load

end Reads

section Writes

variable {τ : Type} {s : Surroundings τ} {f : Files τ}

lemma store_ends (path : String) (content : List UInt8) :
    (io (.request (.store path content))).Ends (Files.handle s) f fun
      | .ok _, f' => f'.content = Function.update f.content path (some content)
      | .error _, f' => ∀ other, other ≠ path → f'.content other = f.content other := by
  apply ends_io
  simp only [Program.request, Program.run, Files.handle, Files.respond]
  cases (s.answer (.store path content) f).1 with
  | ok _ => rfl
  | error fault =>
    intro other hother
    exact Function.update_of_ne hother ..

lemma rename_ends (source target : String) :
    (io (.request (.rename source target))).Ends (Files.handle s) f fun
      | .ok _, f' => ∃ content, f.content source = some content ∧
          f'.content = Function.update (Function.update f.content source none) target (some content)
      | .error _, f' => f'.content = f.content := by
  apply ends_io
  simp only [Program.request, Program.run, Files.handle, Files.respond]
  cases (s.answer (.rename source target) f).1 with
  | ok _ =>
    simp only [Files.rename]
    cases hsource : f.content source with
    | none => rfl
    | some content => exact ⟨content, rfl, rfl⟩
  | error fault => rfl

end Writes

end Attempt

end Tagwire

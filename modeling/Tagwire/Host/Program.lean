import Tagwire.Error

/-! Programs that talk to the world by requests, which a handler answers. -/

namespace Tagwire

/-- Time limits in milliseconds; without a data limit an answer is waited for until it ends. -/
structure Timeouts where
  connect : Nat := 10000
  data : Option Nat := some 50000
deriving DecidableEq

inductive Request where
  | exchange (endpoint : Endpoint) (command : String) (timeouts : Timeouts)
  | which (name : String)
  | launch (program : String) (arguments : List String)
  | pause (milliseconds : Nat)
  | present (path : String)
  | load (path : String)
  | makeDirectories (path : String)
  | store (path : String) (content : List UInt8)
  | openOutput (path : String) (keep : Bool)
  | append (path : String) (content : List UInt8)
  | rename (source target : String)
  | input
  | output (content : List UInt8)
  | workingDirectory
  | clock
deriving DecidableEq

@[reducible] def Request.Answer : Request → Type
  | .exchange .. => Except IoFault String
  | .which _ => Option String
  | .launch .. => Except IoFault Unit
  | .pause _ => Unit
  | .present _ => Bool
  | .load _ => Except IoFault (List UInt8)
  | .makeDirectories _ => Except IoFault Unit
  | .store .. => Except IoFault Unit
  | .openOutput .. => Except IoFault Unit
  | .append .. => Except IoFault Unit
  | .rename .. => Except IoFault Unit
  | .input => Except IoFault (List UInt8)
  | .output _ => Except IoFault Unit
  | .workingDirectory => Except IoFault String
  | .clock => UInt64

inductive Program (α : Type) where
  | done (result : α)
  | ask (request : Request) (next : request.Answer → Program α)

namespace Program

variable {α β γ σ : Type}

def bind : Program α → (α → Program β) → Program β
  | .done a, f => f a
  | .ask q next, f => .ask q fun answer => (next answer).bind f

instance : Monad Program where
  pure := .done
  bind := bind

@[simp] theorem done_bind (a : α) (f : α → Program β) : (Program.done a).bind f = f a := rfl

@[simp] theorem ask_bind (q : Request) (next : q.Answer → Program α) (f : α → Program β) :
    (Program.ask q next).bind f = .ask q fun answer => (next answer).bind f := rfl

@[simp] theorem pure_eq (a : α) : (pure a : Program α) = .done a := rfl

@[simp] theorem bind_eq (p : Program α) (f : α → Program β) : p >>= f = p.bind f := rfl

theorem bind_done (p : Program α) : p.bind .done = p := by
  induction p with
  | done => rfl
  | ask q next ih => simp [ih]

theorem bind_assoc (p : Program α) (f : α → Program β) (g : β → Program γ) :
    (p.bind f).bind g = p.bind fun a => (f a).bind g := by
  induction p with
  | done => rfl
  | ask q next ih => simp [ih]

instance : LawfulMonad Program := LawfulMonad.mk' _
  (fun p => bind_done p)
  (fun _ _ => rfl)
  (fun p f g => bind_assoc p f g)

def request (q : Request) : Program q.Answer :=
  .ask q .done

abbrev Handler (σ : Type) := (q : Request) → σ → q.Answer × σ

structure Event where
  request : Request
  answer : request.Answer

structure Run (σ α : Type) where
  result : α
  world : σ
  events : List Event

def run (handler : Handler σ) : Program α → σ → Run σ α
  | .done a, s => ⟨a, s, []⟩
  | .ask q next, s =>
    let (answer, s') := handler q s
    let r := (next answer).run handler s'
    { r with events := ⟨q, answer⟩ :: r.events }

@[simp] theorem run_done (handler : Handler σ) (a : α) (s : σ) :
    (Program.done a).run handler s = ⟨a, s, []⟩ := rfl

theorem run_bind (handler : Handler σ) (p : Program α) (f : α → Program β) (s : σ) :
    (p.bind f).run handler s =
      let r := p.run handler s
      let t := (f r.result).run handler r.world
      ⟨t.result, t.world, r.events ++ t.events⟩ := by
  induction p generalizing s with
  | done => rfl
  | ask q next ih => simp [run, ih]

def runM {m : Type → Type} [Monad m] (answer : (q : Request) → m q.Answer) : Program α → m α
  | .done a => pure a
  | .ask q next => do (next (← answer q)).runM answer

structure Contact where
  endpoint : Endpoint
  command : String
  timeouts : Timeouts
  outcome : Except IoFault String

def Event.contact? : Event → Option Contact
  | ⟨.exchange endpoint command timeouts, outcome⟩ => some ⟨endpoint, command, timeouts, outcome⟩
  | _ => none

def contacts (events : List Event) : List Contact :=
  events.filterMap Event.contact?

end Program

abbrev Attempt := ExceptT TagError Program

namespace Attempt

variable {α : Type}

def ask (q : Request) : Attempt q.Answer :=
  ExceptT.lift (Program.request q)

def outcome : Except TagError α → Attempt α
  | .ok a => return a
  | .error e => throw e

def io (p : Program (Except IoFault α)) : Attempt α :=
  ExceptT.mk do
    match ← p with
    | .ok a => return .ok a
    | .error fault => return .error (.io fault)

end Attempt

end Tagwire

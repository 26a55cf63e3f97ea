import Mathlib
import Tagwire.Commands
import Tagwire.Host.Memory
import Tagwire.Proofs.CallSites.Reread
import Tagwire.Proofs.Etags.Appended
import Tagwire.Proofs.Host.Disk

/-! Call sites extracted into one output, run after run. -/

namespace Tagwire

namespace Attempt

variable {α β : Type} {m : Memory}

def Reaches (p : Attempt α) (m : Memory) (Q : α → Memory → List Program.Event → Prop) : Prop :=
  ∃ a m' events, p.run.run Memory.handle m = ⟨.ok a, m', events⟩ ∧ Q a m' events

lemma Reaches.mono {p : Attempt α} {Q R : α → Memory → List Program.Event → Prop}
    (h : p.Reaches m Q) (hQR : ∀ a m' events, Q a m' events → R a m' events) : p.Reaches m R := by
  obtain ⟨a, m', events, hrun, hQ⟩ := h
  exact ⟨a, m', events, hrun, hQR a m' events hQ⟩

lemma reaches_pure (a : α) {Q : α → Memory → List Program.Event → Prop} (h : Q a m []) :
    (pure a : Attempt α).Reaches m Q :=
  ⟨a, m, [], rfl, h⟩

lemma Reaches.bind {p : Attempt α} {f : α → Attempt β}
    {Q : β → Memory → List Program.Event → Prop}
    (h : p.Reaches m fun a m' before =>
      (f a).Reaches m' fun b m'' after => Q b m'' (before ++ after)) :
    (p >>= f).Reaches m Q := by
  obtain ⟨a, m', before, hp, b, m'', after, hf, hQ⟩ := h
  refine ⟨b, m'', before ++ after, ?_, hQ⟩
  rw [ExceptT.run_bind, Program.bind_eq, Program.run_bind, hp]
  simp only [hf]

lemma reaches_ask (q : Request) {Q : q.Answer → Memory → List Program.Event → Prop}
    (h : Q (Memory.handle q m).1 (Memory.handle q m).2 [⟨q, (Memory.handle q m).1⟩]) :
    (ask q).Reaches m Q :=
  ⟨_, _, _, rfl, h⟩

lemma reaches_io {p : Program (Except IoFault α)} {a : α} {m' : Memory}
    {events : List Program.Event} {Q : α → Memory → List Program.Event → Prop}
    (h : p.run Memory.handle m = ⟨.ok a, m', events⟩) (hQ : Q a m' events) :
    (io p).Reaches m Q := by
  refine ⟨a, m', events, ?_, hQ⟩
  change (p.bind _).run Memory.handle m = _
  rw [Program.run_bind, h]
  simp

end Attempt

namespace Commands

open Attempt (reaches_pure reaches_ask reaches_io)

def load? : Program.Event → Option (String × Except IoFault (List UInt8))
  | ⟨.load path, outcome⟩ => some (path, outcome)
  | _ => none

def loads (events : List Program.Event) : List (String × Except IoFault (List UInt8)) :=
  events.filterMap load?

def extracted (events : List Program.Event) : List Etags.Section :=
  (loads events).filterMap fun l => l.2.toOption.map (CallSites.sectionOf .call l.1)

@[simp] lemma loads_append (before after : List Program.Event) :
    loads (before ++ after) = loads before ++ loads after :=
  List.filterMap_append

lemma loads_load (path : String) (outcome : Except IoFault (List UInt8))
    (events : List Program.Event) :
    loads (⟨.load path, outcome⟩ :: events) = (path, outcome) :: loads events :=
  rfl

lemma extracted_load (path : String) (bytes : List UInt8) (events : List Program.Event) :
    extracted (⟨.load path, .ok bytes⟩ :: events) =
      CallSites.sectionOf .call path bytes :: extracted events :=
  rfl

lemma extracted_congr {events others : List Program.Event} (h : loads events = loads others) :
    extracted events = extracted others := by
  rw [extracted, extracted, h]

namespace Sink

def content : Sink → Memory → Except IoFault (List UInt8)
  | .screen, m => .ok m.output
  | .file path, m => m.disk.load m.here path

def Writable : Sink → Memory → Prop
  | .screen, _ => True
  | .file path, m => m.disk.Writable m.here path

instance (sink : Sink) (m : Memory) : Decidable (sink.Writable m) :=
  match sink with
  | .screen => .isTrue trivial
  | .file path => inferInstanceAs (Decidable (m.disk.Writable m.here path))

structure Holds (sink : Sink) (m : Memory) (content : List UInt8) : Prop where
  writable : sink.Writable m
  content : sink.content m = .ok content

def start (keep : Bool) : Sink → Memory → List UInt8
  | .screen, m => m.output
  | .file path, m => if keep then (m.disk.load m.here path).toOption.getD [] else []

variable {sink : Sink} {m : Memory} {content : List UInt8}

lemma prepare_reaches (keep : Bool) (h : sink.Writable m) :
    (sink.prepare keep).Reaches m fun _ m' events =>
      sink.Holds m' (sink.start keep m) ∧ loads events = [] := by
  cases sink with
  | screen => exact reaches_pure () ⟨⟨trivial, rfl⟩, rfl⟩
  | file path =>
    obtain ⟨d, hwrite, hagain, hload⟩ :=
      Disk.Writable.write h fun old => if keep then old else []
    have hrun : (Program.request (.openOutput path keep)).run Memory.handle m =
        ⟨.ok (), { m with disk := d }, [⟨.openOutput path keep, .ok ()⟩]⟩ := by
      simp [Program.request, Program.run, Memory.handle, Memory.changed, hwrite]
    exact reaches_io hrun ⟨⟨hagain, hload⟩, rfl⟩

lemma emit_reaches (h : sink.Holds m content) (piece : List UInt8) :
    (sink.emit piece).Reaches m fun _ m' events =>
      sink.Holds m' (content ++ piece) ∧ loads events = [] := by
  unfold emit
  split
  · next hempty =>
    rw [List.isEmpty_iff.1 hempty, List.append_nil]
    exact reaches_pure () ⟨h, rfl⟩
  cases sink with
  | screen =>
    refine reaches_io rfl ⟨⟨trivial, ?_⟩, rfl⟩
    rw [← Except.ok.inj h.content]
    rfl
  | file path =>
    obtain ⟨d, hwrite, hagain, hload⟩ := Disk.Writable.write h.writable (· ++ piece)
    have hcontent : m.disk.load m.here path = .ok content := h.content
    rw [hcontent] at hload
    have hrun : (Program.request (.append path piece)).run Memory.handle m =
        ⟨.ok (), { m with disk := d }, [⟨.append path piece, .ok ()⟩]⟩ := by
      simp [Program.request, Program.run, Memory.handle, Memory.changed, hwrite]
    exact reaches_io hrun ⟨⟨hagain, hload⟩, rfl⟩

lemma write_reaches (h : sink.Holds m content) (b : Buffer) (pieces : List (List UInt8)) :
    (sink.write b pieces).Reaches m fun b' m' events => loads events = [] ∧
      ∃ out, sink.Holds m' (content ++ out) ∧ out ++ b'.content = b.content ++ pieces.flatten := by
  induction pieces generalizing m content b with
  | nil => exact reaches_pure b ⟨rfl, [], by simpa using h, by simp⟩
  | cons piece pieces ih =>
    rw [write]
    refine .bind ((emit_reaches h (b.push piece).1).mono ?_)
    rintro - m' before ⟨hheld, hbefore⟩
    refine (ih hheld (b.push piece).2).mono ?_
    rintro b' m'' after ⟨hafter, out, hout, hcontent⟩
    refine ⟨by rw [loads_append, hbefore, hafter, List.nil_append], (b.push piece).1 ++ out, ?_, ?_⟩
    · rwa [← List.append_assoc]
    · rw [List.append_assoc, hcontent, ← List.append_assoc, Buffer.push_content]
      simp

end Sink

variable {sink : Sink} {m : Memory} {content : List UInt8}

lemma extract_reaches (h : sink.Holds m content) (b : Buffer) (paths : List String) :
    (extract sink b paths).Reaches m fun e m' events => (loads events).map Prod.fst = paths ∧
      ∃ out, sink.Holds m' (content ++ out) ∧
        out ++ e.buffer.content = b.content ++ Etags.bytes (extracted events) := by
  induction paths generalizing m content b with
  | nil => exact reaches_pure _ ⟨rfl, [], by simpa using h, by simp [extracted, loads, Etags.bytes]⟩
  | cons path paths ih =>
    rw [extract]
    refine .bind (reaches_ask (.load path) ?_)
    have hanswer : Memory.handle (.load path) m = (m.disk.load m.here path, m) := rfl
    rw [hanswer]
    cases m.disk.load m.here path with
    | error fault =>
      refine .bind ((ih h b).mono ?_)
      rintro e m' events ⟨hloads, hwritten⟩
      rw [← List.append_nil events] at hloads hwritten
      exact reaches_pure _ ⟨congrArg (path :: ·) hloads, hwritten⟩
    | ok bytes =>
      refine .bind ((Sink.write_reaches h b (CallSites.sectionOf .call path bytes).pieces).mono ?_)
      rintro b' m' before ⟨hbefore, out, hout, hcontent⟩
      refine .bind ((ih hout b').mono ?_)
      rintro e m'' after ⟨hloads, out', hout', hcontent'⟩
      have hsame : loads (before ++ after) = loads after := by
        rw [loads_append, hbefore, List.nil_append]
      refine reaches_pure _ ⟨?_, out ++ out', ?_, ?_⟩
      · rw [List.append_nil, List.singleton_append, loads_load, hsame, List.map_cons, hloads]
      · rwa [← List.append_assoc]
      · rw [List.append_nil, List.singleton_append, extracted_load,
          extracted_congr hsame, List.append_assoc, hcontent', ← List.append_assoc,
          hcontent, Etags.Section.flatten_pieces, List.append_assoc]
        rfl

lemma callgraph_reaches (format : Format) (paths : List String) (output : String) (keep : Bool)
    (h : (Sink.ofName output).Writable m) :
    (callgraph format paths output keep).Reaches m fun _ m' events =>
      (loads events).map Prod.fst = paths ∧
        (Sink.ofName output).Holds m'
          ((Sink.ofName output).start keep m ++ Etags.bytes (extracted events)) := by
  rw [callgraph]
  generalize Sink.ofName output = sink at h ⊢
  refine .bind ((Sink.prepare_reaches keep h).mono ?_)
  rintro - m₁ opened ⟨hstart, hopened⟩
  refine .bind ((extract_reaches hstart {} paths).mono ?_)
  rintro e m₂ events ⟨hloads, out, hout, hcontent⟩
  refine .bind ((Sink.emit_reaches hout e.buffer.content).mono ?_)
  rintro - m₃ flushed ⟨hflushed, hnone⟩
  have hsame : loads (opened ++ (events ++ (flushed ++ []))) = loads events := by
    rw [loads_append, loads_append, List.append_nil, hopened, hnone, List.nil_append,
      List.append_nil]
  rw [List.append_assoc, hcontent, ← extracted_congr hsame] at hflushed
  rw [← hsame] at hloads
  cases sink with
  | screen => exact reaches_pure _ ⟨hloads, hflushed⟩
  | file path => exact reaches_pure _ ⟨hloads, hflushed⟩

def extractionRun (format : Format) (paths : List String) (output : String) (keep : Bool)
    (m : Memory) : Program.Run Memory (Except TagError String) :=
  (callgraph format paths output keep).run.run Memory.handle m

lemma extractionRun_spec (format : Format) (paths : List String) (output : String) (keep : Bool)
    (h : (Sink.ofName output).Writable m) :
    ∃ text, (extractionRun format paths output keep m).result = .ok text ∧
      (loads (extractionRun format paths output keep m).events).map Prod.fst = paths ∧
      (Sink.ofName output).Holds (extractionRun format paths output keep m).world
        ((Sink.ofName output).start keep m ++
          Etags.bytes (extracted (extractionRun format paths output keep m).events)) := by
  obtain ⟨text, m', events, hrun, hloads, hholds⟩ := callgraph_reaches format paths output keep h
  rw [extractionRun, hrun]
  exact ⟨text, rfl, hloads, hholds⟩

lemma clean_extracted {events : List Program.Event}
    (h : ∀ path ∈ (loads events).map Prod.fst, '\n' ∉ path.toList) :
    Etags.Clean (extracted events) := by
  intro sec hsec
  obtain ⟨⟨path, outcome⟩, hload, hfound⟩ := List.mem_filterMap.1 hsec
  obtain ⟨bytes, -, rfl⟩ := Option.map_eq_some_iff.1 hfound
  exact CallSites.clean_sectionOf (h path (List.mem_map_of_mem hload)) bytes

/-- The sections that runs have extracted into one output, the first run into an empty one and each
later run behind what is there. Between two runs anything may change but the output. -/
inductive Accumulated (output : String) : Memory → List Etags.Section → Prop
  | first {m : Memory} {paths : List String} (format : Format) :
      (Sink.ofName output).Writable m → (output = "-" → m.output = []) →
      (∀ path ∈ paths, '\n' ∉ path.toList) →
      Accumulated output (extractionRun format paths output false m).world
        (extracted (extractionRun format paths output false m).events)
  | next {m m' : Memory} {paths : List String} {before : List Etags.Section} (format : Format) :
      Accumulated output m before →
      (Sink.ofName output).content m' = (Sink.ofName output).content m →
      (Sink.ofName output).Writable m' → (∀ path ∈ paths, '\n' ∉ path.toList) →
      Accumulated output (extractionRun format paths output true m').world
        (before ++ extracted (extractionRun format paths output true m').events)

lemma start_fresh {output : String} (h : output = "-" → m.output = []) :
    (Sink.ofName output).start false m = [] := by
  rw [Sink.ofName]
  split
  · next hscreen => exact h hscreen
  · rfl

lemma start_keep (h : sink.content m = .ok content) : sink.start true m = content := by
  cases sink with
  | screen => exact Except.ok.inj h
  | file path =>
    have hload : m.disk.load m.here path = .ok content := h
    simp [Sink.start, hload, Except.toOption]

lemma Accumulated.parse_content {output : String} {sections : List Etags.Section}
    (h : Accumulated output m sections) :
    ∃ content, (Sink.ofName output).content m = .ok content ∧
      Split.Ended Split.lineFeed content ∧ Etags.parse content = .ok sections := by
  induction h with
  | @first m paths format hwritable hfresh hpaths =>
    obtain ⟨-, -, hloads, hholds⟩ := extractionRun_spec format paths output false hwritable
    rw [start_fresh hfresh, List.nil_append] at hholds
    rw [← hloads] at hpaths
    exact ⟨_, hholds.content, Etags.ended_bytes _, (clean_extracted hpaths).parse_bytes⟩
  | @next m m' paths before format _ hsame hwritable hpaths ih =>
    obtain ⟨content, hcontent, hended, hparse⟩ := ih
    obtain ⟨-, -, hloads, hholds⟩ := extractionRun_spec format paths output true hwritable
    rw [start_keep (hsame.trans hcontent)] at hholds
    rw [← hloads] at hpaths
    exact ⟨_, hholds.content, hended.append (Etags.ended_bytes _),
      Etags.parse_append_bytes hended hparse (clean_extracted hpaths)⟩

theorem appending_keeps_sections :
    (∀ a b : List UInt8, (a = [] ∨ a.getLast? = some Split.lineFeed) →
      (Split.lines b).head? = some [Etags.sectionMark] →
      (∀ before after, Etags.parse a = .ok before → Etags.parse b = .ok after →
        Etags.parse (a ++ b) = .ok (before ++ after)) ∧
      (∀ e, Etags.parse a = .error e → Etags.parse (a ++ b) = .error e) ∧
      ∀ before e, Etags.parse a = .ok before → Etags.parse b = .error e →
        Etags.parse (a ++ b) = .error ⟨e.line + a.count Split.lineFeed, e.fault⟩) ∧
    (∀ format paths output keep m, (Sink.ofName output).Writable m →
      ∃ text, (extractionRun format paths output keep m).result = .ok text ∧
        (loads (extractionRun format paths output keep m).events).map Prod.fst = paths) ∧
    ∀ output m sections, Accumulated output m sections →
      ∃ content, (Sink.ofName output).content m = .ok content ∧
        Etags.parse content = .ok sections := by
  refine ⟨?_, ?_, ?_⟩
  · intro a b ha hb
    have hparse := Etags.parse_behind ha hb
    refine ⟨fun before after h₁ h₂ => ?_, fun e h₁ => ?_, fun before e h₁ h₂ => ?_⟩
    · rw [hparse, h₁, h₂]
      rfl
    · rw [hparse, h₁]
      rfl
    · rw [hparse, h₁, h₂]
      rfl
  · intro format paths output keep m h
    obtain ⟨text, hresult, hloads, -⟩ := extractionRun_spec format paths output keep h
    exact ⟨text, hresult, hloads⟩
  · intro output m sections h
    obtain ⟨content, hcontent, -, hparse⟩ := h.parse_content
    exact ⟨content, hcontent, hparse⟩

theorem appending_keeps_sections_edited_between :
    let m : Memory := { disk := ⟨[(["s"], .file (Utf8.encode "f(\n") false)]⟩ }
    let first := extractionRun .text ["s", "gone"] "o" false m
    let edited := { first.world with
      disk := first.world.disk.put ["s"] (.file (Utf8.encode "g(") false) }
    let second := extractionRun .json ["s", "o"] "o" true edited
    let dangling := Utf8.encode "\x0C\nu,1\n\x0C\n"
    let faulty := Utf8.encode "\x0C\r\nv,1\n\x01"
    Etags.parse (dangling ++ faulty) = .error ⟨6, .noSnippetEnd⟩ ∧
    ∃ content, (Sink.ofName "o").content second.world = .ok content ∧
      Etags.parse content = .ok [⟨"s", 3, [⟨[0x66, 0x28], "f", 1, 0⟩]⟩,
        ⟨"s", 2, [⟨[0x67, 0x28], "g", 1, 0⟩]⟩,
        ⟨"o", 15, [⟨Utf8.encode "f(\\0x7ff\\0x011,0", "f", 3, 6⟩]⟩] := by
  intro m first edited second dangling faulty
  obtain ⟨hparse, -, hruns⟩ := appending_keeps_sections
  constructor
  · have hbehind := (hparse dangling faulty (by decide) (by decide)).2.2
    exact hbehind [⟨"u", 1, []⟩] ⟨3, .noSnippetEnd⟩ (by decide) (by decide)
  · have hfirst : Accumulated "o" first.world (extracted first.events) :=
      .first .text (by decide +kernel) (by decide) (by decide)
    have hsecond : Accumulated "o" second.world _ :=
      .next .json hfirst (by decide +kernel) (by decide +kernel) (by decide)
    obtain ⟨content, hcontent, hread⟩ := hruns "o" second.world _ hsecond
    refine ⟨content, hcontent, hread.trans (congrArg Except.ok ?_)⟩
    decide +kernel

end Commands

end Tagwire

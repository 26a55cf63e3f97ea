import Mathlib
import Tagwire.Commands
import Tagwire.Proofs.Commands.Querying
import Tagwire.Proofs.Host.Files
import Tagwire.Proofs.Listing.ViFile
import Tagwire.Proofs.Manager.Launches
import Tagwire.Proofs.TagsFile.RoundTrip

/-! Commands that give a file a new content. The rename that puts it in place comes last. -/

namespace Tagwire

open Program (Asks)

lemma Manager.sendWithTimeouts_quiet (m : Manager) (key : Key) (command : String)
    (timeouts : Timeouts) :
    Asks (fun q => q.changesFiles = false) (m.sendWithTimeouts key command timeouts) := by
  have hsends (q : Request) (hq : Program.Sends command timeouts q) : q.changesFiles = false := by
    obtain ⟨endpoint, rfl⟩ := hq
    rfl
  unfold sendWithTimeouts
  cases m.route with
  | direct => exact (sendDirect_asks m key command timeouts).mono hsends
  | proxy endpoint => exact (sendProxy_asks m endpoint key command timeouts).mono hsends
  | mixer =>
    refine (m.mixer.ensureLaunched_asks (fun _ => rfl) (fun _ _ => rfl) fun _ => rfl).bind ?_
    intro mixer
    exact (sendRetrying_asks (P := fun q => q.changesFiles = false) rfl rfl _).bind fun _ => .done _

lemma Client.query_quiet (c : Client) (key : Key) (q : Query) :
    Asks (fun q => q.changesFiles = false) (c.query key q) := by
  rw [query_eq]
  exact (Manager.sendWithTimeouts_quiet c.manager key _ (c.limits q)).bind fun _ => .done _

variable {τ : Type} {s : Surroundings τ} {f : Files τ}

structure Files.Replaced (before after : Files τ) (path : String) (content : List UInt8) :
    Prop where
  written : after.content path = some content
  beside : after.content (path ++ ".tmp") = none
  others : ∀ other, other ≠ path → other ≠ path ++ ".tmp" →
    after.content other = before.content other

/-- The end of an attempt to replace a file: when it fails the file is as it was. -/
def Files.KeptOrReplaced {α : Type} (before : Files τ) (path : String)
    (rendering : List UInt8 → Prop) : Except TagError α → Files τ → Prop
  | .error _, after => after.content path = before.content path
  | .ok _, after => ∃ content, rendering content ∧ before.Replaced after path content

namespace Files.KeptOrReplaced

variable {α : Type} {after : Files τ} {path : String} {rendering : List UInt8 → Prop}
  {r : Except TagError α}

lemma kept (h : f.KeptOrReplaced path rendering r after) (hr : r.toBool = false) :
    after.content path = f.content path := by
  cases r with
  | error e => exact h
  | ok a => cases hr

lemma replaced (h : f.KeptOrReplaced path rendering r after) (hr : r.toBool = true)
    {content : List UInt8} (hcontent : after.content path = some content) :
    f.Replaced after path content ∧ rendering content := by
  cases r with
  | error e => cases hr
  | ok a =>
    obtain ⟨written, hwritten, hreplaced⟩ := h
    obtain rfl := Option.some.inj (hreplaced.written.symm.trans hcontent)
    exact ⟨hreplaced, hwritten⟩

lemma congr {f' : Files τ} (hf' : f'.content = f.content)
    (h : f'.KeptOrReplaced path rendering r after) : f.KeptOrReplaced path rendering r after := by
  cases r with
  | error e => exact h.trans (congrFun hf' path)
  | ok a =>
    obtain ⟨content, hcontent, hwritten, hbeside, hothers⟩ := h
    refine ⟨content, hcontent, hwritten, hbeside, fun other hother hne => ?_⟩
    rw [hothers other hother hne, hf']

end Files.KeptOrReplaced

namespace Attempt

lemma beside_ne (path : String) : path ++ ".tmp" ≠ path := by
  intro h
  simpa using congrArg String.length h

lemma writeBeside_ends (path : String) (content : List UInt8) :
    (do
      io (.request (.store (path ++ ".tmp") content))
      io (.request (.rename (path ++ ".tmp") path)) : Attempt Unit).Ends (Files.handle s) f
        (f.KeptOrReplaced path (· = content)) := by
  have hne := beside_ne path
  -- whatever a failed write leaves, it leaves in the file beside
  refine (store_ends _ content).bind ?_ fun e f₁ hstored => hstored path hne.symm
  intro _ f₁ hstored
  refine (rename_ends _ path).mono ?_
  rintro (e | ok) f₂ hrenamed
  · change f₂.content path = f.content path
    rw [hrenamed, hstored, Function.update_of_ne hne.symm]
  · obtain ⟨stored, hsource, hrenamed⟩ := hrenamed
    rw [hstored, Function.update_self] at hsource
    obtain rfl := Option.some.inj hsource
    refine ⟨content, rfl, ?_, ?_, fun other hother hbeside => ?_⟩
    · rw [hrenamed, Function.update_self]
    · rw [hrenamed, Function.update_of_ne hne, Function.update_self]
    · rw [hrenamed, Function.update_of_ne hother, Function.update_of_ne hbeside, hstored,
        Function.update_of_ne hbeside]

lemma Reads.replaces {α β : Type} {p : Attempt α} {g : α → Attempt β} {R : α → Prop} {path : String}
    {rendering : List UInt8 → Prop} (hp : p.Reads s f R)
    (hg : ∀ a f', f'.content = f.content → R a →
      (g a).Ends (Files.handle s) f' (f'.KeptOrReplaced path rendering)) :
    (p >>= g).Ends (Files.handle s) f (f.KeptOrReplaced path rendering) := by
  refine Ends.bind hp ?_ fun e f' hf' => congrFun hf'.1 path
  rintro a f' ⟨hf', ha⟩
  exact (hg a f' hf' (ha a rfl)).mono fun _ _ h => h.congr hf'

lemma replaceFile_ends (path : String) (content : List UInt8) :
    (replaceFile path content).Ends (Files.handle s) f (f.KeptOrReplaced path (· = content)) := by
  unfold replaceFile
  cases Path.parent? path with
  | none => exact writeBeside_ends path content
  | some parent =>
    exact (reads_io (.ask rfl .done)).replaces fun _ _ _ _ => writeBeside_ends path content

lemma replacing_ends {α : Type} {p : Attempt α} {bytes : α → List UInt8} (text : α → String)
    {path : String} {rendering : List UInt8 → Prop}
    (hp : p.Reads s f fun a => rendering (bytes a)) :
    (do
      let a ← p
      replaceFile path (bytes a)
      return text a : Attempt String).Ends (Files.handle s) f
        (f.KeptOrReplaced path rendering) := by
  refine hp.replaces fun a f' hf' ha => ?_
  refine (replaceFile_ends path (bytes a)).bind ?_ fun _ _ hkept => hkept
  rintro _ f'' ⟨_, rfl, hreplaced⟩
  exact ⟨_, ha, hreplaced⟩

end Attempt

namespace Commands

open Attempt (reads_ask reads_pure reads_throw reads_outcome reads_io reads_load)

def inputOf (s : Surroundings τ) (f : Files τ) (input : String) : Option (List UInt8) :=
  if input = "-" then (s.answer .input f).1.toOption else f.content input

def deletionsOf (f : Files τ) : Option String → Option (List String)
  | none => some []
  | some path => do
    let content ← f.content path
    let text ← Utf8.decode? content
    return (Split.textLines text).filter (· ≠ "")

lemma readInput_reads (input : String) :
    (readInput input).Reads s f fun bytes => inputOf s f input = some bytes := by
  unfold readInput inputOf
  split
  · refine (reads_io (.ask rfl .done)).mono fun bytes hbytes => ?_
    have hanswer : (s.answer .input f).1 = .ok bytes := hbytes
    rw [hanswer]
    rfl
  refine (reads_ask (R := fun _ => True) rfl trivial).bind fun there f' hf' _ => ?_
  split
  · rw [← hf']
    exact reads_load input
  · exact reads_throw _

lemma readDeletionList_reads (path : String) :
    (readDeletionList path).Reads s f fun deleted => deletionsOf f (some path) = some deleted := by
  unfold readDeletionList
  refine (reads_ask (q := .load path) (R := fun answer : Except IoFault (List UInt8) =>
    ∀ content, answer = .ok content → f.content path = some content) rfl
    fun _ => Files.handle_load).bind ?_
  rintro (fault | content) f' - hcontent
  · exact reads_throw _
  · simp only
    cases htext : Utf8.decode? content with
    | none => exact reads_throw _
    | some text => exact reads_pure (by simp [deletionsOf, hcontent content rfl, htext])

def conversion (context : Context) (input : String) (guessLanguage : Bool)
    (deletionList : Option String) (withHeader : Bool) (timestamp : Option UInt64) :
    Attempt TagsFile := do
  let bytes ← readInput input
  let deleted ← deletionList.elim (pure []) readDeletionList
  let sections ← Attempt.outcome ((Etags.parse bytes).mapError .malformedEtags)
  let timestamp ← timestamp.elim (Attempt.ask .clock) pure
  return TagsFile.ofEtags
    { corpus := context.config.corpus, language := context.language, guessLanguage
      callers := context.callType.callers, withHeader, timestamp } sections deleted

lemma convert_eq (context : Context) (input : String) {output : String} (guessLanguage : Bool)
    (deletionList : Option String) (withHeader : Bool) (timestamp : Option UInt64)
    (houtput : output ≠ "-") :
    ∃ text : TagsFile → String,
        convert context input output guessLanguage deletionList withHeader timestamp = do
      let tags ← conversion context input guessLanguage deletionList withHeader timestamp
      Attempt.replaceFile output tags.bytes
      return text tags := by
  refine ⟨fun tags => Render.object context.format (.object [("output", .string output),
    ("files", .nat tags.files.length), ("items", .nat (itemCount tags)),
    ("deleted", .nat tags.deleted.length)]), ?_⟩
  cases deletionList <;> cases timestamp <;> simp [convert, conversion, houtput]

/-- What a conversion is to write, from the files that it reads, and what a reader finds in it.
Without a timestamp of its own a conversion takes the time of some later moment. -/
def Converted (s : Surroundings τ) (f : Files τ) (context : Context) (input : String)
    (guessLanguage : Bool) (deletionList : Option String) (withHeader : Bool)
    (timestamp : Option UInt64) (content : List UInt8) : Prop :=
  ∃ bytes sections deleted later, inputOf s f input = some bytes ∧
    deletionsOf f deletionList = some deleted ∧ Etags.parse bytes = .ok sections ∧
    let options : TagsFile.Options :=
      { corpus := context.config.corpus, language := context.language, guessLanguage
        callers := context.callType.callers, withHeader
        timestamp := timestamp.getD (s.answer .clock { f with rest := later }).1 }
    content = (TagsFile.ofEtags options sections deleted).bytes ∧
      TagsFile.parse (Utf8.decode content) = .ok (TagsFile.reread options sections deleted)

lemma conversion_reads (context : Context) (input : String) (guessLanguage : Bool)
    (deletionList : Option String) (withHeader : Bool) (timestamp : Option UInt64) :
    (conversion context input guessLanguage deletionList withHeader timestamp).Reads s f fun tags =>
      Converted s f context input guessLanguage deletionList withHeader timestamp tags.bytes := by
  refine (readInput_reads input).bind fun bytes f₁ hf₁ hbytes => ?_
  have hdeletions : (deletionList.elim (pure []) readDeletionList).Reads s f₁ fun deleted =>
      deletionsOf f deletionList = some deleted := by
    cases deletionList with
    | none => exact reads_pure rfl
    | some path =>
      have hread := readDeletionList_reads (s := s) (f := f₁) path
      simp only [deletionsOf, hf₁] at hread ⊢
      exact hread
  refine hdeletions.bind fun deleted f₂ hf₂ hdeleted => ?_
  have hparse (sections : List Etags.Section)
      (h : (Etags.parse bytes).mapError TagError.malformedEtags = .ok sections) :
      Etags.parse bytes = .ok sections := by
    cases hsections : Etags.parse bytes with
    | error e =>
      rw [hsections] at h
      cases h
    | ok found =>
      rw [hsections] at h
      exact congrArg Except.ok (Except.ok.inj h)
  refine (reads_outcome hparse).bind fun sections f₃ hf₃ hsections => ?_
  have hclock : (timestamp.elim (Attempt.ask .clock) pure).Reads s f₃ fun time =>
      ∃ later, time = timestamp.getD (s.answer .clock { f with rest := later }).1 := by
    cases timestamp with
    | some given => exact reads_pure ⟨f₃.rest, rfl⟩
    | none =>
      apply reads_ask rfl
      refine ⟨f₃.rest, ?_⟩
      rw [← hf₁, ← hf₂, ← hf₃]
      rfl
  refine hclock.bind fun time f₄ _ ⟨later, htime⟩ => reads_pure ?_
  exact ⟨bytes, sections, deleted, later, hbytes, hdeleted, hsections, htime ▸ rfl,
    htime ▸ TagsFile.parse_ofEtags_bytes ..⟩

def answering (environment : Environment) (context : Context) (q : Query) :
    Attempt (List TagRecord) := do
  let client ← Attempt.outcome (context.client environment)
  let answer ← Attempt.query client context.key q
  return records answer

lemma lookup_eq (environment : Environment) (context : Context) (tag : String) (mode : LookupMode)
    (names : Bool) (path : String) :
    ∃ text : List TagRecord → String,
        lookup environment context tag mode names (some path) = do
      let tags ← answering environment context (mode.query tag)
      Attempt.replaceFile path (Listing.viFile tags)
      return text tags := by
  refine ⟨fun tags => Render.object context.format
    (.object [("tags_file", .string path), ("tags", .nat tags.length)]), ?_⟩
  simp [lookup, answering]

/-- What a lookup is to write, from what its servers answer: the lines that it would show, from
which the fields of the records can be read again. -/
def Found (s : Surroundings τ) (f : Files τ) (environment : Environment) (context : Context)
    (q : Query) (content : List UInt8) : Prop :=
  ∃ client answer, context.client environment = .ok client ∧
    ((client.query context.key q).run (Files.handle s) f).result.1 = .ok answer ∧
    content = Listing.viFile (records answer) ∧
    content = Utf8.encode (Render.tags .vi (records answer)) ∧
    ((∀ t ∈ records answer, Listing.Unbroken t.tag ∧ Listing.Unbroken t.filename) →
      (content.splitOn Split.lineFeed).map (·.splitOn Listing.tab) =
        ((records answer).map fun t => (Listing.fields t).map Utf8.encode) ++ [[[]]])

lemma query_reads (client : Client) (key : Key) (q : Query) :
    (Attempt.query client key q).Reads s f fun answer =>
      ((client.query key q).run (Files.handle s) f).result.1 = .ok answer := by
  unfold Attempt.Reads Attempt.Ends
  rw [Attempt.run_query]
  exact ⟨Files.run_content (client.query_quiet key q), fun _ h => h⟩

lemma answering_reads (environment : Environment) (context : Context) (q : Query) :
    (answering environment context q).Reads s f fun tags =>
      Found s f environment context q (Listing.viFile tags) := by
  unfold answering
  cases hclient : context.client environment with
  | error e => exact reads_throw e
  | ok client =>
    change (pure client >>= fun client => _ : Attempt (List TagRecord)).Reads s f _
    rw [pure_bind]
    refine (query_reads client context.key q).bind fun answer _ _ hanswer => reads_pure ?_
    exact ⟨client, answer, hclient, hanswer, rfl, (Listing.encode_tags_vi _).symm,
    Listing.fields_viFile⟩

/-- Surroundings in which just these requests fail. A write that fails leaves an empty file, and a
server replies that it has found one tag. -/
def failing (fails : Request → Bool) : Surroundings Unit where
  answer q _ :=
    let outcome : Except IoFault Unit := if fails q then .error .busy else .ok ()
    match q with
    | .exchange .. =>
      (outcome.map fun _ =>
        "((value (((tag \"f\") (filename \"a.c\") (lineno 1) (offset 0) (snippet \"f(\")))))", ())
    | .load _ | .input => (outcome.map fun _ => [], ())
    | .launch .. | .makeDirectories _ | .store .. | .openOutput .. | .append .. | .rename ..
      | .output _ => (outcome, ())
    | .present _ => (false, ())
    | .workingDirectory => (outcome.map fun _ => "/", ())
    | .which _ => (none, ())
    | .clock => (0, ())
    | .pause _ => ((), ())
  torn _ _ := some []

end Commands

end Tagwire

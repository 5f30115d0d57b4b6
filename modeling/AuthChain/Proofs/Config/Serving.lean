import AuthChain.Proofs.Config.Reloading

/-!
# What a provider of a file serves

Lookups and reloads of a provider are mixed with changes that others make to its files. Which loads
are made is told by the history alone: one at each reload, and one at each lookup before the first
load that succeeds.

Main statement: after every history the provider serves the document of the latest load that
succeeded. It answers from it whatever the files are by then, and a load that fails changes nothing
(`FileSource.serves_latest_load`).
-/

namespace AuthChain.Config

open Json (Value)

/-! ## A document without members -/

theorem lookupKey_null (key : String) : lookupKey .null key = none := by
  unfold lookupKey keyNames
  cases hpieces : key.toList.splitOn '.' with
  | nil => exact absurd hpieces (List.splitOn_ne_nil _ _)
  | cons piece rest => rfl

namespace FileSource

variable {σ α : Type} (f : FileSource σ)

/-! ## One load -/

/-- What a load finds: the document of the text, an empty one for a missing file, or why there is
none. -/
def found (s : σ) : Except ConfigError Value :=
  match readFile (f.files s) f.path with
  | .error fault => .error (.io fault)
  | .ok none => .ok .null
  | .ok (some text) => parseDocument text

/-- What a load tells: nothing but that the file is missing. -/
def told (s : σ) : List Event :=
  match readFile (f.files s) f.path with
  | .ok none => [.fileMissing f.path]
  | _ => []

/-- An answer from a fresh load: the document gives the answer and is served from now on, or the
error is the answer and nothing changes. -/
def freshly (s : σ) (answer : Value → α) : Outcome Event σ (Except ConfigError α) :=
  match f.found s with
  | .ok document => ⟨.ok (answer document), f.told s, f.document.set (some document) s⟩
  | .error e => ⟨.error e, [], s⟩

theorem load_run (s : σ) : f.load.run s = ⟨f.found s, f.told s, s⟩ := by
  have hstate : (Reading.ofAct Act.get).run s = ⟨.ok s, [], s⟩ := rfl
  unfold load found told
  rw [run_bind_of hstate]
  cases readFile (f.files s) f.path with
  | error fault => rfl
  | ok text =>
    cases text with
    | none => rfl
    | some text => rfl

theorem told_of_found_error {s : σ} {e : ConfigError} (h : f.found s = .error e) :
    f.told s = [] := by
  unfold found at h
  unfold told
  cases hread : readFile (f.files s) f.path with
  | error fault => rfl
  | ok text =>
    rw [hread] at h
    cases text with
    | none => cases h
    | some text => rfl

theorem reload_run (s : σ) : f.reload.run s = f.freshly s id := by
  unfold reload freshly
  rw [ExceptT.run_bind, Act.bind_apply, load_run]
  cases hfound : f.found s with
  | ok document =>
    show Outcome.mk _ (f.told s ++ []) _ = _
    rw [List.append_nil]
    rfl
  | error e =>
    show Outcome.mk _ (f.told s ++ []) _ = _
    rw [List.append_nil, f.told_of_found_error hfound]
    rfl

/-- Without a document, a lookup makes a load. -/
theorem getRaw_fresh {s : σ} (h : f.document.get s = none) (key : String) :
    (f.provider.getRaw key).run s = f.freshly s fun document => lookupKey document key := by
  have hasked : (Reading.ofAct (Act.gets f.document.get)).run s = ⟨.ok none, [], s⟩ := by
    rw [← h]
    rfl
  have hcurrent : f.current.run s = f.freshly s id := by
    rw [← reload_run, current, run_bind_of hasked]
  unfold provider freshly
  rw [ExceptT.run_bind, Act.bind_apply, hcurrent, freshly]
  cases f.found s with
  | ok document =>
    show Outcome.mk _ (f.told s ++ []) _ = _
    rw [List.append_nil]
    rfl
  | error e => rfl

/-- With a document, a lookup answers from it and leaves everything as it is. -/
theorem getRaw_served {s : σ} {document : Value} (h : f.document.get s = some document)
    (key : String) :
    (f.provider.getRaw key).run s = ⟨.ok (lookupKey document key), [], s⟩ := by
  unfold provider
  rw [run_bind_of (current_served h)]
  rfl

/-! ## Histories -/

/-- Something that happens to a provider of a file. -/
inductive Happening where
  /-- Others change the state, the files among the rest, but not the document that is served. -/
  | changed (change : σ → σ) (hkept : ∀ s, f.document.get (change s) = f.document.get s)
  /-- A key is looked up. -/
  | asked (key : String)
  /-- The document is loaded again. -/
  | reloaded

/-- A state that a history led to, with what the loads of the history found. -/
structure Account (σ : Type) where
  state : σ
  loads : List (Except ConfigError Value)

/-- The document of the latest load that succeeded. -/
def Account.latest (a : Account σ) : Option Value :=
  (a.loads.filterMap Except.toOption).getLast?

variable {f}

/-- What a happening does to the state. -/
def Happening.step (s : σ) : Happening f → σ
  | .changed change _ => change s
  | .asked key => ((f.provider.getRaw key).run s).state
  | .reloaded => (f.reload.run s).state

/-- A happening makes a load: a reload always does, a lookup as long as no load succeeded. -/
def Happening.isLoad (a : Account σ) : Happening f → Bool
  | .changed .. => false
  | .asked _ => a.latest.isNone
  | .reloaded => true

/-- The account after one more happening. -/
def Account.next (a : Account σ) (h : Happening f) : Account σ :=
  ⟨h.step a.state, if h.isLoad a then a.loads ++ [f.found a.state] else a.loads⟩

/-- The account after a further history. -/
def Account.after (a : Account σ) (hs : List (Happening f)) : Account σ :=
  hs.foldl Account.next a

section Latest

variable {a : Account σ} {h : Happening f}

theorem latest_next_of_isLoad (hload : h.isLoad a = true) :
    (a.next h).latest = (f.found a.state).toOption.or a.latest := by
  unfold Account.latest Account.next
  rw [if_pos hload, List.filterMap_append, List.getLast?_append]
  cases f.found a.state <;> rfl

theorem latest_next_of_not_isLoad (hload : h.isLoad a = false) :
    (a.next h).latest = a.latest := by
  unfold Account.latest Account.next
  rw [hload]
  rfl

/-- Only a reload replaces a document that is served. -/
theorem latest_next_of_some {document : Value} (hlatest : a.latest = some document)
    (hreload : h ≠ .reloaded) : (a.next h).latest = some document := by
  have hload : h.isLoad a = false := by
    cases h with
    | changed change hkept => rfl
    | asked key =>
      unfold Happening.isLoad
      rw [hlatest]
      rfl
    | reloaded => exact absurd rfl hreload
  rw [latest_next_of_not_isLoad hload, hlatest]

theorem latest_next_asked_of_some {document : Value} (hlatest : a.latest = some document)
    (key : String) : (a.next (.asked key : Happening f)).latest = some document :=
  latest_next_of_some hlatest fun h => nomatch h

theorem latest_next_asked_of_none (hlatest : a.latest = none) (key : String) :
    (a.next (.asked key : Happening f)).latest = (f.found a.state).toOption := by
  have hload : (Happening.asked key : Happening f).isLoad a = true := by
    unfold Happening.isLoad
    rw [hlatest]
    rfl
  rw [latest_next_of_isLoad hload, hlatest, Option.or_none]

theorem latest_after {document : Value} (later : List (Happening f)) (hlater : .reloaded ∉ later) :
    ∀ {a : Account σ}, a.latest = some document → (a.after later).latest = some document := by
  induction later with
  | nil => exact fun h => h
  | cons h rest ih =>
    intro a hlatest
    have hrest : .reloaded ∉ rest := fun hmem => hlater (List.mem_cons_of_mem _ hmem)
    have hreload : h ≠ .reloaded := fun heq => hlater (heq ▸ List.mem_cons_self)
    exact ih hrest (latest_next_of_some hlatest hreload)

end Latest

/-! ## The document that is served -/

/-- The document that is served is the one of the latest load that succeeded. -/
def Account.Sound (f : FileSource σ) (a : Account σ) : Prop :=
  f.document.get a.state = a.latest

theorem get_freshly (hlawful : f.document.Lawful) (s : σ) (answer : Value → α) :
    f.document.get (f.freshly s answer).state =
      (f.found s).toOption.or (f.document.get s) := by
  unfold freshly
  cases f.found s with
  | ok document => exact hlawful.get_set _ _
  | error e => rfl

theorem Account.Sound.next (hlawful : f.document.Lawful) {a : Account σ} (hsound : a.Sound f)
    (h : Happening f) : (a.next h).Sound f := by
  unfold Account.Sound at hsound ⊢
  cases h with
  | changed change hkept =>
    rw [latest_next_of_not_isLoad rfl, ← hsound]
    exact hkept a.state
  | asked key =>
    show f.document.get ((f.provider.getRaw key).run a.state).state = _
    -- the lookup loads just when there is no document, by the invariant when no load succeeded
    cases hlatest : a.latest with
    | none =>
      rw [latest_next_asked_of_none hlatest, f.getRaw_fresh (hsound.trans hlatest),
        get_freshly hlawful, hsound, hlatest, Option.or_none]
    | some document =>
      rw [latest_next_asked_of_some hlatest, f.getRaw_served (hsound.trans hlatest)]
      exact hsound.trans hlatest
  | reloaded =>
    show f.document.get (f.reload.run a.state).state = _
    rw [latest_next_of_isLoad rfl, reload_run, get_freshly hlawful, hsound]

theorem Account.Sound.after (hlawful : f.document.Lawful) (hs : List (Happening f)) :
    ∀ {a : Account σ}, a.Sound f → (a.after hs).Sound f := by
  induction hs with
  | nil => exact fun hsound => hsound
  | cons h rest ih => exact fun hsound => ih (hsound.next hlawful h)

/-- What a provider of a file does after a history. -/
structure Serving (f : FileSource σ) (a : Account σ) : Prop where
  /-- The document of the latest load that succeeded is served. -/
  served : f.document.get a.state = a.latest
  /-- It answers every lookup, whatever the files are, and the lookup changes nothing. -/
  cached : ∀ document, a.latest = some document → ∀ key,
    (f.provider.getRaw key).run a.state = ⟨.ok (lookupKey document key), [], a.state⟩
  /-- As long as no load succeeded, every lookup makes one. -/
  opened : a.latest = none → ∀ key,
    (f.provider.getRaw key).run a.state = f.freshly a.state fun document => lookupKey document key
  /-- Every reload makes one. -/
  reloaded : f.reload.run a.state = f.freshly a.state id
  /-- A lookup that succeeds answers from the latest load that succeeded, its own included. -/
  answered : ∀ key v, ((f.provider.getRaw key).run a.state).answer = .ok v →
    ∃ document, (a.next (.asked key : Happening f)).latest = some document ∧
      v = lookupKey document key
  /-- What others do to the files is not seen before a reload. -/
  kept : ∀ document, a.latest = some document → ∀ later : List (Happening f),
    .reloaded ∉ later → ∀ key, ((f.provider.getRaw key).run (a.after later).state).answer =
      .ok (lookupKey document key)
  /-- A load of a missing file gives a document without values, which hides a file that is made
  later. -/
  missing : readFile (f.files a.state) f.path = .ok none → ∀ h : Happening f, h.isLoad a = true →
    ∀ later : List (Happening f), .reloaded ∉ later → ∀ key,
      ((f.provider.getRaw key).run ((a.next h).after later).state).answer = .ok none

namespace Account.Sound

variable {a : Account σ} {document : Value}

theorem getRaw_run (hsound : a.Sound f) (hlatest : a.latest = some document) (key : String) :
    (f.provider.getRaw key).run a.state = ⟨.ok (lookupKey document key), [], a.state⟩ :=
  f.getRaw_served (hsound.trans hlatest) key

theorem latest_of_getRaw (hsound : a.Sound f) {key : String} {v : Option String}
    (hanswer : ((f.provider.getRaw key).run a.state).answer = .ok v) :
    ∃ document, (a.next (.asked key : Happening f)).latest = some document ∧
      v = lookupKey document key := by
  cases hlatest : a.latest with
  | some document =>
    rw [hsound.getRaw_run hlatest] at hanswer
    exact ⟨document, latest_next_asked_of_some hlatest key, (Except.ok.inj hanswer).symm⟩
  | none =>
    rw [latest_next_asked_of_none hlatest]
    rw [f.getRaw_fresh (hsound.trans hlatest), freshly] at hanswer
    cases hfound : f.found a.state with
    | error e =>
      rw [hfound] at hanswer
      cases hanswer
    | ok document =>
      rw [hfound] at hanswer
      exact ⟨document, rfl, (Except.ok.inj hanswer).symm⟩

theorem getRaw_after (hlawful : f.document.Lawful) (hsound : a.Sound f)
    (hlatest : a.latest = some document) (later : List (Happening f)) (hlater : .reloaded ∉ later)
    (key : String) :
    ((f.provider.getRaw key).run (a.after later).state).answer = .ok (lookupKey document key) := by
  rw [(hsound.after hlawful later).getRaw_run (latest_after later hlater hlatest)]

/-- The file that is missing counts as an empty document, also when it is there later. -/
theorem getRaw_after_missing (hlawful : f.document.Lawful) (hsound : a.Sound f)
    (hfile : readFile (f.files a.state) f.path = .ok none) {h : Happening f}
    (hload : h.isLoad a = true) (later : List (Happening f)) (hlater : .reloaded ∉ later)
    (key : String) :
    ((f.provider.getRaw key).run ((a.next h).after later).state).answer = .ok none := by
  have hfound : f.found a.state = .ok .null := by
    unfold found
    rw [hfile]
  have hlatest : (a.next h).latest = some .null := by
    rw [latest_next_of_isLoad hload, hfound]
    rfl
  rw [(hsound.next hlawful h).getRaw_after hlawful hlatest later hlater, lookupKey_null]

end Account.Sound

/-- After any history a provider of a file serves the document of the latest load that succeeded. -/
theorem serves_latest_load (hlawful : f.document.Lawful) {s : σ} (hempty : f.document.get s = none)
    (hs : List (Happening f)) : f.Serving (Account.after ⟨s, []⟩ hs) := by
  have hstart : Account.Sound f ⟨s, []⟩ := hempty
  have hsound := hstart.after hlawful hs
  exact
    { served := hsound
      cached := fun _ hlatest => hsound.getRaw_run hlatest
      opened := fun hlatest => f.getRaw_fresh (hsound.trans hlatest)
      reloaded := f.reload_run _
      answered := fun _ _ => hsound.latest_of_getRaw
      kept := fun _ => hsound.getRaw_after hlawful
      missing := fun hfile _ => hsound.getRaw_after_missing hlawful hfile }

theorem next_reloaded_of_ok {a : Account σ} {document : Value}
    (h : f.found a.state = .ok document) :
    a.next (.reloaded : Happening f) =
      ⟨f.document.set (some document) a.state, a.loads ++ [.ok document]⟩ := by
  show Account.mk (f.reload.run a.state).state (a.loads ++ [f.found a.state]) = _
  rw [reload_run, freshly, h]

theorem next_reloaded_of_error {a : Account σ} {e : ConfigError}
    (h : f.found a.state = .error e) :
    a.next (.reloaded : Happening f) = ⟨a.state, a.loads ++ [.error e]⟩ := by
  show Account.mk (f.reload.run a.state).state (a.loads ++ [f.found a.state]) = _
  rw [reload_run, freshly, h]

/-! ## A file that comes, changes and goes -/

/-- Files with the document that one provider serves. -/
structure Store where
  files : Directory
  served : Option Value

/-- A provider of a file in a store. -/
def ofStore (path : String) : FileSource Store :=
  ⟨path, Store.files, ⟨Store.served, fun document s => { s with served := document }⟩⟩

theorem ofStore_lawful (path : String) : (ofStore path).document.Lawful :=
  ⟨fun _ _ => rfl, fun _ _ _ => rfl⟩

/-- Someone writes a text to the file of the provider. -/
def written (path text : String) : Happening (ofStore path) :=
  .changed (fun s => { s with files := s.files.replace path (.file (.text text)) }) fun _ => rfl

/-- A file that is made after the first lookup is seen after a reload. When it is malformed later,
a further reload fails and the former document stays. -/
theorem made_file_is_seen_after_reload :
    let document := Value.object [("a", .string "1")]
    let made : List (Happening (ofStore "a.json")) :=
      [.asked "a", written "a.json" document.compact]
    let seen := made ++ [.reloaded]
    let broken := seen ++ [written "a.json" "[", .reloaded]
    let answer := fun hs =>
      (((ofStore "a.json").provider.getRaw "a").run
        (Account.after ⟨⟨[], none⟩, []⟩ hs).state).answer
    answer made = .ok none ∧ answer seen = .ok (some "1") ∧ answer broken = .ok (some "1") := by
  intro document made seen broken answer
  have hfound : ∀ text served, (ofStore "a.json").found
      ⟨[("a.json", .file (.text text))], served⟩ = parseDocument text := fun _ _ => rfl
  have hparse : parseDocument document.compact = .ok document := by
    unfold parseDocument
    have hfits : document.Fits Json.nestingLimit := ⟨by decide, trivial, trivial⟩
    rw [Json.parse_compact hfits]
    rfl
  obtain ⟨e, herror⟩ : ∃ e, parseDocument "[" = .error e := ⟨_, rfl⟩
  have hmade : Account.after ⟨⟨[], none⟩, []⟩ made =
      ⟨⟨[("a.json", .file (.text document.compact))], some .null⟩, [.ok .null]⟩ := rfl
  have hseen : Account.after ⟨⟨[], none⟩, []⟩ seen =
      ⟨⟨[("a.json", .file (.text document.compact))], some document⟩,
        [.ok .null, .ok document]⟩ := by
    show (Account.after _ made).next .reloaded = _
    rw [hmade, next_reloaded_of_ok ((hfound _ _).trans hparse)]
    rfl
  have hbroken : Account.after ⟨⟨[], none⟩, []⟩ broken =
      ⟨⟨[("a.json", .file (.text "["))], some document⟩,
        [.ok .null, .ok document, .error e]⟩ := by
    show ((Account.after _ seen).next (written "a.json" "[")).next .reloaded = _
    rw [hseen]
    exact next_reloaded_of_error ((hfound _ _).trans herror)
  have hserving := fun hs => serves_latest_load (ofStore_lawful "a.json") (s := ⟨[], none⟩) rfl hs
  refine ⟨?_, ?_, ?_⟩
  · exact congrArg Outcome.answer ((hserving made).cached .null (by rw [hmade]; rfl) "a")
  · exact congrArg Outcome.answer ((hserving seen).cached document (by rw [hseen]; rfl) "a")
  · exact congrArg Outcome.answer ((hserving broken).cached document (by rw [hbroken]; rfl) "a")

end FileSource

end AuthChain.Config

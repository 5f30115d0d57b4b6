import AuthChain.Config.Document
import AuthChain.Config.Load
import AuthChain.Json.Access
import AuthChain.Proofs.Json.Quotation
import AuthChain.Proofs.Json.RoundTrip

/-!
# Settings read back from their file

What a load finds in a file that holds the form of settings. Truth values and authorities travel as
JSON and are found again. The key and the principal travel as plain texts, and the typed access
takes such a text for JSON whenever it can: one that is the JSON form of a text is read a second
time.

Main statement: `loaded_from_file`.
-/

namespace AuthChain

open Json (Value Members)

namespace Config

/-! ## Values on their way -/

/-- What becomes of a text that is taken for JSON where it can be: the contents of the text whose
JSON form it is, or else the text itself. -/
def reread (text : String) : String :=
  match Json.parse text with
  | .ok (.string contents) => contents
  | _ => text

theorem reread_of_string {text contents : String} (h : Json.parse text = .ok (.string contents)) :
    reread text = contents := by
  simp only [reread, h]

theorem reread_of_ne {text : String} (h : ∀ contents, Json.parse text ≠ .ok (.string contents)) :
    reread text = text := by
  unfold reread
  split
  · next contents hparse => exact absurd hparse (h contents)
  · rfl

/-- No text is its own contents. -/
theorem reread_eq_self_iff (text : String) :
    reread text = text ↔ ∀ contents, Json.parse text ≠ .ok (.string contents) := by
  constructor
  · intro h contents hparse
    rw [reread_of_string hparse] at h
    have hlength := Json.length_of_parse_string hparse
    rw [h] at hlength
    exact Nat.lt_irrefl _ hlength
  · exact reread_of_ne

theorem reread_compact (contents : String) : reread (Value.string contents).compact = contents :=
  reread_of_string (Json.parse_compact trivial)

theorem interpret_text (key raw : String) : interpret .text key raw = .ok (reread raw) := by
  cases hparse : Json.parse raw with
  | error failure => simp [interpret, reread, hparse, Json.Decoder.text, invalid, Except.toOption]
  | ok v =>
    cases v <;> simp [interpret, reread, hparse, Json.Decoder.text, invalid, Except.toOption]

theorem interpret_compact {α : Type} {decoder : Json.Decoder α} {v : Value} {a : α}
    (key : String) (hv : v.Fits Json.nestingLimit) (hdecode : decoder v.canonical = .ok a) :
    interpret decoder key v.compact = .ok a := by
  simp [interpret, Json.parse_compact hv, hdecode, Except.toOption]

theorem canonical_texts (xs : List String) : (Value.texts xs).canonical = Value.texts xs := by
  rw [Value.texts, Value.canonical, Json.canonicalItems_eq_map, List.map_map]
  rfl

theorem fits_texts (xs : List String) {d : Nat} (hd : 0 < d) : (Value.texts xs).Fits d := by
  refine ⟨hd, (Json.itemsFit_iff _ _).2 ?_⟩
  intro v hv
  obtain ⟨x, -, rfl⟩ := List.mem_map.1 hv
  trivial

theorem list_text_texts (xs : List String) : Json.Decoder.list .text (Value.texts xs) = .ok xs := by
  show (xs.map Value.string).mapM Json.Decoder.text = .ok xs
  induction xs with
  | nil => rfl
  | cons x rest ih =>
    rw [List.map_cons, List.mapM_cons, ih]
    rfl

/-- The form of authorities is read as JSON and not cut at its commas. -/
theorem interpretList_texts (key : String) (xs : List String) :
    interpretList key (Value.texts xs).compact = .ok xs := by
  have hbracket : (Text.dropBlanks (Value.texts xs).compact.toList).head? = some '[' := by
    simp only [Value.compact, String.toList_ofList, Value.texts, Json.print]
    rfl
  rw [interpretList, if_pos hbracket]
  apply interpret_compact
  · exact fits_texts xs (by decide)
  · rw [canonical_texts]
    exact list_text_texts xs

/-! ## The document of a file -/

/-- The text of a file is a document whose member `security` is the form of the settings. -/
def Stores (text : String) (s : SecuritySettings) : Prop :=
  ∃ document, Json.parse text = .ok document ∧
    document.member? "security" = some s.toJson.canonical

/-- The compact text of a document stores the settings whose form is the last of its members with
this name. -/
theorem stores_compact {ms : Members} {s : SecuritySettings}
    (hfits : (Value.object ms).Fits Json.nestingLimit)
    (hlast : ms.reverse.lookup "security" = some s.toJson) :
    Stores (Value.object ms).compact s := by
  refine ⟨(Value.object ms).canonical, Json.parse_compact hfits, ?_⟩
  rw [Json.member?_canonical, hlast]
  rfl

theorem lookupKey_eq {document form v : Value} {key : String} {names : List String}
    (hkey : keyNames key = "security" :: names)
    (hform : document.member? "security" = some form) (hv : memberAt names form = some v) :
    lookupKey document key = rawValue v := by
  rw [lookupKey, hkey, memberAt, hform]
  simp [hv]

/-- The raw values for the five keys of a document that has the form of the settings. -/
structure Serves (document : Value) (s : SecuritySettings) : Prop where
  erase : lookupKey document eraseCredentialsKey = some (Value.bool s.eraseCredentials).compact
  allow : lookupKey document allowSameKindKey =
    some (Value.bool s.allowSameKindConfigurers).compact
  key : lookupKey document anonymousKeyKey = some s.anonymous.key
  principal : lookupKey document anonymousPrincipalKey = some s.anonymous.principal
  authorities : lookupKey document anonymousAuthoritiesKey =
    some (Value.texts s.anonymous.authorities).compact

theorem serves_of_form {document : Value} {s : SecuritySettings}
    (hform : document.member? "security" = some s.toJson.canonical) : Serves document s where
  erase := lookupKey_eq (v := .bool s.eraseCredentials)
    (by decide : _ = ["security", "erase_credentials"]) hform rfl
  allow := lookupKey_eq (v := .bool s.allowSameKindConfigurers)
    (by decide : _ = ["security", "allow_same_kind_configurers"]) hform rfl
  key := lookupKey_eq (v := .string s.anonymous.key)
    (by decide : _ = ["security", "anonymous", "key"]) hform rfl
  principal := lookupKey_eq (v := .string s.anonymous.principal)
    (by decide : _ = ["security", "anonymous", "principal"]) hform rfl
  authorities := by
    have hlookup := lookupKey_eq (v := (Value.texts s.anonymous.authorities).canonical)
      (by decide : keyNames anonymousAuthoritiesKey = ["security", "anonymous", "authorities"])
      hform rfl
    rwa [canonical_texts] at hlookup

/-! ## Readings -/

section Readings

variable {σ α β : Type} {f : FileSource σ} {document : Value} {st st' : σ}

theorem run_bind_ok {m : Reading σ α} {k : α → Reading σ β} {a : α}
    (h : (m.run st).answer = .ok a) :
    (m >>= k).run st =
      ⟨((k a).run (m.run st).state).answer,
        (m.run st).events ++ ((k a).run (m.run st).state).events,
        ((k a).run (m.run st).state).state⟩ := by
  rw [ExceptT.run_bind, Act.bind_apply, h]

theorem run_bind_error {m : Reading σ α} {k : α → Reading σ β} {e : ConfigError}
    (h : (m.run st).answer = .error e) :
    (m >>= k).run st = ⟨.error e, (m.run st).events, (m.run st).state⟩ := by
  rw [ExceptT.run_bind, Act.bind_apply, h]
  show Outcome.mk _ ((m.run st).events ++ []) _ = _
  rw [List.append_nil]
  rfl

theorem run_bind_of {m : Reading σ α} {k : α → Reading σ β} {a : α}
    (h : m.run st = ⟨.ok a, [], st'⟩) : (m >>= k).run st = (k a).run st' := by
  rw [ExceptT.run_bind, Act.bind_apply, h]
  rfl

/-- A document that is served already is served again. -/
theorem current_served (h : f.document.get st = some document) :
    f.current.run st = ⟨.ok document, [], st⟩ := by
  have hasked : (Reading.ofAct (Act.gets f.document.get)).run st =
      ⟨.ok (some document), [], st⟩ := by
    rw [← h]
    rfl
  rw [FileSource.current, run_bind_of hasked]
  rfl

/-- The first lookup reads the file. -/
theorem current_fresh {text : String} (hfresh : f.document.get st = none)
    (hfile : readFile (f.files st) f.path = .ok (some text))
    (hparse : Json.parse text = .ok document) :
    f.current.run st = ⟨.ok document, [], f.document.set (some document) st⟩ := by
  have hstate : (Reading.ofAct Act.get).run st = ⟨.ok st, [], st⟩ := rfl
  have hload : f.load.run st = ⟨.ok document, [], st⟩ := by
    rw [FileSource.load, run_bind_of hstate]
    simp only [hfile, FileSource.parseDocument, hparse]
    rfl
  have hasked : (Reading.ofAct (Act.gets f.document.get)).run st = ⟨.ok none, [], st⟩ := by
    rw [← hfresh]
    rfl
  rw [FileSource.current, run_bind_of hasked]
  show f.reload.run st = _
  rw [FileSource.reload, run_bind_of hload]
  rfl

theorem getRaw_run {key raw : String} (hcurrent : f.current.run st = ⟨.ok document, [], st'⟩)
    (hraw : lookupKey document key = some raw) :
    (f.provider.getRaw key).run st = ⟨.ok (some raw), [], st'⟩ := by
  rw [← hraw, FileSource.provider, run_bind_of hcurrent]
  rfl

theorem get_run {decoder : Json.Decoder α} {key raw : String} {a : α}
    (hcurrent : f.current.run st = ⟨.ok document, [], st'⟩)
    (hraw : lookupKey document key = some raw) (hread : interpret decoder key raw = .ok a) :
    (f.provider.get decoder key).run st = ⟨.ok (some a), [], st'⟩ := by
  rw [Provider.get, run_bind_of (getRaw_run hcurrent hraw)]
  simp only [hread]
  rfl

theorem getList_run {key raw : String} {xs : List String}
    (hcurrent : f.current.run st = ⟨.ok document, [], st'⟩)
    (hraw : lookupKey document key = some raw) (hread : interpretList key raw = .ok xs) :
    (f.provider.getList key).run st = ⟨.ok (some xs), [], st'⟩ := by
  rw [Provider.getList, run_bind_of (getRaw_run hcurrent hraw)]
  simp only [hread]
  rfl

end Readings

end Config

/-- The settings with what becomes of their key and principal on the way through a file. -/
def SecuritySettings.reread (s : SecuritySettings) : SecuritySettings :=
  { s with anonymous :=
      { s.anonymous with
        key := Config.reread s.anonymous.key
        principal := Config.reread s.anonymous.principal } }

namespace Config

section Loading

variable {σ : Type} {f : FileSource σ} {st : σ} {document : Value} {text : String}
  {s : SecuritySettings}

/-- A load reads the file at the first key and takes the other keys from the same document. -/
theorem loadSettings_run (freshKey : String) (hlawful : f.document.Lawful)
    (hfresh : f.document.get st = none) (hfile : readFile (f.files st) f.path = .ok (some text))
    (hparse : Json.parse text = .ok document) (hserves : Serves document s) :
    (loadSettings freshKey f.provider).run st =
      ⟨(validate s.reread).map fun _ => s.reread,
        if (validate s.reread).isOk then [.loaded "file" s.reread] else [],
        f.document.set (some document) st⟩ := by
  have hbool : ∀ key b, interpret .bool key (Value.bool b).compact = .ok b :=
    fun key b => interpret_compact key trivial rfl
  -- the first key reads the file, the other four find its document served
  have hfirst := current_fresh hfresh hfile hparse
  have hserved := current_served (hlawful.get_set (some document) st)
  rw [loadSettings, run_bind_of (get_run hfirst hserves.erase (hbool _ _)),
    run_bind_of (get_run hserved hserves.allow (hbool _ _)),
    run_bind_of (get_run hserved hserves.key (interpret_text _ _)),
    run_bind_of (get_run hserved hserves.principal (interpret_text _ _)),
    run_bind_of (getList_run hserved hserves.authorities (interpretList_texts _ _))]
  show (do
    Reading.ofExcept (validate s.reread)
    Reading.ofAct (Act.emit (.loaded "file" s.reread))
    return s.reread : Reading σ SecuritySettings).run _ = _
  cases validate s.reread <;> rfl

theorem reread_eq_self (s : SecuritySettings) :
    s.reread = s ↔
      reread s.anonymous.key = s.anonymous.key ∧
        reread s.anonymous.principal = s.anonymous.principal := by
  obtain ⟨erase, allow, key, principal, authorities⟩ := s
  simp [SecuritySettings.reread]

/-- A load of a file that holds the form of usable settings gives them with their key and principal
read once more as JSON, provided that these are still no blanks. So it gives the settings themselves
exactly when neither the key nor the principal is the JSON form of a text. -/
theorem loaded_from_file (freshKey : String) (hlawful : f.document.Lawful)
    (hfresh : f.document.get st = none) (hfile : readFile (f.files st) f.path = .ok (some text))
    (hstores : Stores text s) (hvalid : validate s = .ok ()) :
    ((loadSettings freshKey f.provider).run st).answer =
        ((validate s.reread).map fun _ => s.reread) ∧
      (((loadSettings freshKey f.provider).run st).answer = .ok s ↔
        (∀ contents, Json.parse s.anonymous.key ≠ .ok (.string contents)) ∧
          ∀ contents, Json.parse s.anonymous.principal ≠ .ok (.string contents)) := by
  obtain ⟨document, hparse, hform⟩ := hstores
  have hanswer : ((loadSettings freshKey f.provider).run st).answer =
      (validate s.reread).map fun _ => s.reread := by
    rw [loadSettings_run freshKey hlawful hfresh hfile hparse (serves_of_form hform)]
  refine ⟨hanswer, ?_⟩
  rw [hanswer, ← reread_eq_self_iff, ← reread_eq_self_iff, ← reread_eq_self]
  constructor
  · -- an answer is always the settings as they are read again
    intro h
    cases hagain : validate s.reread with
    | error e =>
      rw [hagain] at h
      cases h
    | ok u =>
      rw [hagain] at h
      injection h
  · intro h
    rw [h, hvalid]
    rfl

end Loading

/-! ## A key with quotation marks -/

/-- A document whose only member is the form of the settings. -/
def settingsDocument (s : SecuritySettings) : Value :=
  .object [("security", s.toJson)]

theorem fits_settingsDocument (s : SecuritySettings) :
    (settingsDocument s).Fits Json.nestingLimit := by
  have hauthorities := fits_texts s.anonymous.authorities (d := Json.nestingLimit - 3) (by decide)
  exact ⟨by decide, ⟨by decide, trivial, trivial,
    ⟨by decide, trivial, trivial, hauthorities, trivial⟩, trivial⟩, trivial⟩

/-- A file of settings and of nothing else. -/
def settingsFile (s : SecuritySettings) : FileSource (Option Value) :=
  ⟨"settings.json",
    fun _ => [("settings.json", .file (.text (settingsDocument s).compact))], .whole⟩

/-- Settings whose key begins and ends with a quotation mark. -/
def quotedSettings : SecuritySettings :=
  ⟨true, false, ⟨"\"x\"", "guest", ["ROLE_GUEST"]⟩⟩

theorem quotation_marks_are_lost :
    validate quotedSettings = .ok () ∧
      ((loadSettings "fresh" (settingsFile quotedSettings).provider).run none).answer =
        .ok ⟨true, false, ⟨"x", "guest", ["ROLE_GUEST"]⟩⟩ ∧
      ((loadSettings "fresh" (settingsFile quotedSettings).provider).run none).answer ≠
        .ok quotedSettings := by
  have hvalid : validate quotedSettings = .ok () := rfl
  have hkey : reread "\"x\"" = "x" := reread_compact "x"
  have hprincipal : reread "guest" = "guest" := rfl
  have hreread : quotedSettings.reread = ⟨true, false, ⟨"x", "guest", ["ROLE_GUEST"]⟩⟩ := by
    simp [SecuritySettings.reread, quotedSettings, hkey, hprincipal]
  have hfresh : (settingsFile quotedSettings).document.get none = none := rfl
  have hfile : readFile ((settingsFile quotedSettings).files none) "settings.json" =
      .ok (some (settingsDocument quotedSettings).compact) := rfl
  obtain ⟨hanswer, -⟩ := loaded_from_file "fresh" Cell.whole_lawful hfresh hfile
    (stores_compact (fits_settingsDocument quotedSettings) rfl) hvalid
  rw [hreread] at hanswer
  refine ⟨hvalid, hanswer, ?_⟩
  rw [hanswer]
  intro h
  injection h with h
  exact absurd h (by decide)

end Config

end AuthChain

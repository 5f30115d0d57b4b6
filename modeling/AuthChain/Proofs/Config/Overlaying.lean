import AuthChain.Context
import AuthChain.Json.Access
import AuthChain.Proofs.Config.Reloading
import AuthChain.Proofs.Text.Pieces

/-!
# Settings as an overlay over the standard ones

Each of the five settings has a key, an account of what raw texts stand for, and a standard value.
The answers that a provider gives for the five keys decide everything: the settings that they lay
over the standard ones (`Overlays`), and what is wrong with them, in order (`Answers.faults`).

Main statement: a load from any provider gives the overlay when it is usable, and otherwise the first
fault; loaded settings are valid and give an empty context an anonymous token with a name and an
authority (`loaded_settings_are_overlay`).
-/

namespace AuthChain.Config

open Json (Value)
open Auth (Authentication AuthenticationToken OfToken)

/-! ## What raw texts stand for -/

/-- The truth value that a raw text is the JSON text of. -/
def flag? (raw : String) : Option Bool :=
  match Json.parse raw with
  | .ok (.bool b) => some b
  | _ => none

/-- The texts of an array of texts. -/
def textsOf? : Value → Option (List String)
  | .array items => items.mapM Value.text?
  | _ => none

/-- The list that a raw text stands for: behind an opening bracket it has to be the JSON text of an
array of texts, and otherwise it is cut at its commas. -/
def list? (raw : String) : Option (List String) :=
  if (Text.dropBlanks raw.toList).head? = some '[' then
    match Json.parse raw with
    | .ok v => textsOf? v
    | .error _ => none
  else some (commaList raw)

/-- What a provider answers for a key. -/
abbrev RawAnswer := Except ConfigError (Option String)

/-- A setting by the key under which it is asked for, what is expected there, the value that a raw
text stands for, and the value that it has without one. -/
structure Setting (α : Type) where
  key : String
  expected : Json.Expected
  read : String → Option α
  standard : α

namespace Setting

variable {α : Type}

/-- The error of a raw text that stands for no value. -/
def unreadable (x : Setting α) (raw : String) : ConfigError :=
  .invalidValue x.key (.mismatch (.shape (.string raw) x.expected))

/-- An answer gives a value: the one that the raw text stands for, or the standard one without a raw
text. -/
inductive Gives (x : Setting α) : RawAnswer → α → Prop
  | standard : x.Gives (.ok none) x.standard
  | present {raw : String} {a : α} (h : x.read raw = some a) : x.Gives (.ok (some raw)) a

/-- What is wrong with an answer: the error of the provider, or a raw text that stands for no
value. -/
def fault? (x : Setting α) : RawAnswer → Option ConfigError
  | .error e => some e
  | .ok none => none
  | .ok (some raw) => if (x.read raw).isSome then none else some (x.unreadable raw)

/-- The value of an answer with nothing wrong about it. -/
def value (x : Setting α) : RawAnswer → α
  | .ok (some raw) => (x.read raw).getD x.standard
  | _ => x.standard

theorem gives_iff (x : Setting α) (answer : RawAnswer) (a : α) :
    x.Gives answer a ↔ x.fault? answer = none ∧ a = x.value answer := by
  constructor
  · intro h
    cases h with
    | standard => exact ⟨rfl, rfl⟩
    | present hread => simp [fault?, value, hread]
  · rintro ⟨hfault, rfl⟩
    match answer with
    | .error e => exact nomatch hfault
    | .ok none => exact .standard
    | .ok (some raw) =>
      cases hread : x.read raw with
      | none => simp [fault?, hread] at hfault
      | some a =>
        rw [value, hread]
        exact .present hread

/-- A raw text is interpreted as the setting has it. -/
def Interprets (x : Setting α) (f : String → Except ConfigError α) : Prop :=
  ∀ raw, f raw = match x.read raw with
    | some a => .ok a
    | none => .error (x.unreadable raw)

end Setting

/-! ## The five settings -/

def eraseSetting : Setting Bool :=
  ⟨eraseCredentialsKey, .boolean, flag?, true⟩

def allowSetting : Setting Bool :=
  ⟨allowSameKindKey, .boolean, flag?, false⟩

/-- The key of anonymous tokens; a fresh one without a choice. -/
def keySetting (freshKey : String) : Setting String :=
  ⟨anonymousKeyKey, .text, fun raw => some (reread raw), freshKey⟩

def principalSetting : Setting String :=
  ⟨anonymousPrincipalKey, .text, fun raw => some (reread raw), "anonymousUser"⟩

def authoritiesSetting : Setting (List String) :=
  ⟨anonymousAuthoritiesKey, .sequence, list?, ["ROLE_ANONYMOUS"]⟩

/-- What a provider answers for the five keys, asked in order. -/
structure Answers where
  erase : RawAnswer
  allow : RawAnswer
  key : RawAnswer
  principal : RawAnswer
  authorities : RawAnswer

/-- The settings that answers lay over the standard ones. -/
structure Overlays (freshKey : String) (a : Answers) (s : SecuritySettings) : Prop where
  erase : eraseSetting.Gives a.erase s.eraseCredentials
  allow : allowSetting.Gives a.allow s.allowSameKindConfigurers
  key : (keySetting freshKey).Gives a.key s.anonymous.key
  principal : principalSetting.Gives a.principal s.anonymous.principal
  authorities : authoritiesSetting.Gives a.authorities s.anonymous.authorities

/-- The key and the principal are no blanks and there is an authority. -/
structure Usable (s : SecuritySettings) : Prop where
  key : Text.trim s.anonymous.key ≠ ""
  principal : Text.trim s.anonymous.principal ≠ ""
  authorities : s.anonymous.authorities ≠ []

/-- What is wrong with settings, in the order in which it is told. -/
def usabilityFaults (s : SecuritySettings) : List (Option ConfigError) := [
  if Text.trim s.anonymous.key = "" then some (.invalidValue anonymousKeyKey .blank) else none,
  if Text.trim s.anonymous.principal = "" then some (.invalidValue anonymousPrincipalKey .blank)
  else none,
  if s.anonymous.authorities = [] then some (.invalidValue anonymousAuthoritiesKey .noAuthority)
  else none]

namespace Answers

/-- The settings that answers with nothing wrong about them give. -/
def settings (a : Answers) (freshKey : String) : SecuritySettings where
  eraseCredentials := eraseSetting.value a.erase
  allowSameKindConfigurers := allowSetting.value a.allow
  anonymous :=
    { key := (keySetting freshKey).value a.key
      principal := principalSetting.value a.principal
      authorities := authoritiesSetting.value a.authorities }

/-- What is wrong with answers, in the order of the keys. -/
def keyFaults (a : Answers) (freshKey : String) : List (Option ConfigError) :=
  [eraseSetting.fault? a.erase, allowSetting.fault? a.allow, (keySetting freshKey).fault? a.key,
    principalSetting.fault? a.principal, authoritiesSetting.fault? a.authorities]

/-- All faults in order: those of the answers, and behind them those of the settings that they
give. -/
def faults (a : Answers) (freshKey : String) : List (Option ConfigError) :=
  a.keyFaults freshKey ++ usabilityFaults (a.settings freshKey)

theorem overlays_iff (a : Answers) (freshKey : String) (s : SecuritySettings) :
    Overlays freshKey a s ↔
      (a.keyFaults freshKey).findSome? id = none ∧ s = a.settings freshKey := by
  have hsplit : Overlays freshKey a s ↔
      eraseSetting.Gives a.erase s.eraseCredentials ∧
      allowSetting.Gives a.allow s.allowSameKindConfigurers ∧
      (keySetting freshKey).Gives a.key s.anonymous.key ∧
      principalSetting.Gives a.principal s.anonymous.principal ∧
      authoritiesSetting.Gives a.authorities s.anonymous.authorities :=
    ⟨fun h => ⟨h.erase, h.allow, h.key, h.principal, h.authorities⟩,
      fun ⟨h₁, h₂, h₃, h₄, h₅⟩ => ⟨h₁, h₂, h₃, h₄, h₅⟩⟩
  obtain ⟨erase, allow, key, principal, authorities⟩ := s
  simp only [hsplit, Setting.gives_iff, keyFaults, settings, List.findSome?_eq_none_iff,
    List.mem_cons, List.not_mem_nil, or_false, id, forall_eq_or_imp, forall_eq,
    SecuritySettings.mk.injEq, AnonymousSettings.mk.injEq]
  constructor
  · rintro ⟨⟨h₁, v₁⟩, ⟨h₂, v₂⟩, ⟨h₃, v₃⟩, ⟨h₄, v₄⟩, h₅, v₅⟩
    exact ⟨⟨h₁, h₂, h₃, h₄, h₅⟩, v₁, v₂, v₃, v₄, v₅⟩
  · rintro ⟨⟨h₁, h₂, h₃, h₄, h₅⟩, v₁, v₂, v₃, v₄, v₅⟩
    exact ⟨⟨h₁, v₁⟩, ⟨h₂, v₂⟩, ⟨h₃, v₃⟩, ⟨h₄, v₄⟩, h₅, v₅⟩

end Answers

/-! ## Validation -/

/-- The first of several possible faults, or the result when there is none. -/
def orFault {β : Type} (faults : List (Option ConfigError)) (result : β) : Except ConfigError β :=
  match faults.findSome? id with
  | some e => .error e
  | none => .ok result

section Faults

variable {β : Type} {faults : List (Option ConfigError)} {result b : β} {e : ConfigError}

theorem orFault_eq_ok_iff :
    orFault faults result = .ok b ↔ faults.findSome? id = none ∧ b = result := by
  rw [orFault]
  cases faults.findSome? id with
  | none => simp [eq_comm]
  | some e => simp

theorem orFault_eq_error_iff : orFault faults result = .error e ↔ faults.findSome? id = some e := by
  rw [orFault]
  cases faults.findSome? id <;> simp

end Faults

theorem usable_iff (s : SecuritySettings) :
    Usable s ↔ (usabilityFaults s).findSome? id = none := by
  have hsplit : Usable s ↔ Text.trim s.anonymous.key ≠ "" ∧ Text.trim s.anonymous.principal ≠ "" ∧
      s.anonymous.authorities ≠ [] :=
    ⟨fun h => ⟨h.key, h.principal, h.authorities⟩, fun ⟨h₁, h₂, h₃⟩ => ⟨h₁, h₂, h₃⟩⟩
  simp [hsplit, usabilityFaults]

theorem validate_eq (s : SecuritySettings) : validate s = orFault (usabilityFaults s) () := by
  unfold validate SecuritySettings.fault? usabilityFaults
  by_cases hkey : Text.trim s.anonymous.key = ""
  · rw [if_pos ((Text.isBlankText_iff _).2 hkey), if_pos hkey]
    rfl
  · rw [if_neg fun h => hkey ((Text.isBlankText_iff _).1 h), if_neg hkey]
    by_cases hprincipal : Text.trim s.anonymous.principal = ""
    · rw [if_pos ((Text.isBlankText_iff _).2 hprincipal), if_pos hprincipal]
      rfl
    · rw [if_neg fun h => hprincipal ((Text.isBlankText_iff _).1 h), if_neg hprincipal]
      cases s.anonymous.authorities <;> rfl

theorem validate_eq_ok_iff (s : SecuritySettings) : validate s = .ok () ↔ Usable s := by
  rw [usable_iff, validate_eq, orFault_eq_ok_iff]
  exact and_iff_left rfl

/-! ## Raw texts as they are interpreted -/

theorem interprets_flag {x : Setting Bool} (hread : x.read = flag?)
    (hexpected : x.expected = .boolean) : x.Interprets (interpret .bool x.key) := by
  intro raw
  rw [hread, Setting.unreadable, hexpected]
  unfold flag? interpret
  cases Json.parse raw with
  | error f => rfl
  | ok v => cases v <;> rfl

theorem interprets_text {x : Setting String} (hread : x.read = fun raw => some (reread raw)) :
    x.Interprets (interpret .text x.key) := by
  intro raw
  rw [hread, interpret_text]

theorem toOption_list_text (v : Value) : (Json.Decoder.list .text v).toOption = textsOf? v := by
  cases v with
  | array items =>
    show (items.mapM Json.Decoder.text).toOption = items.mapM Value.text?
    induction items with
    | nil => rfl
    | cons item rest ih =>
      rw [List.mapM_cons, List.mapM_cons, ← ih]
      cases item with
      | string s => cases rest.mapM Json.Decoder.text <;> rfl
      | _ => rfl
  | _ => rfl

theorem interprets_list {x : Setting (List String)} (hread : x.read = list?)
    (hexpected : x.expected = .sequence) : x.Interprets (interpretList x.key) := by
  intro raw
  rw [hread, Setting.unreadable, hexpected]
  unfold interpretList list?
  split
  · unfold interpret
    cases Json.parse raw with
    | error f => rfl
    | ok v =>
      simp only [Except.toOption, Option.bind_some]
      rw [← toOption_list_text]
      cases Json.Decoder.list .text v <;> rfl
  · rfl

/-! ## Settings as they are asked for -/

section Asking

variable {σ α : Type}

/-- The value of a key, read from its raw text if there is one. -/
def asking (p : Provider σ) (key : String) (f : String → Except ConfigError α) :
    Reading σ (Option α) := do
  match ← p.getRaw key with
  | none => return none
  | some raw => some <$> Reading.ofExcept (f raw)

theorem asking_answer {p : Provider σ} {key raw : String} {s : σ}
    (h : ((p.getRaw key).run s).answer = .ok (some raw)) (f : String → Except ConfigError α) :
    ((asking p key f).run s).answer = (f raw).map some := by
  rw [asking, run_bind_ok h]
  dsimp only
  cases f raw <;> rfl

/-- What comes of an answer: the error that it is at fault with, or the value of its raw text. -/
def Setting.settle (x : Setting α) : RawAnswer → Except ConfigError (Option α)
  | .error e => .error e
  | .ok none => .ok none
  | .ok (some raw) =>
    match x.read raw with
    | some a => .ok (some a)
    | none => .error (x.unreadable raw)

theorem asking_run {x : Setting α} {f : String → Except ConfigError α} (hf : x.Interprets f)
    (p : Provider σ) (s : σ) :
    (asking p x.key f).run s =
      ⟨x.settle ((p.getRaw x.key).run s).answer, ((p.getRaw x.key).run s).events,
        ((p.getRaw x.key).run s).state⟩ := by
  unfold asking
  cases hanswer : ((p.getRaw x.key).run s).answer with
  | error e =>
    rw [run_bind_error hanswer]
    rfl
  | ok found =>
    rw [run_bind_ok hanswer]
    -- reading the raw text leaves no event and no other state
    have hread : ∀ s', ExceptT.run (m := Act Event σ) (match found with
        | none => return none
        | some raw => some <$> Reading.ofExcept (f raw)) s' = ⟨x.settle (.ok found), [], s'⟩ := by
      intro s'
      cases found with
      | none => rfl
      | some raw =>
        simp only [Setting.settle, hf raw]
        cases x.read raw <;> rfl
    rw [hread, List.append_nil]

/-- Asking for a setting is at fault, or goes on with its value. -/
theorem bind_asking {β : Type} {x : Setting α} {f : String → Except ConfigError α}
    (hf : x.Interprets f) {p : Provider σ} {s : σ} {k : Option α → Reading σ β}
    {faults : List (Option ConfigError)} {result : β}
    (later : ∀ found, x.value ((p.getRaw x.key).run s).answer = found.getD x.standard →
      ((k found).run ((p.getRaw x.key).run s).state).answer = orFault faults result) :
    ((asking p x.key f >>= k).run s).answer =
      orFault (x.fault? ((p.getRaw x.key).run s).answer :: faults) result := by
  have hasked := asking_run hf p s
  revert hasked later
  cases ((p.getRaw x.key).run s).answer with
  | error e =>
    intro _ hasked
    rw [run_bind_error (congrArg Outcome.answer hasked)]
    rfl
  | ok found =>
    cases found with
    | none =>
      intro later hasked
      rw [run_bind_ok (congrArg Outcome.answer hasked), hasked]
      exact later none rfl
    | some raw =>
      intro later hasked
      cases hread : x.read raw with
      | none =>
        simp only [Setting.settle, hread] at hasked
        rw [run_bind_error (congrArg Outcome.answer hasked)]
        simp [Setting.fault?, hread, orFault]
      | some a =>
        simp only [Setting.settle, hread] at hasked
        rw [run_bind_ok (congrArg Outcome.answer hasked), hasked]
        have hlater := later (some a) (by simp [Setting.value, hread])
        simpa [Setting.fault?, hread, orFault] using hlater

end Asking

/-! ## Loads -/

section Loading

variable {σ : Type}

/-- The answers of a provider for the five keys, each in the state that the one before left. -/
def Provider.survey (p : Provider σ) (s : σ) : Answers :=
  let erase := (p.getRaw eraseCredentialsKey).run s
  let allow := (p.getRaw allowSameKindKey).run erase.state
  let key := (p.getRaw anonymousKeyKey).run allow.state
  let principal := (p.getRaw anonymousPrincipalKey).run key.state
  let authorities := (p.getRaw anonymousAuthoritiesKey).run principal.state
  ⟨erase.answer, allow.answer, key.answer, principal.answer, authorities.answer⟩

/-- Settings that are validated and then reported are at fault, or the answer. -/
theorem validated_answer (settings : SecuritySettings) (e : Event) (s : σ) :
    ((do
      Reading.ofExcept (validate settings)
      Reading.ofAct (Act.emit e)
      return settings : Reading σ SecuritySettings).run s).answer =
      orFault (usabilityFaults settings) settings := by
  rw [validate_eq, orFault, orFault]
  cases (usabilityFaults settings).findSome? id <;> rfl

/-- A load ends with the first fault, or with the settings of the answers when there is none. -/
theorem loadSettings_answer (freshKey : String) (p : Provider σ) (s : σ) :
    ((loadSettings freshKey p).run s).answer =
      orFault ((p.survey s).faults freshKey) ((p.survey s).settings freshKey) := by
  have herase : eraseSetting.Interprets (interpret .bool eraseSetting.key) :=
    interprets_flag rfl rfl
  have hallow : allowSetting.Interprets (interpret .bool allowSetting.key) :=
    interprets_flag rfl rfl
  have hkey : (keySetting freshKey).Interprets (interpret .text (keySetting freshKey).key) :=
    interprets_text rfl
  have hprincipal : principalSetting.Interprets (interpret .text principalSetting.key) :=
    interprets_text rfl
  have hauthorities :
      authoritiesSetting.Interprets (interpretList authoritiesSetting.key) :=
    interprets_list rfl rfl
  -- the keys are asked for one after the other, and what follows is the validation
  refine bind_asking herase fun erase v₁ => ?_
  refine bind_asking hallow fun allow v₂ => ?_
  refine bind_asking hkey fun key v₃ => ?_
  refine bind_asking hprincipal fun principal v₄ => ?_
  refine bind_asking hauthorities fun authorities v₅ => ?_
  have herased : eraseSetting.value (p.survey s).erase = erase.getD true := v₁
  have hallowed : allowSetting.value (p.survey s).allow = allow.getD false := v₂
  have hkeyed : (keySetting freshKey).value (p.survey s).key = key.getD freshKey := v₃
  have hnamed : principalSetting.value (p.survey s).principal = principal.getD "anonymousUser" := v₄
  have hgranted : authoritiesSetting.value (p.survey s).authorities =
      authorities.getD ["ROLE_ANONYMOUS"] := v₅
  rw [Answers.settings, herased, hallowed, hkeyed, hnamed, hgranted]
  exact validated_answer _ _ _

/-- What a load comes to. -/
structure LoadsOverlay (freshKey : String) (p : Provider σ) (s : σ) : Prop where
  /-- It succeeds with the settings that the answers lay over the standard ones, if they are
  usable. -/
  loaded : ∀ settings, ((loadSettings freshKey p).run s).answer = .ok settings ↔
    Overlays freshKey (p.survey s) settings ∧ Usable settings
  /-- It fails with what is wrong about the first faulty key, and with what makes the settings
  unusable only when no key is at fault. -/
  failed : ∀ e, ((loadSettings freshKey p).run s).answer = .error e ↔
    ((p.survey s).keyFaults freshKey).findSome? id = some e ∨
    ∃ settings, Overlays freshKey (p.survey s) settings ∧
      (usabilityFaults settings).findSome? id = some e
  /-- Loaded settings are valid. -/
  valid : ∀ settings, ((loadSettings freshKey p).run s).answer = .ok settings →
    validate settings = .ok ()
  /-- With loaded settings an empty context gets an anonymous token with a name and an authority. -/
  anonymous : ∀ settings, ((loadSettings freshKey p).run s).answer = .ok settings →
    ∀ (α τ : Type) [OfToken AuthenticationToken α] (st : τ), ∃ token : AuthenticationToken,
      ((SecurityContext.empty.orAnonymous settings.anonymous : Act _ τ (SecurityContext α))
        st).answer.authentication = some (OfToken.ofToken token) ∧
      token.kind = .anonymous ∧ Text.trim (Authentication.name token) ≠ "" ∧
      Authentication.authorities token ≠ []

/-- A load from any provider lays its answers over the standard settings and validates the result;
of several faults it tells the first. -/
theorem loaded_settings_are_overlay (freshKey : String) (p : Provider σ) (s : σ) :
    LoadsOverlay freshKey p s := by
  have hanswer := loadSettings_answer freshKey p s
  have hloaded : ∀ settings, ((loadSettings freshKey p).run s).answer = .ok settings ↔
      Overlays freshKey (p.survey s) settings ∧ Usable settings := by
    intro settings
    rw [hanswer, orFault_eq_ok_iff, Answers.faults, List.findSome?_append, Option.or_eq_none_iff,
      ← usable_iff, Answers.overlays_iff]
    constructor
    · rintro ⟨⟨hkeys, husable⟩, rfl⟩
      exact ⟨⟨hkeys, rfl⟩, husable⟩
    · rintro ⟨⟨hkeys, rfl⟩, husable⟩
      exact ⟨⟨hkeys, husable⟩, rfl⟩
  refine
    { loaded := hloaded
      failed := fun e => ?_
      valid := fun settings h => (validate_eq_ok_iff settings).2 ((hloaded settings).1 h).2
      anonymous := fun settings h α τ _ st => ?_ }
  · rw [hanswer, orFault_eq_error_iff, Answers.faults, List.findSome?_append, Option.or_eq_some_iff]
    simp only [Answers.overlays_iff, and_assoc, exists_and_left, exists_eq_left]
  · have husable : Usable settings := ((hloaded settings).1 h).2
    exact ⟨SecurityContext.anonymousToken settings.anonymous, rfl, rfl, husable.principal,
      husable.authorities⟩

/-- A provider of fixed answers, whatever the state. -/
def Provider.fixed (answer : String → RawAnswer) : Provider σ :=
  ⟨"fixed", fun key => Reading.ofExcept (answer key)⟩

/-- With a flag and a principal only, the rest of the settings is as in the standard ones; a text
that is no flag is told before the failures of the later keys. -/
theorem partial_settings_are_completed :
    let p : Provider Unit := .fixed fun key =>
      if key = eraseCredentialsKey then .ok (some "false")
      else if key = anonymousPrincipalKey then .ok (some "guest") else .ok none
    let q : Provider Unit := .fixed fun key =>
      if key = eraseCredentialsKey then .ok (some "maybe") else .error (.provider "unreachable")
    ((loadSettings "fresh" p).run ()).answer =
      .ok ⟨false, false, ⟨"fresh", "guest", ["ROLE_ANONYMOUS"]⟩⟩ ∧
    ((loadSettings "fresh" q).run ()).answer = .error (eraseSetting.unreadable "maybe") := by
  intro p q
  constructor
  · refine ((loaded_settings_are_overlay "fresh" p ()).loaded _).2
      ⟨⟨.present ?_, .standard, .standard, .present ?_, .standard⟩, ?_, ?_, ?_⟩
    · rfl
    · rfl
    · decide
    · decide
    · decide
  · exact ((loaded_settings_are_overlay "fresh" q ()).failed _).2 (.inl rfl)

end Loading

end AuthChain.Config

import AuthChain.Proofs.Config.Overlaying
import AuthChain.Proofs.Json.Literals

/-!
# Typed access

What becomes of a raw text that is asked for as a text, a truth value or an integer. The access
takes it for JSON first and for a plain text then, and the second attempt helps where a text is
asked for and nowhere else.

Main statement: the access gives exactly the values that are written in the raw text, and texts also
when none is written there; otherwise the value of the key is invalid
(`Provider.typed_access_accepts_written`).
-/

namespace AuthChain.Config

open Json (Value Alone Quotes Counts)

/-! ## Decoded documents -/

section Decoding

variable {v : Value} {n : Int}

theorem bool_eq_ok_iff {b : Bool} : Json.Decoder.bool v = .ok b ↔ v = .bool b := by
  cases v <;> simp [Json.Decoder.bool]

theorem signed64_eq_ok_iff :
    Json.Decoder.signed64 v = .ok n ↔
      v = .int n ∧ -9223372036854775808 ≤ n ∧ n ≤ 9223372036854775807 := by
  cases v with
  | int m =>
    unfold Json.Decoder.signed64
    dsimp only
    split
    · next hrange =>
      constructor
      · rintro ⟨⟩
        exact ⟨rfl, hrange⟩
      · rintro ⟨⟨⟩, -⟩
        rfl
    · next hrange =>
      constructor
      · rintro ⟨⟩
      · rintro ⟨⟨⟩, h⟩
        exact absurd h hrange
  | _ => simp [Json.Decoder.signed64]

theorem unsigned8_eq_ok_iff :
    Json.Decoder.unsigned8 v = .ok n ↔ v = .int n ∧ 0 ≤ n ∧ n ≤ 255 := by
  cases v with
  | int m =>
    unfold Json.Decoder.unsigned8
    dsimp only
    split
    · next hrange =>
      constructor
      · rintro ⟨⟩
        exact ⟨rfl, hrange⟩
      · rintro ⟨⟨⟩, -⟩
        rfl
    · next hrange =>
      constructor
      · rintro ⟨⟩
      · rintro ⟨⟨⟩, h⟩
        exact absurd h hrange
  | _ => simp [Json.Decoder.unsigned8]

end Decoding

/-! ## Accesses to a raw text -/

section Access

variable {σ α : Type} {p : Provider σ} {key raw : String} {s : σ}

/-- What an access answers that gives the values which are written in a raw text: without one the
value of the key is invalid. -/
structure Accepts (key : String) (written : α → Prop) (answer : Except ConfigError (Option α)) :
    Prop where
  given : ∀ a, answer = .ok (some a) ↔ written a
  refused : (∀ a, ¬ written a) → ∃ fault, answer = .error (.invalidValue key fault)

/-- The value of the document that the raw text is, or else the value of the key is invalid: where
no text is asked for, the second attempt gives nothing. -/
theorem interpret_cases (key : String) {decoder : Json.Decoder α}
    (hretry : ∀ a, decoder (.string raw) ≠ .ok a) :
    (∃ v a, Json.parse raw = .ok v ∧ decoder v = .ok a ∧ interpret decoder key raw = .ok a) ∨
      (∀ v a, Json.parse raw = .ok v → decoder v ≠ .ok a) ∧
        ∃ fault, interpret decoder key raw = .error (.invalidValue key fault) := by
  have hrefused : ∃ fault,
      invalid key (decoder (.string raw)) = .error (.invalidValue key fault) := by
    cases hstring : decoder (.string raw) with
    | ok a => exact absurd hstring (hretry a)
    | error m => exact ⟨.mismatch m, rfl⟩
  unfold interpret
  cases hparse : Json.parse raw with
  | error failure => exact .inr ⟨fun v a h => (nomatch h), hrefused⟩
  | ok v =>
    simp only [Except.toOption, Option.bind_some]
    cases hdecode : decoder v with
    | ok a => exact .inl ⟨v, a, rfl, hdecode, rfl⟩
    | error m =>
      refine .inr ⟨?_, hrefused⟩
      rintro _ a ⟨⟩ h
      rw [hdecode] at h
      cases h

theorem Provider.get_accepts {decoder : Json.Decoder α} {written : α → Prop}
    (h : ((p.getRaw key).run s).answer = .ok (some raw))
    (hretry : ∀ a, decoder (.string raw) ≠ .ok a)
    (hwritten : ∀ a, (∃ v, Json.parse raw = .ok v ∧ decoder v = .ok a) ↔ written a) :
    Accepts key written ((p.get decoder key).run s).answer := by
  have hanswer : ((p.get decoder key).run s).answer = (interpret decoder key raw).map some :=
    asking_answer h (interpret decoder key)
  rw [hanswer]
  rcases interpret_cases key hretry with ⟨v, a, hparse, hdecode, hread⟩ | ⟨hnone, fault, hread⟩
  · have ha : written a := (hwritten a).1 ⟨v, hparse, hdecode⟩
    refine ⟨fun b => ?_, fun hno => absurd ha (hno a)⟩
    rw [hread, ← hwritten]
    constructor
    · rintro ⟨⟩
      exact ⟨v, hparse, hdecode⟩
    · rintro ⟨w, hw, hb⟩
      obtain rfl := Except.ok.inj (hparse.symm.trans hw)
      obtain rfl := Except.ok.inj (hdecode.symm.trans hb)
      rfl
  · refine ⟨fun b => ?_, fun _ => ⟨fault, by rw [hread]; rfl⟩⟩
    rw [hread, ← hwritten]
    constructor
    · rintro ⟨⟩
    · rintro ⟨v, hparse, hdecode⟩
      exact absurd hdecode (hnone v b hparse)

/-- What the typed access makes of a raw text. -/
structure ReadsTyped (p : Provider σ) (key : String) (s : σ) (raw : String) : Prop where
  /-- A text is given in any case: the one that is quoted in the raw text, or else the raw text. -/
  text : ∃ t, ((p.get .text key).run s).answer = .ok (some t) ∧
    (Alone (Quotes t) raw.toList ∨ t = raw ∧ ∀ u, ¬ Alone (Quotes u) raw.toList)
  /-- A quoted text is given without its quotation marks. -/
  quoted : ∀ t, Alone (Quotes t) raw.toList → ((p.get .text key).run s).answer = .ok (some t)
  /-- The JSON form of a text gives the text. -/
  printed : ∀ t, raw = (Value.string t).compact → ((p.get .text key).run s).answer = .ok (some t)
  bool : Accepts key (fun b => Alone (· = Json.print (.bool b)) raw.toList)
    ((p.get .bool key).run s).answer
  signed64 : Accepts key
    (fun n => Alone (Counts n) raw.toList ∧ -9223372036854775808 ≤ n ∧ n ≤ 9223372036854775807)
    ((p.get .signed64 key).run s).answer
  unsigned8 : Accepts key (fun n => Alone (Counts n) raw.toList ∧ 0 ≤ n ∧ n ≤ 255)
    ((p.get .unsigned8 key).run s).answer

/-- The typed access gives exactly the values that are written in a raw text, and texts also when
none is written there. -/
theorem Provider.typed_access_accepts_written
    (h : ((p.getRaw key).run s).answer = .ok (some raw)) : ReadsTyped p key s raw := by
  have htext : ((p.get .text key).run s).answer = .ok (some (reread raw)) := by
    have hanswer := asking_answer h (interpret .text key)
    rwa [interpret_text] at hanswer
  have hquoted : ∀ t, Alone (Quotes t) raw.toList → reread raw = t :=
    fun t ht => reread_of_string (Json.parse_eq_string_iff.2 ht)
  have hinteger : ∀ (n : Int) (range : Prop),
      (∃ v, Json.parse raw = .ok v ∧ v = .int n ∧ range) ↔ Alone (Counts n) raw.toList ∧ range := by
    intro n range
    rw [← Json.parse_eq_int_iff]
    constructor
    · rintro ⟨_, hparse, rfl, hrange⟩
      exact ⟨hparse, hrange⟩
    · rintro ⟨hparse, hrange⟩
      exact ⟨_, hparse, rfl, hrange⟩
  refine
    { text := ⟨_, htext, ?_⟩
      quoted := fun t ht => by rw [htext, hquoted t ht]
      printed := ?_
      bool := get_accepts h (fun b => by simp [Json.Decoder.bool]) fun b => ?_
      signed64 := get_accepts h (fun n => by simp [Json.Decoder.signed64]) fun n => ?_
      unsigned8 := get_accepts h (fun n => by simp [Json.Decoder.unsigned8]) fun n => ?_ }
  · by_cases hwritten : ∃ t, Alone (Quotes t) raw.toList
    · obtain ⟨t, ht⟩ := hwritten
      exact .inl (by rwa [hquoted t ht])
    · have hnone : ∀ u, ¬ Alone (Quotes u) raw.toList := fun u hu => hwritten ⟨u, hu⟩
      exact .inr ⟨reread_of_ne fun u hu => hnone u (Json.parse_eq_string_iff.1 hu), hnone⟩
  · rintro t rfl
    rw [htext, reread_compact]
  · simp only [bool_eq_ok_iff, exists_eq_right, Json.parse_eq_bool_iff]
  · simp only [signed64_eq_ok_iff, hinteger]
  · simp only [unsigned8_eq_ok_iff, hinteger]

/-- A text that is written by the code of its letter is decoded, and no truth value is written
there. -/
theorem letter_by_code_is_decoded :
    let raw := " \"\\u0041\""
    let p : Provider Unit := .fixed fun _ => .ok (some raw)
    ((p.getRaw "name").run ()).answer = .ok (some raw) ∧
      ((p.get .text "name").run ()).answer = .ok (some "A") ∧
      ∃ fault, ((p.get .bool "name").run ()).answer = .error (.invalidValue "name" fault) := by
  intro raw p
  have hraw : ((p.getRaw "name").run ()).answer = .ok (some raw) := rfl
  have hcode : Json.Code ['0', '0', '4', '1'] 65 :=
    .digits (x := 0) (y := 0) (z := 4) (w := 1) rfl rfl rfl rfl
  have hletter : Json.Escape ['u', '0', '0', '4', '1'] 'A' := .code hcode (by decide)
  have hspelled : Quotes "A" ('"' :: (('\\' :: (['u', '0', '0', '4', '1'] ++ [])) ++ ['"'])) :=
    .spelled (.escape hletter .nil)
  have hquoted : Alone (Quotes "A") raw.toList := by
    have hchars : raw.toList = [' '] ++ ('"' :: (('\\' :: (['u', '0', '0', '4', '1'] ++ [])) ++
        ['"']) ++ []) := by decide
    rw [hchars]
    exact .between (by simp [Json.Blanks, Json.isBlank]) hspelled (by simp [Json.Blanks])
  refine ⟨hraw, (Provider.typed_access_accepts_written hraw).quoted "A" hquoted,
    (Provider.typed_access_accepts_written hraw).bool.refused fun b hb => ?_⟩
  have hparse := Json.parse_eq_string_iff.2 hquoted
  rw [Json.parse_eq_bool_iff.2 hb] at hparse
  cases hparse

end Access

end AuthChain.Config

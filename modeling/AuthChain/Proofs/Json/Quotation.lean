import AuthChain.Proofs.Json.Derivation

/-!
# Quoted texts

How a text is written between quotation marks, said without the reading: characters stand for
themselves, or an escape behind a backslash stands for them.

Main statement: a document is read as a text just when the text is spelled in it between quotation
marks, with nothing but blanks around them (`parse_eq_string_iff`). No spelling is shorter than its
text, so no text is read as itself (`length_of_parse_string`).
-/

namespace AuthChain.Json

variable {cs rest : List Char}

/-! ## Spellings -/

/-- Four hexadecimal digits and their number. -/
inductive Code : List Char → Nat → Prop
  | digits {a b c d : Char} {x y z w : Nat} (ha : hexDigit? a = some x) (hb : hexDigit? b = some y)
      (hc : hexDigit? c = some z) (hd : hexDigit? d = some w) :
      Code [a, b, c, d] (((x * 16 + y) * 16 + z) * 16 + w)

/-- The escapes by a letter, and the characters that they stand for. -/
def letterEscapes : List (Char × Char) :=
  [('"', '"'), ('\\', '\\'), ('/', '/'), ('b', '\x08'), ('f', '\x0c'), ('n', '\n'), ('r', '\r'),
    ('t', '\t')]

/-- What is written behind a backslash for a character: a letter, its code, or the codes of the two
halves of a pair. -/
inductive Escape : List Char → Char → Prop
  | letter {e c : Char} (h : (e, c) ∈ letterEscapes) : Escape [e] c
  | code {w : List Char} {n : Nat} (hw : Code w n) (hn : n < 0xd800 ∨ 0xdfff < n) :
      Escape ('u' :: w) (Char.ofNat n)
  | pair {w v : List Char} {n m : Nat} (hw : Code w n) (hn : 0xd800 ≤ n ∧ n ≤ 0xdbff)
      (hv : Code v m) (hm : 0xdc00 ≤ m ∧ m ≤ 0xdfff) :
      Escape ('u' :: (w ++ '\\' :: 'u' :: v))
        (Char.ofNat (0x10000 + (n - 0xd800) * 0x400 + (m - 0xdc00)))

/-- Characters written between quotation marks, and the characters that they stand for. -/
inductive Spells : List Char → List Char → Prop
  | nil : Spells [] []
  | plain {c : Char} {w t : List Char} (hquote : c ≠ '"') (hslash : c ≠ '\\')
      (hcontrol : 0x20 ≤ c.toNat) (h : Spells w t) : Spells (c :: w) (c :: t)
  | escape {e w t : List Char} {c : Char} (he : Escape e c) (h : Spells w t) :
      Spells ('\\' :: (e ++ w)) (c :: t)

theorem Spells.length_le {w t : List Char} (h : Spells w t) : t.length ≤ w.length := by
  induction h with
  | nil => exact Nat.le_refl _
  | plain _ _ _ _ ih =>
    simp only [List.length_cons]
    omega
  | escape _ _ ih =>
    simp only [List.length_cons, List.length_append]
    omega

/-! ## Escapes as they are read -/

theorem hexFour_eq_ok_iff {n : Nat} :
    hexFour cs = .ok (n, rest) ↔ ∃ w, Code w n ∧ cs = w ++ rest := by
  constructor
  · intro h
    unfold hexFour at h
    split at h
    · cases h
    · dsimp only at h
      split at h
      · split at h
        · next ha hb hc hd =>
          cases h
          exact ⟨_, .digits ha hb hc hd, rfl⟩
        · cases h
      · cases h
  · rintro ⟨w, hw, rfl⟩
    cases hw with
    | @digits a b c d _ _ _ _ ha hb hc hd =>
      have hbytes : ¬ byteCount [a, b, c, d] < 4 := by
        have ha := a.utf8Size_pos
        have hb := b.utf8Size_pos
        have hc := c.utf8Size_pos
        have hd := d.utf8Size_pos
        simp only [byteCount, List.foldl_cons, List.foldl_nil]
        omega
      have htake : ([a, b, c, d] ++ rest).take 4 = [a, b, c, d] := rfl
      unfold hexFour
      rw [htake, if_neg hbytes]
      simp only [List.cons_append, List.nil_append, ha, hb, hc, hd]

theorem expectInPair_eq_ok_iff {k : Char} :
    expectInPair k cs = .ok rest ↔ cs = k :: rest := by
  cases cs with
  | nil => simp [expectInPair]
  | cons c tail =>
    show (if c = k then Except.ok tail else .error _) = .ok rest ↔ _
    by_cases hc : c = k
    · simp [hc]
    · simp [hc]

theorem codeEscaped_eq_ok_iff {c : Char} :
    codeEscaped cs = .ok (c, rest) ↔ ∃ w, Escape ('u' :: w) c ∧ cs = w ++ rest := by
  constructor
  · intro h
    obtain ⟨⟨n, behind⟩, hfour, hread⟩ := ok_of_bind h
    dsimp only at hread
    obtain ⟨w, hw, rfl⟩ := hexFour_eq_ok_iff.1 hfour
    split at hread
    · cases hread
    · next hlow =>
      split at hread
      · -- the first half of a pair
        next hhigh =>
        obtain ⟨slash, hslash, hletters⟩ := ok_of_bind hread
        obtain ⟨letter, hletter, hdigits⟩ := ok_of_bind hletters
        obtain ⟨⟨m, last⟩, hlast, hpair⟩ := ok_of_bind hdigits
        dsimp only at hpair
        obtain ⟨v, hv, rfl⟩ := hexFour_eq_ok_iff.1 hlast
        rw [expectInPair_eq_ok_iff] at hslash hletter
        subst hletter hslash
        split at hpair
        · next hm =>
          obtain ⟨rfl, rfl⟩ := Prod.mk.inj (Except.ok.inj hpair)
          exact ⟨_, .pair hw hhigh hv hm, by simp⟩
        · cases hpair
      · next hhigh =>
        cases hread
        exact ⟨w, .code hw (by omega), rfl⟩
  · rintro ⟨w, hw, rfl⟩
    unfold codeEscaped
    cases hw with
    | letter h => exact absurd h (by simp [letterEscapes])
    | code hw hn =>
      rw [hexFour_eq_ok_iff.2 ⟨w, hw, rfl⟩]
      show (if _ then _ else if _ then _ else _) = _
      rw [if_neg (by omega), if_neg (by omega)]
    | @pair w v n m hw hn hv hm =>
      rw [List.append_assoc, hexFour_eq_ok_iff.2 ⟨w, hw, rfl⟩]
      show (if _ then _ else if _ then _ else _) = _
      rw [if_neg (by omega), if_pos hn]
      refine (bind_of_ok (hexFour_eq_ok_iff.2 ⟨v, hv, rfl⟩) _).trans ?_
      exact if_pos hm

theorem escaped_eq_ok_iff {c : Char} :
    escaped cs = .ok (c, rest) ↔ ∃ e, Escape e c ∧ cs = e ++ rest := by
  constructor
  · intro h
    cases cs with
    | nil => cases h
    | cons k tail =>
      unfold escaped at h
      dsimp only at h
      split at h
      case h_9 =>
        obtain ⟨w, hw, rfl⟩ := codeEscaped_eq_ok_iff.1 h
        exact ⟨_, hw, rfl⟩
      case h_10 => cases h
      all_goals
        cases h
        exact ⟨_, .letter (by simp [letterEscapes]), rfl⟩
  · rintro ⟨e, he, rfl⟩
    cases he with
    | letter h =>
      simp only [letterEscapes, List.mem_cons, Prod.mk.injEq, List.not_mem_nil, or_false] at h
      rcases h with ⟨rfl, rfl⟩ | ⟨rfl, rfl⟩ | ⟨rfl, rfl⟩ | ⟨rfl, rfl⟩ | ⟨rfl, rfl⟩ | ⟨rfl, rfl⟩ |
        ⟨rfl, rfl⟩ | ⟨rfl, rfl⟩
      all_goals rfl
    | code hw hn => exact codeEscaped_eq_ok_iff.2 ⟨_, .code hw hn, rfl⟩
    | pair hw hn hv hm => exact codeEscaped_eq_ok_iff.2 ⟨_, .pair hw hn hv hm, rfl⟩

/-! ## Texts as they are read -/

theorem spells_of_stringBody {fuel : Nat} {t : List Char}
    (h : stringBody fuel cs = .ok (t, rest)) : ∃ w, Spells w t ∧ cs = w ++ '"' :: rest := by
  induction fuel generalizing cs t with
  | zero => cases h
  | succ fuel ih =>
    cases cs with
    | nil => cases h
    | cons c cs =>
      unfold stringBody at h
      split at h
      · next hquote =>
        cases h
        exact ⟨[], .nil, by simp [hquote]⟩
      · next hquote =>
        split at h
        · next hslash =>
          subst hslash
          obtain ⟨⟨e, behind⟩, hescaped, h⟩ := ok_of_bind h
          obtain ⟨⟨tail, last⟩, htail, h⟩ := ok_of_bind h
          cases h
          obtain ⟨w, hw, rfl⟩ := escaped_eq_ok_iff.1 hescaped
          obtain ⟨v, hv, rfl⟩ := ih htail
          exact ⟨_, .escape hw hv, by simp⟩
        · next hslash =>
          split at h
          · cases h
          · next hcontrol =>
            obtain ⟨⟨tail, last⟩, htail, h⟩ := ok_of_bind h
            cases h
            obtain ⟨w, hw, rfl⟩ := ih htail
            exact ⟨_, .plain hquote hslash (by omega) hw, rfl⟩

theorem stringBody_of_spells {w t : List Char} (h : Spells w t) {fuel : Nat}
    (hfuel : w.length < fuel) (rest : List Char) :
    stringBody fuel (w ++ '"' :: rest) = .ok (t, rest) := by
  induction h generalizing fuel with
  | nil =>
    obtain ⟨fuel, rfl⟩ := Nat.exists_eq_succ_of_ne_zero (Nat.ne_of_gt hfuel)
    rfl
  | plain hquote hslash hcontrol _ ih =>
    obtain ⟨fuel, rfl⟩ := Nat.exists_eq_succ_of_ne_zero (Nat.ne_of_gt (Nat.zero_lt_of_lt hfuel))
    rw [List.cons_append, stringBody, if_neg hquote, if_neg hslash, if_neg (by omega),
      ih (Nat.lt_of_succ_lt_succ hfuel)]
    rfl
  | @escape e w t c he _ ih =>
    obtain ⟨fuel, rfl⟩ := Nat.exists_eq_succ_of_ne_zero (Nat.ne_of_gt (Nat.zero_lt_of_lt hfuel))
    have hshort : w.length < fuel := by
      simp only [List.length_cons, List.length_append] at hfuel
      omega
    rw [List.cons_append, List.append_assoc, stringBody, if_neg (by decide), if_pos rfl,
      bind_of_ok (escaped_eq_ok_iff.2 ⟨e, he, rfl⟩)]
    exact bind_of_ok (ih hshort) _

theorem stringRest_eq_ok_iff {s : String} :
    stringRest cs = .ok (s, rest) ↔ ∃ w, Spells w s.toList ∧ cs = w ++ '"' :: rest := by
  constructor
  · intro h
    obtain ⟨⟨body, behind⟩, hbody, h⟩ := ok_of_bind h
    cases h
    rw [String.toList_ofList]
    exact spells_of_stringBody hbody
  · rintro ⟨w, hw, rfl⟩
    have hfuel : w.length < (w ++ '"' :: rest).length + 1 := by
      rw [List.length_append]
      omega
    unfold stringRest
    rw [stringBody_of_spells hw hfuel]
    show Except.ok (String.ofList s.toList, rest) = _
    rw [String.ofList_toList]

/-! ## Documents that are texts -/

/-- A text as it is written: spelled between quotation marks. -/
inductive Quotes (s : String) : List Char → Prop
  | spelled {w : List Char} (h : Spells w s.toList) : Quotes s ('"' :: (w ++ ['"']))

/-- A text is read where it is written behind blanks. -/
theorem value_eq_string_iff {fuel d : Nat} {s : String} :
    value (fuel + 1) d cs = .ok (.string s, rest) ↔
      ∃ u w, Blanks u ∧ Quotes s w ∧ cs = u ++ (w ++ rest) := by
  rw [value_eq_ok_iff]
  constructor
  · rintro ⟨u, c, tail, hu, -, rfl, hbegan⟩
    cases hbegan with
    | text h =>
      obtain ⟨w, hw, rfl⟩ := stringRest_eq_ok_iff.1 h
      exact ⟨u, _, hu, .spelled hw, by simp⟩
    | negative h => exact (isNumber_of_numberRest h).elim
    | digit _ h => exact (isNumber_of_numberRest h).elim
  · rintro ⟨u, _, hu, ⟨hw⟩, rfl⟩
    exact ⟨u, '"', _, hu, rfl, by simp, .text (stringRest_eq_ok_iff.2 ⟨_, hw, rfl⟩)⟩

/-- Something is written in a text, with nothing but blanks of JSON around it. -/
inductive Alone (written : List Char → Prop) : List Char → Prop
  | between {u w v : List Char} (hu : Blanks u) (hw : written w) (hv : Blanks v) :
      Alone written (u ++ (w ++ v))

/-- A document that is read where something is written behind blanks is all that is written. -/
theorem parse_eq_ok_iff_alone {text : String} {v : Value} {written : List Char → Prop}
    (hread : ∀ rest, Blanks rest →
      (value (2 * text.toList.length + 2) nestingLimit text.toList = .ok (v, rest) ↔
        ∃ u w, Blanks u ∧ written w ∧ text.toList = u ++ (w ++ rest))) :
    Json.parse text = .ok v ↔ Alone written text.toList := by
  rw [parse_eq_ok_iff]
  constructor
  · rintro ⟨rest, hvalue, hrest⟩
    obtain ⟨u, w, hu, hw, hsplit⟩ := (hread rest hrest).1 hvalue
    rw [hsplit]
    exact .between hu hw hrest
  · intro h
    generalize htext : text.toList = cs at h
    cases h with
    | @between u w rest hu hw hrest =>
      rw [← htext]
      exact ⟨rest, (hread rest hrest).2 ⟨u, w, hu, hw, htext⟩, hrest⟩

/-- A document is read as a text just when the text is all that is written in it. -/
theorem parse_eq_string_iff {text s : String} :
    Json.parse text = .ok (.string s) ↔ Alone (Quotes s) text.toList :=
  parse_eq_ok_iff_alone fun _ _ => value_eq_string_iff

/-- A document that is a text is longer than the text. -/
theorem length_of_parse_string {text s : String} (h : Json.parse text = .ok (.string s)) :
    s.length < text.length := by
  have hwritten := parse_eq_string_iff.1 h
  rw [← String.length_toList, ← String.length_toList]
  generalize text.toList = cs at hwritten ⊢
  cases hwritten with
  | between _ hw _ =>
    cases hw with
    | spelled hw =>
      have hlength := hw.length_le
      simp only [List.length_append, List.length_cons, List.length_nil]
      omega

end AuthChain.Json

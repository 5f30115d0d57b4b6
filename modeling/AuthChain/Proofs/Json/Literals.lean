import AuthChain.Json.Access
import AuthChain.Json.Printer
import AuthChain.Proofs.Json.Quotation
import Mathlib.Data.List.Induction

/-!
# Written values

How truth values, integers and arrays of texts are written. A truth value is one of two words, and
an integer within 64 bits is its decimal; an array of texts has quoted texts between its brackets,
with commas between them and blanks around them.

Main statements: a document is read as such a value just when the value is all that is written in it
(`parse_eq_bool_iff`, `parse_eq_int_iff`, `parse_eq_texts_iff`).
-/

namespace AuthChain.Json

variable {cs rest : List Char}

/-! ## Truth values -/

theorem expect_eq_ok_iff {word : List Char} : expect word cs = .ok rest ↔ cs = word ++ rest := by
  induction word generalizing cs with
  | nil => simp [expect]
  | cons w ws ih =>
    cases cs with
    | nil => simp [expect]
    | cons c tail =>
      unfold expect
      by_cases h : w = c
      · rw [if_pos h, ih, h]
        simp
      · rw [if_neg h]
        simp [Ne.symm h]

theorem value_eq_bool_iff {fuel d : Nat} {b : Bool} :
    value (fuel + 1) d cs = .ok (.bool b, rest) ↔
      ∃ u w, Blanks u ∧ w = print (.bool b) ∧ cs = u ++ (w ++ rest) := by
  rw [value_eq_ok_iff]
  constructor
  · rintro ⟨u, c, tail, hu, -, rfl, hbegan⟩
    cases hbegan with
    | yes h => exact ⟨u, _, hu, rfl, by rw [expect_eq_ok_iff.1 h]; rfl⟩
    | no h => exact ⟨u, _, hu, rfl, by rw [expect_eq_ok_iff.1 h]; rfl⟩
    | negative h => exact (isNumber_of_numberRest h).elim
    | digit _ h => exact (isNumber_of_numberRest h).elim
  · rintro ⟨u, w, hu, rfl, rfl⟩
    cases b with
    | true => exact ⟨u, 't', _, hu, rfl, rfl, .yes (expect_eq_ok_iff.2 rfl)⟩
    | false => exact ⟨u, 'f', _, hu, rfl, rfl, .no (expect_eq_ok_iff.2 rfl)⟩

/-- A document is read as a truth value just when the word for it is all that is written in it. -/
theorem parse_eq_bool_iff {text : String} {b : Bool} :
    Json.parse text = .ok (.bool b) ↔ Alone (· = print (.bool b)) text.toList :=
  parse_eq_ok_iff_alone fun _ _ => value_eq_bool_iff

/-! ## Decimals -/

theorem toNat_sub_lt_ten {c : Char} (hc : c.isDigit = true) : c.toNat - '0'.toNat < 10 := by
  obtain ⟨hlow, hhigh⟩ := Char.isDigit_iff_toNat.1 hc
  have hzero : '0'.toNat = 48 := rfl
  have hnine : '9'.toNat = 57 := rfl
  omega

theorem toDigits_toNat_sub {c : Char} (hc : c.isDigit = true) :
    Nat.toDigits 10 (c.toNat - '0'.toNat) = [c] := by
  have hten := toNat_sub_lt_ten hc
  obtain ⟨hlow, -⟩ := Char.isDigit_iff_toNat.1 hc
  have hchar : (c.toNat - '0'.toNat).digitChar.toNat = c.toNat := by
    have hzero : '0'.toNat = 48 := rfl
    rw [Nat.toNat_digitChar_of_lt_ten hten]
    omega
  rw [Nat.toDigits_of_lt_base hten, Char.toNat_inj.1 hchar]

/-- Digits without a zero before others are the decimal of their number. -/
theorem toDigits_ofDigitChars {w : List Char} (hdigits : ∀ c ∈ w, c.isDigit = true) (hne : w ≠ [])
    (hlead : ∀ c tail, w ≠ '0' :: c :: tail) :
    Nat.toDigits 10 (Nat.ofDigitChars 10 w 0) = w := by
  -- the last digit is taken off, since a decimal ends with the remainder of its number
  induction w using List.reverseRecOn with
  | nil => exact absurd rfl hne
  | append_singleton front c ih =>
    have hc : c.isDigit = true := hdigits c (by simp)
    rw [Nat.ofDigitChars_append, Nat.ofDigitChars_cons, Nat.ofDigitChars_nil]
    cases front with
    | nil => simpa using toDigits_toNat_sub hc
    | cons z more =>
      have hfront := ih (fun d hd => hdigits d (List.mem_append_left _ hd)) (List.cons_ne_nil _ _)
        (fun d tail h => hlead d (tail ++ [c]) (by simp [h]))
      have hpos : 0 < Nat.ofDigitChars 10 (z :: more) 0 := by
        rcases Nat.eq_zero_or_pos (Nat.ofDigitChars 10 (z :: more) 0) with hzero | hpos
        · rw [hzero, Nat.toDigits_zero] at hfront
          obtain ⟨rfl, rfl⟩ := List.cons.inj hfront
          exact absurd rfl (hlead c [])
        · exact hpos
      rw [← Nat.toDigits_append_toDigits (by decide) hpos (toNat_sub_lt_ten hc), hfront,
        toDigits_toNat_sub hc]

theorem toDigits_ne_zero_cons (k : Nat) (c : Char) (tail : List Char) :
    Nat.toDigits 10 k ≠ '0' :: c :: tail := by
  induction k using Nat.strong_induction_on generalizing c tail with
  | _ k ih =>
    intro h
    by_cases hk : k < 10
    · rw [Nat.toDigits_of_lt_base hk] at h
      simp at h
    · rw [Nat.toDigits_of_base_le (by decide) (Nat.le_of_not_lt hk)] at h
      cases hfront : Nat.toDigits 10 (k / 10) with
      | nil => exact Nat.toDigits_ne_nil hfront
      | cons z more =>
        rw [hfront, List.cons_append] at h
        obtain ⟨rfl, -⟩ := List.cons.inj h
        cases more with
        | nil =>
          have hzero : k / 10 = 0 := by
            rw [← Nat.ofDigitChars_ten_toDigits (n := k / 10), hfront]
            rfl
          omega
        | cons d last => exact ih (k / 10) (by omega) d last hfront

/-- The values of decimal digits. -/
def digitValues (w : List Char) : List Nat :=
  w.map fun c => c.toNat - 48

theorem digitsValue_digitValues (w : List Char) :
    digitsValue (digitValues w) = Nat.ofDigitChars 10 w 0 := by
  rw [digitsValue, digitValues, List.foldl_map, Nat.ofDigitChars_eq_foldl]
  simp only [Nat.mul_comm 10]
  rfl

theorem digits_eq (cs : List Char) :
    digits cs = (digitValues (cs.takeWhile Char.isDigit), cs.dropWhile Char.isDigit) :=
  rfl

theorem digits_append {w : List Char} (hw : ∀ c ∈ w, c.isDigit = true)
    (hrest : ∀ c ∈ rest.head?, c.isDigit = false) : digits (w ++ rest) = (digitValues w, rest) := by
  have hnone : rest.takeWhile Char.isDigit = [] ∧ rest.dropWhile Char.isDigit = rest := by
    cases rest with
    | nil => exact ⟨rfl, rfl⟩
    | cons c tail => simp [hrest c rfl]
  rw [digits_eq, List.takeWhile_append_of_pos hw, List.dropWhile_append_of_pos hw, hnone.1,
    hnone.2, List.append_nil]

theorem someDigits_eq_ok_iff {ds : List Nat} :
    someDigits cs = .ok (ds, rest) ↔ digits cs = (ds, rest) ∧ ds ≠ [] := by
  unfold someDigits
  obtain ⟨values, behind⟩ := digits cs
  cases values with
  | nil =>
    constructor
    · intro h
      cases h
    · rintro ⟨h, hne⟩
      exact absurd (Prod.mk.inj h).1.symm hne
  | cons d tail =>
    constructor
    · intro h
      cases h
      exact ⟨rfl, List.cons_ne_nil _ _⟩
    · rintro ⟨h, -⟩
      rw [← h]

/-- A number has digits, and a zero before others is none. -/
theorem wholePart_eq_ok_iff {ds : List Nat} :
    wholePart cs = .ok (ds, rest) ↔
      digits cs = (ds, rest) ∧ ds ≠ [] ∧ ∀ d tail, ds ≠ 0 :: d :: tail := by
  constructor
  · intro h
    obtain ⟨⟨values, behind⟩, hsome, h⟩ := ok_of_bind h
    obtain ⟨hdigits, hne⟩ := someDigits_eq_ok_iff.1 hsome
    dsimp only at h
    split at h
    · cases h
    · next hlead =>
      cases h
      exact ⟨hdigits, hne, hlead⟩
  · rintro ⟨hdigits, hne, hlead⟩
    unfold wholePart
    rw [someDigits_eq_ok_iff.2 ⟨hdigits, hne⟩]
    simp only [bind, Except.bind]

/-- The digits before a point are the decimal of their number. -/
theorem toDigits_of_wholePart {ds : List Nat} (h : wholePart cs = .ok (ds, rest)) :
    cs = Nat.toDigits 10 (digitsValue ds) ++ rest := by
  obtain ⟨hdigits, hne, hlead⟩ := wholePart_eq_ok_iff.1 h
  obtain ⟨rfl, rfl⟩ := Prod.mk.inj hdigits
  have hall : ∀ c ∈ cs.takeWhile Char.isDigit, c.isDigit = true :=
    fun c hc => List.mem_takeWhile_imp hc
  rw [← digitValues, digitsValue_digitValues, toDigits_ofDigitChars hall]
  · exact List.takeWhile_append_dropWhile.symm
  · intro hnil
    rw [hnil] at hne
    exact hne rfl
  · intro c tail hzero
    rw [hzero] at hlead
    exact hlead _ _ rfl

theorem wholePart_toDigits (k : Nat) (hrest : ∀ c ∈ rest.head?, c.isDigit = false) :
    wholePart (Nat.toDigits 10 k ++ rest) = .ok (digitValues (Nat.toDigits 10 k), rest) := by
  have hall : ∀ c ∈ Nat.toDigits 10 k, c.isDigit = true :=
    fun c hc => Nat.isDigit_of_mem_toDigits (by decide) (by decide) hc
  refine wholePart_eq_ok_iff.2 ⟨digits_append hall hrest, ?_, ?_⟩
  · intro hnil
    exact Nat.toDigits_ne_nil (List.map_eq_nil_iff.1 hnil)
  · intro d tail hzero
    obtain ⟨z, more, hsplit, hz, hmore⟩ := List.map_eq_cons_iff.1 hzero
    obtain ⟨c, last, rfl, -, -⟩ := List.map_eq_cons_iff.1 hmore
    obtain ⟨hlow, -⟩ := Char.isDigit_iff_toNat.1 (hall z (by simp [hsplit]))
    have hz : z = '0' := Char.toNat_inj.1 (by
      have hzero : '0'.toNat = 48 := rfl
      omega)
    exact toDigits_ne_zero_cons k c last (hz ▸ hsplit)

/-! ## Integers -/

/-- What a number without point and exponent is read as within 64 bits: its sign, its decimal and
the integer. Minus zero is no integer. -/
inductive Counted : Bool → Nat → Int → Prop
  | positive {k : Nat} (h : k < 18446744073709551616) : Counted false k k
  | negative {k : Nat} (hpos : 0 < k) (h : k ≤ 9223372036854775808) : Counted true k (-k)

theorem Numeral.value?_eq_int_iff {numeral : Numeral} {n : Int} :
    numeral.value? = some (.int n) ↔
      numeral.fraction = none ∧ numeral.exponent = none ∧
        Counted numeral.negative (digitsValue numeral.whole) n := by
  obtain ⟨negative, whole, fraction, exponent⟩ := numeral
  unfold Numeral.value?
  dsimp only
  -- every other number is read as a double, which is no integer
  generalize hdouble : Option.map (fun x => Value.double (signed negative x)) _ = double
  have hne : double ≠ some (.int n) := by
    rw [← hdouble]
    simp
  generalize digitsValue whole = k
  split
  · constructor
    · intro h
      split at h
      · next hnegative =>
        subst hnegative
        split at h
        · exact absurd h hne
        · obtain rfl := Value.int.inj (Option.some.inj h)
          exact ⟨rfl, rfl, .negative (by omega) (by omega)⟩
      · next hnegative =>
        rw [Bool.not_eq_true] at hnegative
        subst hnegative
        split at h
        · next hsize =>
          obtain rfl := Value.int.inj (Option.some.inj h)
          exact ⟨rfl, rfl, .positive hsize⟩
        · exact absurd h hne
    · rintro ⟨-, -, h⟩
      cases h with
      | positive h => simp [UInt64.size, h]
      | negative hpos h => rw [if_pos rfl, if_neg (by omega)]
  · next hplain =>
    constructor
    · exact fun h => absurd h hne
    · rintro ⟨rfl, rfl, -⟩
      exact absurd rfl (hplain rfl)

theorem eq_of_fractionPart (h : fractionPart cs = .ok (none, rest)) : cs = rest := by
  unfold fractionPart at h
  split at h
  · obtain ⟨⟨ds, behind⟩, -, h⟩ := ok_of_bind h
    cases h
  · cases h
    rfl

theorem eq_of_exponentPart (h : exponentPart cs = .ok (none, rest)) : cs = rest := by
  unfold exponentPart at h
  split at h
  · cases h
    rfl
  · split at h
    · split at h
      all_goals
        obtain ⟨⟨ds, behind⟩, -, h⟩ := ok_of_bind h
        cases h
    · cases h
      rfl

/-- Blanks begin neither digits nor a fraction nor an exponent. -/
theorem ends_of_blanks (h : Blanks rest) :
    (∀ c ∈ rest.head?, c.isDigit = false) ∧ fractionPart rest = .ok (none, rest) ∧
      exponentPart rest = .ok (none, rest) := by
  cases rest with
  | nil => exact ⟨fun c hc => (nomatch hc), rfl, rfl⟩
  | cons c tail =>
    have hc : isBlank c = true := h c List.mem_cons_self
    simp only [isBlank, Bool.or_eq_true, beq_iff_eq] at hc
    rcases hc with ((rfl | rfl) | rfl) | rfl
    all_goals
      refine ⟨?_, rfl, rfl⟩
      rintro d ⟨⟩
      rfl

/-- A number is read as an integer where its decimal stands with nothing but blanks behind it. -/
theorem numberRest_eq_int_iff {negative : Bool} {n : Int} (hrest : Blanks rest) :
    numberRest negative cs = .ok (.int n, rest) ↔
      ∃ k, Counted negative k n ∧ cs = Nat.toDigits 10 k ++ rest := by
  constructor
  · intro h
    obtain ⟨⟨whole, behind⟩, hwhole, h⟩ := ok_of_bind h
    obtain ⟨⟨fraction, behind'⟩, hfraction, h⟩ := ok_of_bind h
    obtain ⟨⟨exponent, behind''⟩, hexponent, h⟩ := ok_of_bind h
    dsimp only at h
    split at h
    · next hvalue =>
      cases h
      obtain ⟨rfl, rfl, hcounted⟩ := Numeral.value?_eq_int_iff.1 hvalue
      refine ⟨_, hcounted, ?_⟩
      rw [toDigits_of_wholePart hwhole, eq_of_fractionPart hfraction, eq_of_exponentPart hexponent]
    · cases h
  · rintro ⟨k, hcounted, rfl⟩
    obtain ⟨hdigit, hfraction, hexponent⟩ := ends_of_blanks hrest
    have hvalue : (⟨negative, digitValues (Nat.toDigits 10 k), none, none⟩ : Numeral).value? =
        some (.int n) := by
      refine Numeral.value?_eq_int_iff.2 ⟨rfl, rfl, ?_⟩
      rwa [digitsValue_digitValues, Nat.ofDigitChars_ten_toDigits]
    unfold numberRest
    rw [wholePart_toDigits k hdigit]
    simp only [bind, Except.bind, hfraction, hexponent, hvalue]

theorem isBlank_of_isDigit {c : Char} (h : c.isDigit = true) : isBlank c = false := by
  cases hblank : isBlank c with
  | false => rfl
  | true =>
    have hblanks : Blanks [c] := by
      intro d hd
      rw [List.mem_singleton.1 hd, hblank]
    have hdigit := (ends_of_blanks hblanks).1 c rfl
    rw [hdigit] at h
    exact absurd h Bool.false_ne_true

/-- An integer as it is written: by its decimal, within 64 bits. A point, an exponent or a sign
before zero would make a double of it. -/
structure Counts (n : Int) (w : List Char) : Prop where
  decimal : w = printInt n
  least : -9223372036854775808 ≤ n
  below : n < 18446744073709551616

theorem value_eq_int_iff {fuel d : Nat} {n : Int} (hrest : Blanks rest) :
    value (fuel + 1) d cs = .ok (.int n, rest) ↔
      ∃ u w, Blanks u ∧ Counts n w ∧ cs = u ++ (w ++ rest) := by
  rw [value_eq_ok_iff]
  constructor
  · rintro ⟨u, c, tail, hu, -, rfl, hbegan⟩
    cases hbegan with
    | negative h =>
      obtain ⟨k, hcounted, rfl⟩ := (numberRest_eq_int_iff hrest).1 h
      cases hcounted with
      | negative hpos hmost =>
        refine ⟨u, _, hu, ⟨rfl, by omega, by omega⟩, ?_⟩
        rw [printInt, if_pos (by omega), Int.natAbs_neg, Int.natAbs_natCast]
        rfl
    | digit _ h =>
      obtain ⟨k, hcounted, hsplit⟩ := (numberRest_eq_int_iff hrest).1 h
      cases hcounted with
      | positive hmost =>
        refine ⟨u, _, hu, ⟨rfl, by omega, by omega⟩, ?_⟩
        rw [hsplit, printInt, if_neg (by omega), Int.natAbs_natCast]
  · rintro ⟨u, w, hu, ⟨rfl, hleast, hbelow⟩, rfl⟩
    by_cases hneg : n < 0
    · obtain ⟨k, rfl⟩ : ∃ k : Nat, n = -(k : Int) := ⟨n.natAbs, by omega⟩
      rw [printInt, if_pos hneg, Int.natAbs_neg, Int.natAbs_natCast]
      have hcounted : Counted true k (-(k : Int)) := .negative (by omega) (by omega)
      have hread := (numberRest_eq_int_iff hrest).2 ⟨k, hcounted, rfl⟩
      exact ⟨u, '-', _, hu, rfl, rfl, .negative hread⟩
    · obtain ⟨k, rfl⟩ : ∃ k : Nat, n = k := ⟨n.natAbs, by omega⟩
      have hcounted : Counted false k k := .positive (by omega)
      have hread := (numberRest_eq_int_iff hrest).2 ⟨k, hcounted, rfl⟩
      rw [printInt, if_neg hneg, Int.natAbs_natCast]
      cases hdigits : Nat.toDigits 10 k with
      | nil => exact absurd hdigits Nat.toDigits_ne_nil
      | cons c tail =>
        have hc : c.isDigit = true :=
          Nat.isDigit_of_mem_toDigits (b := 10) (n := k) (by decide) (by decide) (by simp [hdigits])
        rw [hdigits] at hread
        exact ⟨u, c, _, hu, isBlank_of_isDigit hc, rfl, .digit hc hread⟩

/-- A document is read as an integer just when its decimal is all that is written in it. -/
theorem parse_eq_int_iff {text : String} {n : Int} :
    Json.parse text = .ok (.int n) ↔ Alone (Counts n) text.toList :=
  parse_eq_ok_iff_alone fun _ hrest => value_eq_int_iff hrest

/-! ## Arrays of texts -/

/-- The items of an array of texts as they are written, at least one: quoted texts with commas
between them and blanks around them. -/
inductive Items : List String → List Char → Prop
  | one {s : String} {w : List Char} (h : Alone (Quotes s) w) : Items [s] w
  | more {s : String} {xs : List String} {w v : List Char} (h : Alone (Quotes s) w)
      (hmore : Items xs v) : Items (s :: xs) (w ++ ',' :: v)

/-- An array of texts as it is written. -/
inductive Lists : List String → List Char → Prop
  | none {u : List Char} (hu : Blanks u) : Lists [] ('[' :: (u ++ [']']))
  | some {xs : List String} {w : List Char} (h : Items xs w) : Lists xs ('[' :: (w ++ [']']))

theorem Items.length_le {xs : List String} {w : List Char} (h : Items xs w) :
    xs.length ≤ w.length := by
  have hquoted : ∀ {s : String} {w : List Char}, Alone (Quotes s) w → 1 ≤ w.length := by
    rintro s _ ⟨-, ⟨-⟩, -⟩
    simp only [List.length_append, List.length_cons]
    omega
  induction h with
  | one h => exact hquoted h
  | more h _ ih =>
    simp only [List.length_append, List.length_cons]
    omega

theorem items_of_elements {fuel d : Nat} {xs : List String}
    (h : elements fuel d cs = .ok (xs.map .string, rest)) :
    ∃ w, Items xs w ∧ cs = w ++ ']' :: rest := by
  induction fuel generalizing cs xs with
  | zero => cases h
  | succ fuel ih =>
    obtain ⟨v, behind, hvalue, hnext⟩ := elements_eq_ok_iff.1 h
    obtain ⟨b, hb, hsplit⟩ := skipBlanks_split behind
    cases fuel with
    | zero => cases hvalue
    | succ fuel =>
      rcases hnext with ⟨hend, hxs⟩ | ⟨tail, more, hcomma, hmore, hxs⟩
      · obtain ⟨s, rfl, rfl⟩ := List.map_eq_singleton_iff.1 hxs
        obtain ⟨u, w, hu, hw, rfl⟩ := value_eq_string_iff.1 hvalue
        rw [hend] at hsplit
        refine ⟨_, .one (.between hu hw hb), ?_⟩
        simp [hsplit]
      · obtain ⟨s, xs, rfl, rfl, rfl⟩ := List.map_eq_cons_iff.1 hxs
        obtain ⟨u, w, hu, hw, rfl⟩ := value_eq_string_iff.1 hvalue
        obtain ⟨v, hv, rfl⟩ := ih hmore
        rw [hcomma] at hsplit
        refine ⟨_, .more (.between hu hw hb) hv, ?_⟩
        simp [hsplit]

theorem value_of_alone {s : String} {w : List Char} (h : Alone (Quotes s) w) {c : Char}
    (hc : isBlank c = false) (fuel d : Nat) (tail : List Char) :
    ∃ behind, value (fuel + 1) d (w ++ c :: tail) = .ok (.string s, behind) ∧
      skipBlanks behind = c :: tail := by
  cases h with
  | @between u w v hu hw hv =>
    refine ⟨v ++ c :: tail, value_eq_string_iff.2 ⟨u, w, hu, hw, ?_⟩, ?_⟩
    · simp only [List.append_assoc]
    · rw [skipBlanks_append hv, skipBlanks_cons hc]

theorem elements_of_items {xs : List String} {w : List Char} (h : Items xs w) {fuel : Nat}
    (hfuel : xs.length < fuel) (d : Nat) (rest : List Char) :
    elements fuel d (w ++ ']' :: rest) = .ok (xs.map .string, rest) := by
  induction h generalizing fuel with
  | one h =>
    rw [List.length_singleton] at hfuel
    obtain ⟨fuel, rfl⟩ : ∃ n, fuel = n + 2 := ⟨fuel - 2, by omega⟩
    obtain ⟨behind, hvalue, hend⟩ := value_of_alone h (c := ']') rfl fuel d rest
    exact elements_eq_ok_iff.2 ⟨_, behind, hvalue, .inl ⟨hend, rfl⟩⟩
  | @more s xs w v h _ ih =>
    rw [List.length_cons] at hfuel
    obtain ⟨fuel, rfl⟩ : ∃ n, fuel = n + 2 := ⟨fuel - 2, by omega⟩
    obtain ⟨behind, hvalue, hcomma⟩ := value_of_alone h (c := ',') rfl fuel d (v ++ ']' :: rest)
    refine elements_eq_ok_iff.2 ⟨_, behind, ?_, .inr ⟨_, _, hcomma, ih (by omega), rfl⟩⟩
    simpa using hvalue

theorem value_eq_texts_iff {fuel d : Nat} {xs : List String} (hfuel : cs.length < fuel) :
    value (fuel + 1) (d + 1) cs = .ok (Value.texts xs, rest) ↔
      ∃ u w, Blanks u ∧ Lists xs w ∧ cs = u ++ (w ++ rest) := by
  rw [value_eq_ok_iff]
  constructor
  · rintro ⟨u, c, tail, hu, -, rfl, hbegan⟩
    rw [Value.texts] at hbegan
    generalize hitems : xs.map Value.string = items at hbegan
    cases hbegan with
    | noItems hend =>
      obtain rfl := List.map_eq_nil_iff.1 hitems
      obtain ⟨v, hv, hsplit⟩ := skipBlanks_split tail
      rw [hend] at hsplit
      refine ⟨u, _, hu, .none hv, ?_⟩
      simp [hsplit]
    | items h =>
      subst hitems
      obtain ⟨w, hw, rfl⟩ := items_of_elements h
      exact ⟨u, _, hu, .some hw, by simp⟩
    | negative h => exact (isNumber_of_numberRest h).elim
    | digit _ h => exact (isNumber_of_numberRest h).elim
  · rintro ⟨u, _, hu, hw, rfl⟩
    cases hw with
    | @none v hv =>
      refine ⟨u, '[', v ++ ']' :: rest, hu, rfl, by simp, .noItems ?_⟩
      rw [skipBlanks_append hv, skipBlanks_cons rfl]
    | @some _ w hw =>
      refine ⟨u, '[', w ++ ']' :: rest, hu, rfl, by simp, .items ?_⟩
      have hlength := hw.length_le
      refine elements_of_items hw ?_ d rest
      simp only [List.length_append, List.length_cons] at hfuel
      omega

/-- A document is read as an array of texts just when the array is all that is written in it. -/
theorem parse_eq_texts_iff {text : String} {xs : List String} :
    Json.parse text = .ok (Value.texts xs) ↔ Alone (Lists xs) text.toList :=
  parse_eq_ok_iff_alone fun _ _ => value_eq_texts_iff (by omega)

end AuthChain.Json

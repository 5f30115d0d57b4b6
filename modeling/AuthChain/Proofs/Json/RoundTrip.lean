import AuthChain.Json.Printer
import AuthChain.Proofs.Json.Quotation
import AuthChain.TextMap
import Mathlib.Data.List.Induction
import Mathlib.Tactic.IntervalCases

/-!
# Printed documents read back

The compact text of a document without numbers is read back as the document, with the members of
its objects in the order in which objects keep them. Every escape is read back as its character, and
what follows a document is left as it is.

Main statement: `parse_compact`.
-/

namespace AuthChain.Json

/-! ## Documents as they are read -/

mutual

/-- The document with the members of every object in the order in which objects keep them, the last
one of a name winning. -/
def Value.canonical : Value → Value
  | .array items => .array (canonicalItems items)
  | .object members => .ofMembers (canonicalMembers members)
  | v => v

def canonicalItems : List Value → List Value
  | [] => []
  | v :: rest => v.canonical :: canonicalItems rest

def canonicalMembers : Members → Members
  | [] => []
  | (k, v) :: rest => (k, v.canonical) :: canonicalMembers rest

end

mutual

/-- The document holds no numbers and nests at most so many arrays and objects. -/
def Value.Fits : Value → Nat → Prop
  | .int _, _ => False
  | .double _, _ => False
  | .array items, d => 0 < d ∧ ItemsFit items (d - 1)
  | .object members, d => 0 < d ∧ MembersFit members (d - 1)
  | _, _ => True

def ItemsFit : List Value → Nat → Prop
  | [], _ => True
  | v :: rest, d => v.Fits d ∧ ItemsFit rest d

def MembersFit : Members → Nat → Prop
  | [], _ => True
  | (_, v) :: rest, d => v.Fits d ∧ MembersFit rest d

end

theorem canonicalItems_eq_map (items : List Value) :
    canonicalItems items = items.map Value.canonical := by
  induction items with
  | nil => rfl
  | cons v rest ih => rw [canonicalItems, ih, List.map_cons]

theorem canonicalMembers_eq_map (ms : Members) :
    canonicalMembers ms = ms.map fun m => (m.1, m.2.canonical) := by
  induction ms with
  | nil => rfl
  | cons m rest ih => rw [canonicalMembers, ih, List.map_cons]

theorem itemsFit_iff (items : List Value) (d : Nat) :
    ItemsFit items d ↔ ∀ v ∈ items, v.Fits d := by
  induction items with
  | nil => simp [ItemsFit]
  | cons v rest ih => simp [ItemsFit, ih]

theorem membersFit_iff (ms : Members) (d : Nat) :
    MembersFit ms d ↔ ∀ m ∈ ms, m.2.Fits d := by
  induction ms with
  | nil => simp [MembersFit]
  | cons m rest ih => simp [MembersFit, ih]

/-! ## Texts -/

theorem code_control {n : Nat} (hn : n < 0x20) :
    Code (['0', '0'] ++ (if n < 0x10 then ['0'] else ['1']) ++ Nat.toDigits 16 (n % 0x10)) n := by
  have hread : hexFour (['0', '0'] ++ (if n < 0x10 then ['0'] else ['1']) ++
      Nat.toDigits 16 (n % 0x10) ++ []) = .ok (n, []) := by
    interval_cases n <;> rfl
  obtain ⟨w, hw, hdigits⟩ := hexFour_eq_ok_iff.1 hread
  rw [List.append_cancel_right hdigits]
  exact hw

theorem escape_control {c : Char} (hc : c.toNat < 0x20) :
    Escape ((controlEscape c).drop 1) c := by
  have hescape : Escape ('u' :: _) (Char.ofNat c.toNat) := .code (code_control hc) (by omega)
  rw [Char.ofNat_toNat] at hescape
  simpa [controlEscape] using hescape

/-- A character is written as an escape or as itself. -/
theorem printChar_cases (c : Char) :
    (∃ e, printChar c = '\\' :: e ∧ Escape e c) ∨
      printChar c = [c] ∧ c ≠ '"' ∧ c ≠ '\\' ∧ 0x20 ≤ c.toNat := by
  unfold printChar
  -- the seven escapes by a letter
  iterate 7
    split
    · next h =>
      subst h
      exact .inl ⟨_, rfl, .letter (by decide)⟩
  -- the escape by a code
  split
  · next h => exact .inl ⟨_, rfl, escape_control h⟩
  · next h => exact .inr ⟨rfl, ‹_›, ‹_›, by omega⟩

theorem spells_print (cs : List Char) : Spells (cs.flatMap printChar) cs := by
  induction cs with
  | nil => exact .nil
  | cons c rest ih =>
    rw [List.flatMap_cons]
    rcases printChar_cases c with ⟨e, hprint, he⟩ | ⟨hprint, hquote, hslash, hcontrol⟩
    · rw [hprint]
      exact .escape he ih
    · rw [hprint]
      exact .plain hquote hslash hcontrol ih

theorem quotes_print (s : String) : Quotes s (printString s) :=
  .spelled (spells_print s.toList)

/-! ## Documents -/

theorem print_ne_nil {v : Value} {d : Nat} (h : v.Fits d) : print v ≠ [] := by
  cases v with
  | bool b => cases b <;> exact List.cons_ne_nil _ _
  | int n => exact h.elim
  | double x => exact h.elim
  | _ => exact List.cons_ne_nil _ _

/-- Members begin with a quotation mark, and no blanks are skipped there. -/
theorem skipBlanks_printMembers (m : String × Value) (ms : Members) (rest : List Char) :
    skipBlanks (printMembers (m :: ms) ++ rest) = printMembers (m :: ms) ++ rest := by
  obtain ⟨k, v⟩ := m
  cases ms <;> rfl

/-- The reading of documents, of items and of members with so much fuel: two calls for each written
character are enough, and items and members take one more, which their brackets pay for. -/
structure Reads (fuel : Nat) : Prop where
  value : ∀ v d rest, v.Fits d → 2 * (print v).length ≤ fuel →
    Json.value fuel d (print v ++ rest) = .ok (v.canonical, rest)
  elements : ∀ v items d rest, ItemsFit (v :: items) d →
    2 * (printItems (v :: items)).length < fuel →
      Json.elements fuel d (printItems (v :: items) ++ ']' :: rest) =
        .ok (canonicalItems (v :: items), rest)
  members : ∀ m ms d rest, MembersFit (m :: ms) d →
    2 * (printMembers (m :: ms)).length < fuel →
      Json.members fuel d (printMembers (m :: ms) ++ '\x7d' :: rest) =
        .ok (canonicalMembers (m :: ms), rest)

variable {fuel d : Nat} {rest : List Char}

theorem Reads.zero : Reads 0 where
  value v d rest hv hfuel := by
    have hpos := List.length_pos_iff.2 (print_ne_nil hv)
    omega
  elements v items d rest _ hfuel := absurd hfuel (Nat.not_lt_zero _)
  members m ms d rest _ hfuel := absurd hfuel (Nat.not_lt_zero _)

theorem Reads.array (h : Reads fuel) {items : List Value} (hv : (Value.array items).Fits d)
    (hfuel : 2 * (print (.array items)).length ≤ fuel + 1) :
    Json.value (fuel + 1) d (print (.array items) ++ rest) =
      .ok ((Value.array items).canonical, rest) := by
  obtain ⟨hd, hitems⟩ := hv
  obtain ⟨d, rfl⟩ := Nat.exists_eq_succ_of_ne_zero (Nat.ne_of_gt hd)
  rw [print] at hfuel ⊢
  simp only [List.cons_append, List.length_cons, List.length_append] at hfuel
  rw [List.append_assoc, List.cons_append]
  refine value_eq_ok_iff.2 ⟨[], '[', _, by simp [Blanks], rfl, rfl, ?_⟩
  cases items with
  | nil => exact .noItems rfl
  | cons v items => exact .items (h.elements v items d rest hitems (by omega))

theorem Reads.object (h : Reads fuel) {ms : Members} (hv : (Value.object ms).Fits d)
    (hfuel : 2 * (print (.object ms)).length ≤ fuel + 1) :
    Json.value (fuel + 1) d (print (.object ms) ++ rest) =
      .ok ((Value.object ms).canonical, rest) := by
  obtain ⟨hd, hms⟩ := hv
  obtain ⟨d, rfl⟩ := Nat.exists_eq_succ_of_ne_zero (Nat.ne_of_gt hd)
  rw [print] at hfuel ⊢
  simp only [List.cons_append, List.length_cons, List.length_append] at hfuel
  rw [List.append_assoc, List.cons_append]
  refine value_eq_ok_iff.2 ⟨[], '\x7b', _, by simp [Blanks], rfl, rfl, ?_⟩
  cases ms with
  | nil => exact .noMembers rfl
  | cons m ms =>
    refine .members ?_
    rw [skipBlanks_printMembers]
    exact h.members m ms d rest hms (by omega)

theorem Reads.elements_succ (h : Reads fuel) {v : Value} {items : List Value}
    (hv : ItemsFit (v :: items) d) (hfuel : 2 * (printItems (v :: items)).length < fuel + 1) :
    Json.elements (fuel + 1) d (printItems (v :: items) ++ ']' :: rest) =
      .ok (canonicalItems (v :: items), rest) := by
  cases items with
  | nil =>
    rw [printItems] at hfuel ⊢
    exact elements_eq_ok_iff.2 ⟨_, _, h.value v d _ hv.1 (by omega), .inl ⟨rfl, rfl⟩⟩
  | cons w items =>
    rw [printItems, List.length_append, List.length_cons] at hfuel
    rw [printItems, List.append_assoc, List.cons_append]
    have hmore := h.elements w items d rest hv.2 (by omega)
    exact elements_eq_ok_iff.2
      ⟨_, _, h.value v d _ hv.1 (by omega), .inr ⟨_, _, rfl, hmore, rfl⟩⟩

theorem Reads.members_succ (h : Reads fuel) {m : String × Value} {ms : Members}
    (hm : MembersFit (m :: ms) d) (hfuel : 2 * (printMembers (m :: ms)).length < fuel + 1) :
    Json.members (fuel + 1) d (printMembers (m :: ms) ++ '\x7d' :: rest) =
      .ok (canonicalMembers (m :: ms), rest) := by
  obtain ⟨k, v⟩ := m
  have hname : ∀ behind, stringRest (k.toList.flatMap printChar ++ '"' :: behind) =
      .ok (k, behind) := fun behind => stringRest_eq_ok_iff.2 ⟨_, spells_print k.toList, rfl⟩
  cases ms with
  | nil =>
    rw [printMembers, List.length_append, List.length_cons] at hfuel
    have hvalue := h.value v d ('\x7d' :: rest) hm.1 (by omega)
    have hnamed := hname (':' :: (print v ++ '\x7d' :: rest))
    refine members_eq_ok_iff.2 ⟨_, k, _, _, _, _, ?_, hnamed, rfl, hvalue, .inl ⟨rfl, rfl⟩⟩
    simp [printMembers, printString]
  | cons m ms =>
    simp only [printMembers, List.length_append, List.length_cons] at hfuel
    have hmore := h.members m ms d rest hm.2 (by omega)
    rw [← skipBlanks_printMembers] at hmore
    have hvalue := h.value v d (',' :: (printMembers (m :: ms) ++ '\x7d' :: rest)) hm.1 (by omega)
    have hnamed := hname (':' :: (print v ++ ',' :: (printMembers (m :: ms) ++ '\x7d' :: rest)))
    refine members_eq_ok_iff.2 ⟨_, k, _, _, _, _, ?_, hnamed, rfl, hvalue,
      .inr ⟨_, _, rfl, hmore, rfl⟩⟩
    simp [printMembers, printString]

theorem Reads.value_succ (h : Reads fuel) {v : Value} (hv : v.Fits d)
    (hfuel : 2 * (print v).length ≤ fuel + 1) :
    Json.value (fuel + 1) d (print v ++ rest) = .ok (v.canonical, rest) := by
  cases v with
  | null => unfold Json.value; rfl
  | bool b => cases b <;> unfold Json.value <;> rfl
  | int n => exact hv.elim
  | double x => exact hv.elim
  | string s =>
    exact value_eq_string_iff.2 ⟨[], _, by simp [Blanks], quotes_print s, rfl⟩
  | array items => exact h.array hv hfuel
  | object ms => exact h.object hv hfuel

theorem reads (fuel : Nat) : Reads fuel := by
  -- all three readings at once, since each calls another with one unit less
  induction fuel with
  | zero => exact .zero
  | succ fuel ih =>
    exact ⟨fun _ _ _ hv hfuel => ih.value_succ hv hfuel,
      fun _ _ _ _ hv hfuel => ih.elements_succ hv hfuel,
      fun _ _ _ _ hm hfuel => ih.members_succ hm hfuel⟩

/-- The compact text of a document without numbers is read back as the document. -/
theorem parse_compact {v : Value} (h : v.Fits nestingLimit) :
    Json.parse v.compact = .ok v.canonical := by
  refine parse_eq_ok_iff.2 ⟨[], ?_, by simp [Blanks]⟩
  rw [Value.compact, String.toList_ofList]
  have hread := (reads (2 * (print v).length + 2)).value v nestingLimit [] h (by omega)
  rwa [List.append_nil] at hread

/-! ## Members -/

theorem lookup_member (k : String) (v : Value) (ms : Members) (name : String) :
    List.lookup name ((k, v) :: ms) = if name = k then some v else ms.lookup name := by
  by_cases h : name = k
  · rw [if_pos h, List.lookup_cons, beq_iff_eq.2 h]
  · rw [if_neg h, List.lookup_cons, beq_eq_false_iff_ne.2 h]

theorem lookup_insertMember (k : String) (v : Value) (ms : Members) (name : String) :
    (insertMember k v ms).lookup name = if name = k then some v else ms.lookup name := by
  induction ms with
  | nil => exact lookup_member k v [] name
  | cons head rest ih =>
    obtain ⟨other, w⟩ := head
    unfold insertMember
    split
    · exact lookup_member k v _ name
    · next hlt =>
      split
      · -- the new member goes behind the first one
        next hgt =>
        rw [lookup_member, lookup_member, ih]
        by_cases h : name = other
        · have hne : name ≠ k := fun e => String.lt_irrefl k (by rwa [← h, e] at hgt)
          rw [if_pos h, if_neg hne, if_pos h]
        · rw [if_neg h, if_neg h]
      · -- the new member replaces the first one
        next hgt =>
        obtain rfl := eq_of_not_lt hlt hgt
        rw [lookup_member, lookup_member]
        split <;> rfl

/-- The last member of a name is the one of the object. -/
theorem member?_ofMembers (ms : Members) (name : String) :
    (Value.ofMembers ms).member? name = ms.reverse.lookup name := by
  induction ms using List.reverseRecOn with
  | nil => rfl
  | append_singleton ms m ih =>
    obtain ⟨k, v⟩ := m
    simp only [Value.ofMembers, Value.member?] at ih ⊢
    rw [List.reverse_append, List.reverse_singleton, List.singleton_append, lookup_member,
      List.foldl_append, List.foldl_cons, List.foldl_nil, lookup_insertMember, ih]

theorem lookup_map_member (g : Value → Value) (ms : Members) (name : String) :
    List.lookup name (ms.map fun m => (m.1, g m.2)) = (ms.lookup name).map g := by
  induction ms with
  | nil => rfl
  | cons m rest ih =>
    obtain ⟨k, v⟩ := m
    rw [List.map_cons, lookup_member, lookup_member, ih]
    split <;> rfl

/-- What is found in a document that is read back is what is found in the document. -/
theorem member?_canonical (ms : Members) (name : String) :
    (Value.object ms).canonical.member? name =
      (ms.reverse.lookup name).map Value.canonical := by
  rw [Value.canonical, member?_ofMembers, canonicalMembers_eq_map, ← List.map_reverse,
    lookup_map_member]

end AuthChain.Json

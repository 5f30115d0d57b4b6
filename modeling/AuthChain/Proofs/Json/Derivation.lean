import AuthChain.Json.Parser
import Mathlib.Data.List.TakeWhile

/-!
# Readings that succeed

What a reading that succeeds has found in its text. The first character that is no blank decides how
a value is read (`value_eq_ok_iff`), and the items of an array follow one another up to its bracket
(`elements_eq_ok_iff`).

Main statement: in a document that is read every object has its members in increasing order of their
names, so no name occurs twice (`ordered_of_parse`).
-/

namespace AuthChain.Json

variable {cs rest : List Char}

/-- What a reading gives after a first one comes from a first one that gave something. -/
theorem ok_of_bind {ε α β : Type} {x : Except ε α} {f : α → Except ε β} {b : β}
    (h : x >>= f = .ok b) : ∃ a, x = .ok a ∧ f a = .ok b := by
  cases x with
  | error e => exact nomatch (h : Except.error e = .ok b)
  | ok a => exact ⟨a, rfl, h⟩

theorem bind_of_ok {ε α β : Type} {x : Except ε α} {a : α} (h : x = .ok a)
    (f : α → Except ε β) : x >>= f = f a := by
  rw [h]
  rfl

theorem ok_of_map {ε α β : Type} {x : Except ε α} {f : α → β} {b : β}
    (h : x.map f = .ok b) : ∃ a, x = .ok a ∧ f a = b := by
  cases x with
  | error e => cases h
  | ok a => exact ⟨a, rfl, Except.ok.inj h⟩

/-! ## Blanks -/

/-- The characters are blanks of JSON. -/
def Blanks (cs : List Char) : Prop :=
  ∀ c ∈ cs, isBlank c = true

theorem blanks_append_iff {u v : List Char} : Blanks (u ++ v) ↔ Blanks u ∧ Blanks v :=
  List.forall_mem_append

theorem skipBlanks_eq_nil_iff : skipBlanks cs = [] ↔ Blanks cs :=
  List.dropWhile_eq_nil_iff

theorem skipBlanks_split (cs : List Char) : ∃ u, Blanks u ∧ cs = u ++ skipBlanks cs := by
  refine ⟨cs.takeWhile isBlank, ?_, List.takeWhile_append_dropWhile.symm⟩
  intro c hc
  exact List.mem_takeWhile_imp hc

theorem skipBlanks_append {u : List Char} (hu : Blanks u) (cs : List Char) :
    skipBlanks (u ++ cs) = skipBlanks cs :=
  List.dropWhile_append_of_pos hu

theorem skipBlanks_cons {c : Char} (hc : isBlank c = false) (cs : List Char) :
    skipBlanks (c :: cs) = c :: cs :=
  List.dropWhile_cons_of_neg (by simp [hc])

theorem isBlank_of_skipBlanks {c : Char} (h : skipBlanks cs = c :: rest) : isBlank c = false := by
  have hhead := List.head?_dropWhile_not isBlank cs
  rw [← skipBlanks, h] at hhead
  simpa using hhead

theorem skipBlanks_skipBlanks (cs : List Char) : skipBlanks (skipBlanks cs) = skipBlanks cs := by
  cases h : skipBlanks cs with
  | nil => rfl
  | cons c tail => exact skipBlanks_cons (isBlank_of_skipBlanks h) tail

theorem value_skipBlanks (fuel d : Nat) (cs : List Char) :
    value fuel d (skipBlanks cs) = value fuel d cs := by
  cases fuel with
  | zero => rfl
  | succ fuel =>
    unfold value
    rw [skipBlanks_skipBlanks]

theorem elements_skipBlanks (fuel d : Nat) (cs : List Char) :
    elements fuel d (skipBlanks cs) = elements fuel d cs := by
  cases fuel with
  | zero => rfl
  | succ fuel =>
    unfold elements
    rw [value_skipBlanks]

/-! ## Numbers -/

/-- The value is a number. -/
def Value.IsNumber : Value → Prop
  | .int _ => True
  | .double _ => True
  | _ => False

theorem isNumber_of_value? {n : Numeral} {v : Value} (h : n.value? = some v) : v.IsNumber := by
  have hdouble : ∀ {x? : Option Float} {negative : Bool},
      (x?.map fun x => Value.double (signed negative x)) = some v → v.IsNumber := by
    intro x? negative hx
    obtain ⟨x, -, rfl⟩ := Option.map_eq_some_iff.1 hx
    trivial
  unfold Numeral.value? at h
  dsimp only at h
  split at h
  · split at h
    · split at h
      · exact hdouble h
      · obtain rfl := Option.some.inj h
        trivial
    · split at h
      · obtain rfl := Option.some.inj h
        trivial
      · exact hdouble h
  · exact hdouble h

theorem isNumber_of_numberRest {negative : Bool} {v : Value}
    (h : numberRest negative cs = .ok (v, rest)) : v.IsNumber := by
  obtain ⟨⟨whole, behind⟩, -, h⟩ := ok_of_bind h
  obtain ⟨⟨fraction, behind⟩, -, h⟩ := ok_of_bind h
  obtain ⟨⟨exponent, behind⟩, -, h⟩ := ok_of_bind h
  dsimp only at h
  split at h
  · next hvalue =>
    cases h
    exact isNumber_of_value? hvalue
  · cases h

/-! ## Values by their first characters -/

/-- How a value is read whose first character and the characters behind it are given, with the
characters left. -/
inductive Began (fuel : Nat) : Nat → Char → List Char → Value → List Char → Prop
  | text {d tail rest s} (h : stringRest tail = .ok (s, rest)) :
      Began fuel d '"' tail (.string s) rest
  | noItems {d tail rest} (h : skipBlanks tail = ']' :: rest) :
      Began fuel (d + 1) '[' tail (.array []) rest
  | items {d tail rest items} (h : elements fuel d tail = .ok (items, rest)) :
      Began fuel (d + 1) '[' tail (.array items) rest
  | noMembers {d tail rest} (h : skipBlanks tail = '\x7d' :: rest) :
      Began fuel (d + 1) '\x7b' tail (.object []) rest
  | members {d tail rest entries} (h : members fuel d (skipBlanks tail) = .ok (entries, rest)) :
      Began fuel (d + 1) '\x7b' tail (.ofMembers entries) rest
  | null {d tail rest} (h : expect ['u', 'l', 'l'] tail = .ok rest) :
      Began fuel d 'n' tail .null rest
  | yes {d tail rest} (h : expect ['r', 'u', 'e'] tail = .ok rest) :
      Began fuel d 't' tail (.bool true) rest
  | no {d tail rest} (h : expect ['a', 'l', 's', 'e'] tail = .ok rest) :
      Began fuel d 'f' tail (.bool false) rest
  | negative {d tail rest v} (h : numberRest true tail = .ok (v, rest)) :
      Began fuel d '-' tail v rest
  | digit {d c tail rest v} (hc : c.isDigit = true)
      (h : numberRest false (c :: tail) = .ok (v, rest)) :
      Began fuel d c tail v rest

theorem began_of_value {fuel d : Nat} {v : Value} (h : value (fuel + 1) d cs = .ok (v, rest)) :
    ∃ c tail, skipBlanks cs = c :: tail ∧ Began fuel d c tail v rest := by
  unfold value at h
  split at h
  · cases h
  next c tail hskip =>
  refine ⟨c, tail, hskip, ?_⟩
  -- one split for each first character, in the order in which the reading compares them
  split at h
  · next hc =>
    subst hc
    obtain ⟨⟨s, behind⟩, htext, h⟩ := ok_of_bind h
    cases h
    exact .text htext
  split at h
  · next hc =>
    subst hc
    split at h
    · cases h
    · split at h
      · cases h
      · next hnone =>
        cases h
        exact .noItems hnone
      · obtain ⟨⟨items, behind⟩, hitems, h⟩ := ok_of_bind h
        cases h
        rw [elements_skipBlanks] at hitems
        exact .items hitems
  split at h
  · next hc =>
    subst hc
    split at h
    · cases h
    · split at h
      · cases h
      · next hnone =>
        cases h
        exact .noMembers hnone
      · obtain ⟨⟨entries, behind⟩, hentries, h⟩ := ok_of_bind h
        cases h
        exact .members hentries
  split at h
  · next hc =>
    subst hc
    obtain ⟨behind, hword, h⟩ := ok_of_map h
    cases h
    exact .null hword
  split at h
  · next hc =>
    subst hc
    obtain ⟨behind, hword, h⟩ := ok_of_map h
    cases h
    exact .yes hword
  split at h
  · next hc =>
    subst hc
    obtain ⟨behind, hword, h⟩ := ok_of_map h
    cases h
    exact .no hword
  split at h
  · next hc =>
    subst hc
    exact .negative h
  split at h
  · next hc => exact .digit hc h
  · cases h

/-- Items are not read where the array is at its end. -/
theorem elements_begin {fuel d : Nat} {items : List Value}
    (h : elements fuel d cs = .ok (items, rest)) :
    ∃ c tail, skipBlanks cs = c :: tail ∧ c ≠ ']' := by
  cases fuel with
  | zero => cases h
  | succ fuel =>
    obtain ⟨⟨v, behind⟩, hvalue, -⟩ := ok_of_bind h
    cases fuel with
    | zero => cases hvalue
    | succ fuel =>
      obtain ⟨c, tail, hskip, hbegan⟩ := began_of_value hvalue
      refine ⟨c, tail, hskip, ?_⟩
      rintro rfl
      cases hbegan with
      | digit hc _ => exact nomatch hc

theorem members_eq_quote {fuel d : Nat} {entries : Members}
    (h : members fuel d cs = .ok (entries, rest)) : ∃ tail, cs = '"' :: tail := by
  cases fuel with
  | zero => cases h
  | succ fuel =>
    unfold members at h
    split at h
    · exact ⟨_, rfl⟩
    · cases h

theorem value_of_began {fuel d : Nat} {c : Char} {tail : List Char} {v : Value}
    (hskip : skipBlanks cs = c :: tail) (h : Began fuel d c tail v rest) :
    value (fuel + 1) d cs = .ok (v, rest) := by
  unfold value
  rw [hskip]
  dsimp only
  cases h with
  | text htext =>
    rw [if_pos rfl, htext]
    rfl
  | noItems hnone =>
    rw [if_neg (by decide), if_pos rfl, hnone]
    rfl
  | items hitems =>
    obtain ⟨c, more, hbegin, hc⟩ := elements_begin hitems
    rw [if_neg (by decide), if_pos rfl]
    dsimp only
    split
    · next hend =>
      rw [hend] at hbegin
      cases hbegin
    · next hend =>
      rw [hend] at hbegin
      cases hbegin
      exact absurd rfl hc
    · rw [elements_skipBlanks, hitems]
      rfl
  | noMembers hnone =>
    rw [if_neg (by decide), if_neg (by decide), if_pos rfl, hnone]
    rfl
  | members hentries =>
    obtain ⟨more, hquote⟩ := members_eq_quote hentries
    rw [if_neg (by decide), if_neg (by decide), if_pos rfl]
    dsimp only
    split
    · next hend =>
      rw [hend] at hquote
      cases hquote
    · next hend =>
      rw [hend] at hquote
      cases hquote
    · rw [hentries]
      rfl
  | null hword =>
    rw [hword]
    rfl
  | yes hword =>
    rw [hword]
    rfl
  | no hword =>
    rw [hword]
    rfl
  | negative hnumber =>
    simpa using hnumber
  | digit hc hnumber =>
    have hne : ∀ k : Char, k.isDigit = false → c ≠ k := by
      rintro k hk rfl
      rw [hk] at hc
      cases hc
    rw [if_neg (hne _ rfl), if_neg (hne _ rfl), if_neg (hne _ rfl), if_neg (hne _ rfl),
      if_neg (hne _ rfl), if_neg (hne _ rfl), if_neg (hne _ rfl), if_pos hc, hnumber]

/-- A value is read just as its first character that is no blank has it. -/
theorem value_eq_ok_iff {fuel d : Nat} {v : Value} :
    value (fuel + 1) d cs = .ok (v, rest) ↔
      ∃ u c tail, Blanks u ∧ isBlank c = false ∧ cs = u ++ c :: tail ∧
        Began fuel d c tail v rest := by
  constructor
  · intro h
    obtain ⟨c, tail, hskip, hbegan⟩ := began_of_value h
    obtain ⟨u, hu, hsplit⟩ := skipBlanks_split cs
    rw [hskip] at hsplit
    exact ⟨u, c, tail, hu, isBlank_of_skipBlanks hskip, hsplit, hbegan⟩
  · rintro ⟨u, c, tail, hu, hc, rfl, h⟩
    refine value_of_began ?_ h
    rw [skipBlanks_append hu, skipBlanks_cons hc]

/-! ## Items and members -/

/-- Behind an item the array is at its end, or a comma comes and further items. -/
theorem elements_eq_ok_iff {fuel d : Nat} {items : List Value} :
    elements (fuel + 1) d cs = .ok (items, rest) ↔
      ∃ v behind, value fuel d cs = .ok (v, behind) ∧
        (skipBlanks behind = ']' :: rest ∧ items = [v] ∨
          ∃ tail more, skipBlanks behind = ',' :: tail ∧
            elements fuel d tail = .ok (more, rest) ∧ items = v :: more) := by
  constructor
  · intro h
    obtain ⟨⟨v, behind⟩, hvalue, h⟩ := ok_of_bind h
    refine ⟨v, behind, hvalue, ?_⟩
    dsimp only at h
    split at h
    · next tail hcomma =>
      split at h
      · cases h
      · obtain ⟨⟨more, last⟩, hmore, h⟩ := ok_of_bind h
        cases h
        rw [elements_skipBlanks] at hmore
        exact .inr ⟨tail, more, hcomma, hmore, rfl⟩
    · next hend =>
      cases h
      exact .inl ⟨hend, rfl⟩
    · cases h
  · rintro ⟨v, behind, hvalue, ⟨hend, rfl⟩ | ⟨tail, more, hcomma, hmore, rfl⟩⟩
    · unfold elements
      simp only [bind, Except.bind, hvalue, hend]
    · obtain ⟨c, last, hbegin, hc⟩ := elements_begin hmore
      unfold elements
      simp only [bind, Except.bind, hvalue, hcomma]
      split
      · next hend =>
        rw [hend] at hbegin
        cases hbegin
        exact absurd rfl hc
      · rw [elements_skipBlanks, hmore]

/-- A member has a name and a value, and behind it the object is at its end, or a comma comes and
further members. -/
theorem members_eq_ok_iff {fuel d : Nat} {entries : Members} :
    members (fuel + 1) d cs = .ok (entries, rest) ↔
      ∃ tail k behind later v last, cs = '"' :: tail ∧ stringRest tail = .ok (k, behind) ∧
        skipBlanks behind = ':' :: later ∧ value fuel d later = .ok (v, last) ∧
        (skipBlanks last = '\x7d' :: rest ∧ entries = [(k, v)] ∨
          ∃ next more, skipBlanks last = ',' :: next ∧
            members fuel d (skipBlanks next) = .ok (more, rest) ∧ entries = (k, v) :: more) := by
  constructor
  · intro h
    obtain ⟨tail, rfl⟩ := members_eq_quote h
    obtain ⟨⟨k, behind⟩, hname, h⟩ := ok_of_bind h
    dsimp only at h
    split at h
    · next later hcolon =>
      obtain ⟨⟨v, last⟩, hvalue, h⟩ := ok_of_bind h
      refine ⟨tail, k, behind, later, v, last, rfl, hname, hcolon, hvalue, ?_⟩
      dsimp only at h
      split at h
      · next next hcomma =>
        split at h
        · cases h
        · obtain ⟨⟨more, left⟩, hmore, h⟩ := ok_of_bind h
          cases h
          exact .inr ⟨next, more, hcomma, hmore, rfl⟩
      · next hend =>
        cases h
        exact .inl ⟨hend, rfl⟩
      · cases h
    · cases h
  · rintro ⟨tail, k, behind, later, v, last, rfl, hname, hcolon, hvalue, hnext⟩
    unfold members
    simp only [bind, Except.bind, hname, hcolon, hvalue]
    rcases hnext with ⟨hend, rfl⟩ | ⟨next, more, hcomma, hmore, rfl⟩
    · simp only [hend]
    · obtain ⟨quoted, hquote⟩ := members_eq_quote hmore
      rw [hquote] at hmore
      simp only [hcomma, hquote]
      split
      · next hend => cases hend
      · rw [hmore]

/-! ## Documents -/

/-- A document is a value with nothing but blanks behind it. -/
theorem parse_eq_ok_iff {text : String} {v : Value} :
    Json.parse text = .ok v ↔
      ∃ rest, value (2 * text.toList.length + 2) nestingLimit text.toList = .ok (v, rest) ∧
        Blanks rest := by
  unfold Json.parse parseWithin documentWithin
  constructor
  · intro h
    cases hvalue : value (2 * text.toList.length + 2) nestingLimit text.toList with
    | error stop =>
      rw [hvalue] at h
      cases h
    | ok read =>
      obtain ⟨w, rest⟩ := read
      rw [hvalue] at h
      simp only [bind, Except.bind] at h
      split at h
      · next hend =>
        cases h
        exact ⟨rest, rfl, skipBlanks_eq_nil_iff.1 hend⟩
      · cases h
  · rintro ⟨rest, hvalue, hrest⟩
    rw [hvalue]
    simp only [bind, Except.bind, skipBlanks_eq_nil_iff.2 hrest]
    rfl

/-! ## Members in order -/

mutual

/-- Every object in the document has its members in increasing order of their names. -/
def Value.Ordered : Value → Prop
  | .array items => ItemsOrdered items
  | .object members => members.Pairwise (fun a b => a.1 < b.1) ∧ MembersOrdered members
  | _ => True

def ItemsOrdered : List Value → Prop
  | [] => True
  | v :: rest => v.Ordered ∧ ItemsOrdered rest

def MembersOrdered : Members → Prop
  | [] => True
  | (_, v) :: rest => v.Ordered ∧ MembersOrdered rest

end

theorem itemsOrdered_iff (items : List Value) : ItemsOrdered items ↔ ∀ v ∈ items, v.Ordered := by
  induction items with
  | nil => simp [ItemsOrdered]
  | cons v rest ih => simp [ItemsOrdered, ih]

theorem membersOrdered_iff (ms : Members) : MembersOrdered ms ↔ ∀ m ∈ ms, m.2.Ordered := by
  induction ms with
  | nil => simp [MembersOrdered]
  | cons m rest ih => simp [MembersOrdered, ih]

theorem mem_insertMember {k : String} {v : Value} {ms : Members} {m : String × Value}
    (h : m ∈ insertMember k v ms) : m = (k, v) ∨ m ∈ ms := by
  induction ms with
  | nil => simpa [insertMember] using h
  | cons head rest ih =>
    unfold insertMember at h
    split at h
    · simpa using h
    · split at h
      · rcases List.mem_cons.1 h with h | h
        · exact .inr (by simp [h])
        · rcases ih h with h | h
          · exact .inl h
          · exact .inr (by simp [h])
      · rcases List.mem_cons.1 h with h | h
        · exact .inl h
        · exact .inr (by simp [h])

theorem insertMember_pairwise {k : String} {v : Value} {ms : Members}
    (h : ms.Pairwise (fun a b => a.1 < b.1)) :
    (insertMember k v ms).Pairwise (fun a b => a.1 < b.1) := by
  induction ms with
  | nil => simp [insertMember]
  | cons head rest ih =>
    obtain ⟨other, w⟩ := head
    obtain ⟨below, tail⟩ := List.pairwise_cons.1 h
    unfold insertMember
    split
    · next hlt =>
      refine List.pairwise_cons.2 ⟨fun m hm => ?_, h⟩
      rcases List.mem_cons.1 hm with rfl | hm
      · exact hlt
      · exact String.lt_trans hlt (below m hm)
    · next hlt =>
      split
      · next hgt =>
        refine List.pairwise_cons.2 ⟨fun m hm => ?_, ih tail⟩
        rcases mem_insertMember hm with rfl | hm
        · exact hgt
        · exact below m hm
      · next hgt =>
        have heq : k = other := String.le_antisymm (String.not_lt.1 hgt) (String.not_lt.1 hlt)
        subst heq
        exact List.pairwise_cons.2 ⟨below, tail⟩

theorem mem_of_mem_ofMembers {ms placed : Members} (h : Value.ofMembers ms = .object placed)
    {m : String × Value} (hm : m ∈ placed) : m ∈ ms := by
  suffices hfold : ∀ before : Members,
      m ∈ ms.foldl (fun ms m => insertMember m.1 m.2 ms) before → m ∈ before ∨ m ∈ ms by
    cases h
    exact (hfold [] hm).resolve_left List.not_mem_nil
  clear h hm
  induction ms with
  | nil => exact fun _ hm => .inl hm
  | cons first rest ih =>
    intro before hm
    rcases ih _ hm with hm | hm
    · rcases mem_insertMember hm with rfl | hm
      · exact .inr List.mem_cons_self
      · exact .inl hm
    · exact .inr (List.mem_cons_of_mem _ hm)

theorem ordered_ofMembers {ms : Members} (h : ∀ m ∈ ms, m.2.Ordered) :
    (Value.ofMembers ms).Ordered := by
  -- the members that are put in place so far are in order
  have hfold : ∀ placed : Members, placed.Pairwise (fun a b => a.1 < b.1) →
      (ms.foldl (fun ms m => insertMember m.1 m.2 ms) placed).Pairwise (fun a b => a.1 < b.1) := by
    clear h
    induction ms with
    | nil => exact fun placed hplaced => hplaced
    | cons m rest ih => exact fun placed hplaced => ih _ (insertMember_pairwise hplaced)
  exact ⟨hfold [] .nil, (membersOrdered_iff _).2 fun m hm => h m (mem_of_mem_ofMembers rfl hm)⟩

theorem ordered_of_isNumber {v : Value} (h : v.IsNumber) : v.Ordered := by
  cases v with
  | int n => trivial
  | double x => trivial
  | _ => exact h.elim

/-- What is read with so much fuel is in order. -/
structure ReadsOrdered (fuel : Nat) : Prop where
  value : ∀ d cs v rest, Json.value fuel d cs = .ok (v, rest) → v.Ordered
  elements : ∀ d cs items rest, Json.elements fuel d cs = .ok (items, rest) →
    ∀ v ∈ items, v.Ordered
  members : ∀ d cs entries rest, Json.members fuel d cs = .ok (entries, rest) →
    ∀ m ∈ entries, m.2.Ordered

theorem readsOrdered (fuel : Nat) : ReadsOrdered fuel := by
  induction fuel with
  | zero =>
    exact ⟨fun _ _ _ _ h => (nomatch h), fun _ _ _ _ h => (nomatch h),
      fun _ _ _ _ h => (nomatch h)⟩
  | succ fuel ih =>
    refine ⟨?_, ?_, ?_⟩
    · intro d cs v rest h
      obtain ⟨u, c, tail, -, -, -, hbegan⟩ := value_eq_ok_iff.1 h
      cases hbegan with
      | items hitems => exact (itemsOrdered_iff _).2 (ih.elements _ _ _ _ hitems)
      | noMembers => exact ⟨.nil, trivial⟩
      | members hentries => exact ordered_ofMembers (ih.members _ _ _ _ hentries)
      | negative hnumber => exact ordered_of_isNumber (isNumber_of_numberRest hnumber)
      | digit _ hnumber => exact ordered_of_isNumber (isNumber_of_numberRest hnumber)
      | _ => trivial
    · intro d cs items rest h
      obtain ⟨v, behind, hvalue, ⟨-, rfl⟩ | ⟨tail, more, -, hmore, rfl⟩⟩ := elements_eq_ok_iff.1 h
      · intro w hw
        rw [List.mem_singleton.1 hw]
        exact ih.value _ _ _ _ hvalue
      · intro w hw
        rcases List.mem_cons.1 hw with rfl | hw
        · exact ih.value _ _ _ _ hvalue
        · exact ih.elements _ _ _ _ hmore w hw
    · intro d cs entries rest h
      obtain ⟨tail, k, behind, later, v, last, -, -, -, hvalue, hnext⟩ := members_eq_ok_iff.1 h
      intro m hm
      rcases hnext with ⟨-, rfl⟩ | ⟨next, more, -, hmore, rfl⟩
      · rw [List.mem_singleton.1 hm]
        exact ih.value _ _ _ _ hvalue
      · rcases List.mem_cons.1 hm with rfl | hm
        · exact ih.value _ _ _ _ hvalue
        · exact ih.members _ _ _ _ hmore m hm

/-- In a document that is read every object has its members in increasing order of their names. -/
theorem ordered_of_parse {text : String} {v : Value} (h : Json.parse text = .ok v) : v.Ordered := by
  obtain ⟨rest, hvalue, -⟩ := parse_eq_ok_iff.1 h
  exact (readsOrdered _).value _ _ _ _ hvalue

end AuthChain.Json

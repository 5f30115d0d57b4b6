import AuthChain.Proofs.Config.Typing
import Mathlib.Data.List.Basic

/-!
# Lists as raw texts

A raw text stands for a list in one of two forms: as the JSON form of an array of texts, or as items
between commas, which may have blanks around them and empty pieces between them. The first character
that is no blank decides which form it is.

Main statements: both forms of a list give the list, and a raw text without a bracket in front gives
exactly what its pieces hold (`Provider.list_access_reads_both_forms`). Blanks around a raw text
change nothing, unless it is an array and there are blanks among them that JSON does not know: these
make the value of the key invalid (`Provider.surrounded_list_is_kept_iff`).
-/

namespace AuthChain.Config

open Json (Value Alone Lists)

/-! ## Items between commas -/

/-- An item of a list that can be written between commas. -/
structure Item (x : String) : Prop where
  nonempty : x ≠ ""
  unmarked : ',' ∉ x.toList
  trimmed : Text.trim x = x

/-- What the pieces of a text hold: each of them is an item with blanks on both sides, or holds
nothing but blanks. -/
inductive Padded : List String → List String → Prop
  | nil : Padded [] []
  | blank {u : String} {pieces xs : List String} (hu : Text.isBlankText u = true)
      (hmore : Padded pieces xs) : Padded (u :: pieces) xs
  | item {u x v : String} {pieces xs : List String} (hu : Text.isBlankText u = true)
      (hv : Text.isBlankText v = true) (hne : x ≠ "") (htrim : Text.trim x = x)
      (hmore : Padded pieces xs) : Padded ((u ++ x ++ v) :: pieces) (x :: xs)

/-- The pieces without the blanks around them and without empty ones. -/
def itemsOf (pieces : List String) : List String :=
  (pieces.map Text.trim).filter (· ≠ "")

section Pieces

variable {pieces xs : List String} {raw : String}

theorem itemsOf_cons_of_eq {piece : String} (h : Text.trim piece = "") (rest : List String) :
    itemsOf (piece :: rest) = itemsOf rest := by
  simp [itemsOf, h]

theorem itemsOf_cons_of_ne {piece : String} (h : Text.trim piece ≠ "") (rest : List String) :
    itemsOf (piece :: rest) = Text.trim piece :: itemsOf rest := by
  simp [itemsOf, h]

/-- Pieces hold exactly one list. -/
theorem padded_iff : Padded pieces xs ↔ xs = itemsOf pieces := by
  constructor
  · intro h
    induction h with
    | nil => rfl
    | blank hu _ ih => rw [itemsOf_cons_of_eq ((Text.isBlankText_iff _).1 hu), ih]
    | @item u x v pieces xs hu hv hne htrim _ ih =>
      have hpiece : Text.trim (u ++ x ++ v) = x := by rw [Text.trim_pad hu hv, htrim]
      rw [itemsOf_cons_of_ne (hpiece.symm ▸ hne), hpiece, ih]
  · rintro rfl
    induction pieces with
    | nil => exact .nil
    | cons piece rest ih =>
      -- what trimming leaves of a piece is its item, and what it takes away are the blanks around
      by_cases hblank : Text.trim piece = ""
      · rw [itemsOf_cons_of_eq hblank]
        exact .blank ((Text.isBlankText_iff piece).2 hblank) ih
      · obtain ⟨u, v, hu, hv, hpad⟩ := Text.exists_pad piece
        have hitem := Padded.item hu hv hblank (Text.trim_trim piece) ih
        rwa [← hpad, ← itemsOf_cons_of_ne hblank] at hitem

theorem commaList_eq (h : Text.Cut ',' raw pieces) : commaList raw = itemsOf pieces := by
  rw [Text.cut_iff] at h
  rw [h, commaList]
  induction raw.toList.splitOn ',' with
  | nil => rfl
  | cons piece rest ih =>
    have htrim : Text.trim (String.ofList piece) = String.ofList (Text.stripBlanks piece) := by
      rw [Text.trim, String.toList_ofList]
    rw [List.map_cons, List.map_cons]
    by_cases hblank : Text.stripBlanks piece = []
    · rw [itemsOf_cons_of_eq (by rw [htrim, hblank]), ← ih]
      simp [hblank]
    · have hne : String.ofList (Text.stripBlanks piece) ≠ "" := by simpa using hblank
      rw [itemsOf_cons_of_ne (htrim.symm ▸ hne), htrim, ← ih]
      simp [hblank]

theorem comma_notMem_of_isBlankText {u : String} (hu : Text.isBlankText u = true) :
    ',' ∉ u.toList := by
  intro hmem
  have hcomma := (Text.isBlankText_iff_blanks u).1 hu ',' hmem
  exact absurd hcomma (by decide)

/-- Pieces that are joined are found again when what they hold is free of commas. -/
theorem cut_of_padded (h : Padded pieces xs) (hitems : ∀ x ∈ xs, ',' ∉ x.toList)
    (hne : pieces ≠ []) : Text.Cut ',' (",".intercalate pieces) pieces := by
  refine ⟨hne, ?_, rfl⟩
  clear hne
  induction h with
  | nil => simp
  | blank hu _ ih => exact List.forall_mem_cons.2 ⟨comma_notMem_of_isBlankText hu, ih hitems⟩
  | item hu hv _ _ _ ih =>
    obtain ⟨hx, hxs⟩ := List.forall_mem_cons.1 hitems
    refine List.forall_mem_cons.2 ⟨?_, ih hxs⟩
    simp only [String.toList_append, List.mem_append, not_or]
    exact ⟨⟨comma_notMem_of_isBlankText hu, hx⟩, comma_notMem_of_isBlankText hv⟩

theorem intercalate_cons (piece : String) (rest : List String) :
    ∃ behind, (",".intercalate (piece :: rest)).toList = piece.toList ++ behind ∧
      (behind = [] ∨ ∃ later, behind = ',' :: later) := by
  cases rest with
  | nil => exact ⟨[], by simp, .inl rfl⟩
  | cons next more =>
    refine ⟨_, ?_, .inr ⟨(",".intercalate (next :: more)).toList, rfl⟩⟩
    rw [String.intercalate_cons_cons, String.toList_append, String.toList_append]
    simp

/-- Items between commas are not taken for an array when the first item has no bracket in front. -/
theorem head_of_padded (h : Padded pieces xs)
    (hfirst : ∀ x ∈ xs.head?, x.toList.head? ≠ some '[') :
    (Text.dropBlanks (",".intercalate pieces).toList).head? ≠ some '[' := by
  cases h with
  | nil => simp [Text.dropBlanks]
  | @blank u pieces _ hu _ =>
    obtain ⟨behind, hchars, hbehind⟩ := intercalate_cons u pieces
    rw [hchars, Text.dropBlanks_append ((Text.isBlankText_iff_blanks u).1 hu)]
    rcases hbehind with rfl | ⟨later, rfl⟩
    · simp [Text.dropBlanks]
    · rw [Text.dropBlanks_cons (by decide)]
      simp
  | @item u x v pieces _ hu _ hne htrim _ =>
    obtain ⟨behind, hchars, -⟩ := intercalate_cons (u ++ x ++ v) pieces
    obtain ⟨c, tail, hx, hc⟩ := Text.exists_head_of_trim hne htrim
    have hfirst : c ≠ '[' := by simpa [hx] using hfirst x rfl
    rw [hchars, String.toList_append, String.toList_append, List.append_assoc, List.append_assoc,
      Text.dropBlanks_append ((Text.isBlankText_iff_blanks u).1 hu), hx, List.cons_append,
      Text.dropBlanks_cons hc]
    simpa using hfirst

end Pieces

/-! ## Arrays of texts -/

section Arrays

variable {raw : String} {xs : List String}

theorem list_text_eq_ok_iff {v : Value} :
    Json.Decoder.list .text v = .ok xs ↔ v = Value.texts xs := by
  constructor
  · cases v with
    | array items =>
      intro h
      change items.mapM Json.Decoder.text = .ok xs at h
      rw [Value.texts]
      congr 1
      induction items generalizing xs with
      | nil =>
        cases h
        rfl
      | cons item rest ih =>
        rw [List.mapM_cons] at h
        obtain ⟨x, hitem, h⟩ := Json.ok_of_bind h
        obtain ⟨more, hrest, h⟩ := Json.ok_of_bind h
        cases h
        cases item with
        | string s =>
          cases hitem
          rw [List.map_cons, ih hrest]
        | _ => cases hitem
    | _ =>
      intro h
      cases h
  · rintro rfl
    exact list_text_texts xs

theorem blanks_of_json {u : List Char} (hu : Json.Blanks u) : Text.Blanks u := by
  intro c hc
  have hblank := hu c hc
  simp only [Json.isBlank, Bool.or_eq_true, beq_iff_eq] at hblank
  rcases hblank with ((rfl | rfl) | rfl) | rfl <;> decide

/-- An array starts with a bracket. -/
theorem head_of_lists {cs : List Char} (h : Alone (Lists xs) cs) :
    (Text.dropBlanks cs).head? = some '[' := by
  cases h with
  | between hu hw _ =>
    rw [Text.dropBlanks_append (blanks_of_json hu)]
    cases hw with
    | none _ => exact congrArg List.head? (Text.dropBlanks_cons rfl _)
    | some _ => exact congrArg List.head? (Text.dropBlanks_cons rfl _)

theorem interpretList_of_lists (key : String) (h : Alone (Lists xs) raw.toList) :
    interpretList key raw = .ok xs := by
  rw [interpretList, if_pos (head_of_lists h), interpret, Json.parse_eq_texts_iff.2 h]
  simp only [Except.toOption, Option.bind_some, list_text_texts]

/-- A raw text with a bracket in front is an array, or the value of the key is invalid. -/
theorem interpretList_of_not_lists (key : String)
    (hbracket : (Text.dropBlanks raw.toList).head? = some '[')
    (hnone : ∀ xs, ¬ Alone (Lists xs) raw.toList) :
    ∃ fault, interpretList key raw = .error (.invalidValue key fault) := by
  rw [interpretList, if_pos hbracket]
  have hretry : ∀ xs, Json.Decoder.list .text (.string raw) ≠ .ok xs := by
    rintro xs ⟨⟩
  rcases interpret_cases key hretry with ⟨v, xs, hparse, hdecode, -⟩ | ⟨-, hinvalid⟩
  · rw [list_text_eq_ok_iff.1 hdecode] at hparse
    exact absurd (Json.parse_eq_texts_iff.1 hparse) (hnone xs)
  · exact hinvalid

end Arrays

/-! ## Accesses to a raw text -/

section Access

variable {σ τ : Type} {p : Provider σ} {q : Provider τ} {key raw : String} {s : σ} {t : τ}

theorem Provider.getList_answer (h : ((p.getRaw key).run s).answer = .ok (some raw)) :
    ((p.getList key).run s).answer = (interpretList key raw).map some :=
  asking_answer h (interpretList key)

/-- What the access to a list makes of a raw text. -/
structure ReadsList (p : Provider σ) (key : String) (s : σ) (raw : String) : Prop where
  /-- Items that are joined by commas, with any blanks around them and any empty pieces between
  them, give the items. -/
  joined : ∀ pieces xs, (∀ x ∈ xs, Item x) → (∀ x ∈ xs.head?, x.toList.head? ≠ some '[') →
    Padded pieces xs → raw = ",".intercalate pieces →
      ((p.getList key).run s).answer = .ok (some xs)
  /-- The JSON form of an array of texts gives the texts, ... -/
  printed : ∀ xs, raw = (Value.texts xs).compact → ((p.getList key).run s).answer = .ok (some xs)
  /-- ... and so does every other way to write the array. -/
  array : ∀ xs, Alone (Lists xs) raw.toList → ((p.getList key).run s).answer = .ok (some xs)
  /-- Without a bracket in front, a raw text gives what its pieces between commas hold. -/
  pieces : (Text.dropBlanks raw.toList).head? ≠ some '[' →
    ∃ pieces xs, Text.Cut ',' raw pieces ∧ Padded pieces xs ∧
      ((p.getList key).run s).answer = .ok (some xs)

/-- A list is read from the JSON form of an array of texts and from items between commas alike, and
without a bracket in front every raw text is read as the latter. -/
theorem Provider.list_access_reads_both_forms
    (h : ((p.getRaw key).run s).answer = .ok (some raw)) : ReadsList p key s raw := by
  have hanswer := Provider.getList_answer h
  have hcomma : ∀ pieces, (Text.dropBlanks raw.toList).head? ≠ some '[' →
      Text.Cut ',' raw pieces → ((p.getList key).run s).answer = .ok (some (itemsOf pieces)) := by
    intro pieces hhead hcut
    rw [hanswer, interpretList, if_neg hhead, commaList_eq hcut]
    rfl
  refine ⟨?joined, ?printed, ?array, ?pieces⟩
  case joined =>
    rintro pieces xs hitems hfirst hpadded rfl
    have hhead := head_of_padded hpadded hfirst
    by_cases hne : pieces = []
    · -- joined without any piece, the raw text is cut into one that is empty
      subst hne
      cases hpadded
      exact hcomma [""] hhead ⟨by simp, by simp, rfl⟩
    · have hcut := cut_of_padded hpadded (fun x hx => (hitems x hx).unmarked) hne
      rw [hcomma pieces hhead hcut, padded_iff.1 hpadded]
  case printed =>
    rintro xs rfl
    rw [hanswer, interpretList_texts]
    rfl
  case array =>
    intro xs hlists
    rw [hanswer, interpretList_of_lists key hlists]
    rfl
  case pieces =>
    intro hhead
    obtain ⟨pieces, hcut⟩ := Text.exists_cut ',' raw
    exact ⟨pieces, itemsOf pieces, hcut, padded_iff.2 rfl, hcomma pieces hhead hcut⟩

/-- Items with blanks and empty pieces between them are read as their array. -/
theorem padded_items_are_read :
    let joined : Provider Unit := .fixed fun _ => .ok (some "\u00a0a, ,b\u2003,")
    let array : Provider Unit := .fixed fun _ => .ok (some "[\"a\",\"b\"]")
    ((joined.getRaw "roles").run ()).answer = .ok (some "\u00a0a, ,b\u2003,") ∧
      ((joined.getList "roles").run ()).answer = .ok (some ["a", "b"]) ∧
      ((array.getList "roles").run ()).answer = .ok (some ["a", "b"]) := by
  intro joined array
  have hraw : ((joined.getRaw "roles").run ()).answer = .ok (some "\u00a0a, ,b\u2003,") := rfl
  have hpadded : Padded ["\u00a0a", " ", "b\u2003", ""] ["a", "b"] := by
    refine .item (u := "\u00a0") (x := "a") (v := "") ?_ ?_ ?_ ?_ (.blank ?_
      (.item (u := "") (x := "b") (v := "\u2003") ?_ ?_ ?_ ?_ (.blank ?_ .nil))) <;> decide
  refine ⟨hraw, (Provider.list_access_reads_both_forms hraw).joined _ _ ?_ ?_ hpadded rfl,
    (Provider.list_access_reads_both_forms rfl).printed ["a", "b"] (by decide)⟩
  · intro x hx
    simp only [List.mem_cons, List.not_mem_nil, or_false] at hx
    rcases hx with rfl | rfl
    · exact ⟨by decide, by decide, by decide⟩
    · exact ⟨by decide, by decide, by decide⟩
  · decide

end Access

/-! ## Blanks around an array -/

section Surroundings

variable {xs : List String}

/-- What stands in front of the first mark is the same on both sides. -/
theorem eq_of_append_mark {mark : Char} {a b x y : List Char} (ha : mark ∉ a) (hb : mark ∉ b)
    (h : a ++ mark :: x = b ++ mark :: y) : a = b ∧ x = y := by
  rcases List.append_eq_append_iff.1 h with ⟨c, rfl, hc⟩ | ⟨c, rfl, hc⟩
  · cases c with
    | nil => simpa using hc
    | cons d c =>
      rw [List.cons_append, List.cons_eq_cons] at hc
      simp [hc.1] at hb
  · cases c with
    | nil => simpa [eq_comm] using hc
    | cons d c =>
      rw [List.cons_append, List.cons_eq_cons] at hc
      simp [hc.1] at ha

/-- What stands behind the last mark ends with every text without the mark that is at the end. -/
theorem exists_behind_mark {mark : Char} {a b x v : List Char} (hv : mark ∉ v)
    (h : a ++ v = (x ++ [mark]) ++ b) : ∃ d, a = (x ++ [mark]) ++ d ∧ b = d ++ v := by
  rcases List.append_eq_append_iff.1 h with ⟨c, hc, rfl⟩ | ⟨d, ha, hb⟩
  · rcases List.eq_nil_or_concat' c with rfl | ⟨front, last, rfl⟩
    · exact ⟨[], by simpa using hc.symm, rfl⟩
    · rw [← List.append_assoc] at hc
      obtain ⟨-, hlast⟩ := List.append_inj' hc rfl
      obtain rfl := List.singleton_inj.1 hlast
      simp at hv
  · exact ⟨d, ha, hb⟩

theorem lists_brackets {w : List Char} (h : Lists xs w) : ∃ m, w = '[' :: (m ++ [']']) := by
  cases h with
  | none _ => exact ⟨_, rfl⟩
  | some _ => exact ⟨_, rfl⟩

/-- An array with blanks around it is read just when JSON knows the blanks: it is found between the
first and the last bracket, and no blank is one. -/
theorem alone_lists_append_iff {u r v : List Char} (hu : Text.Blanks u) (hv : Text.Blanks v)
    (hbracket : (Text.dropBlanks r).head? = some '[') :
    Alone (Lists xs) (u ++ (r ++ v)) ↔ Json.Blanks u ∧ Json.Blanks v ∧ Alone (Lists xs) r := by
  have hopening : ∀ {cs : List Char}, Text.Blanks cs → '[' ∉ cs :=
    fun hcs hmem => absurd (hcs _ hmem) (by decide)
  have hclosing : ∀ {cs : List Char}, Text.Blanks cs → ']' ∉ cs :=
    fun hcs hmem => absurd (hcs _ hmem) (by decide)
  constructor
  · intro h
    obtain ⟨b, hb, hfront⟩ := Text.dropBlanks_split r
    obtain ⟨tail, htail⟩ := List.head?_eq_some_iff.1 hbracket
    rw [htail] at hfront
    subst hfront
    generalize hchars : u ++ ((b ++ '[' :: tail) ++ v) = cs at h
    cases h with
    | @between a w c ha hw hc =>
      -- the first opening bracket ends what is in front, the last closing one begins what is behind
      obtain ⟨m, rfl⟩ := lists_brackets hw
      have hcut : (u ++ b) ++ '[' :: (tail ++ v) = a ++ '[' :: ((m ++ [']']) ++ c) := by
        simpa using hchars
      have hub : '[' ∉ u ++ b := by
        rw [List.mem_append, not_or]
        exact ⟨hopening hu, hopening hb⟩
      obtain ⟨rfl, hback⟩ := eq_of_append_mark hub (hopening (blanks_of_json ha)) hcut
      obtain ⟨d, rfl, rfl⟩ := exists_behind_mark (hclosing hv) hback
      obtain ⟨hju, hjb⟩ := Json.blanks_append_iff.1 ha
      obtain ⟨hjd, hjv⟩ := Json.blanks_append_iff.1 hc
      exact ⟨hju, hjv, by simpa using Alone.between hjb hw hjd⟩
  · rintro ⟨hju, hjv, ⟨ha, hw, hc⟩⟩
    have hbetween := Alone.between (Json.blanks_append_iff.2 ⟨hju, ha⟩) hw
      (Json.blanks_append_iff.2 ⟨hc, hjv⟩)
    simpa using hbetween

end Surroundings

/-! ## Blanks around a raw text -/

section Padding

variable {key u r v : String}

theorem commaList_pad (hu : Text.isBlankText u = true) (hv : Text.isBlankText v = true) :
    commaList (u ++ r ++ v) = commaList r := by
  obtain ⟨pieces, hcut⟩ := Text.exists_cut ',' r
  obtain ⟨piece, rest, rfl⟩ := List.exists_cons_of_ne_nil hcut.nonempty
  have hfront := hcut.pad_front (comma_notMem_of_isBlankText hu)
  obtain hnil | ⟨front, last, hlast⟩ := List.eq_nil_or_concat' ((u ++ piece) :: rest)
  · cases hnil
  rw [hlast] at hfront
  -- the padded text is cut into the same pieces, with blanks at the first and at the last
  have hback := hfront.pad_back (comma_notMem_of_isBlankText hv)
  rw [commaList_eq hback, commaList_eq hcut, itemsOf, itemsOf]
  congr 1
  have htrimmed : ∀ x, Text.trim (x ++ v) = Text.trim x := fun x => by
    simpa using Text.trim_pad (u := "") rfl hv x
  have hpiece : Text.trim (u ++ piece) = Text.trim piece := by
    simpa using Text.trim_pad (v := "") hu rfl piece
  calc (front ++ [last ++ v]).map Text.trim
      = (front ++ [last]).map Text.trim := by simp [htrimmed]
    _ = ((u ++ piece) :: rest).map Text.trim := by rw [hlast]
    _ = (piece :: rest).map Text.trim := by simp [hpiece]

/-- Two accesses give the same list, or both find the value of the key invalid. -/
inductive SameList (key : String) :
    Except ConfigError (Option (List String)) → Except ConfigError (Option (List String)) → Prop
  | given (xs : List String) : SameList key (.ok (some xs)) (.ok (some xs))
  | invalid (f g : ValueFault) :
      SameList key (.error (.invalidValue key f)) (.error (.invalidValue key g))

/-- What becomes of a list when blanks are put around its raw text. -/
structure Surrounded (key u r v : String)
    (plain padded : Except ConfigError (Option (List String))) : Prop where
  /-- The list is kept, unless the raw text is an array and JSON does not know the blanks. -/
  kept_iff : SameList key plain padded ↔
    (Json.Blanks u.toList ∧ Json.Blanks v.toList) ∨ ∀ xs, ¬ Alone (Lists xs) r.toList
  /-- Such blanks make the list of an array invalid. -/
  hidden : ∀ xs, Alone (Lists xs) r.toList → ¬ (Json.Blanks u.toList ∧ Json.Blanks v.toList) →
    plain = .ok (some xs) ∧ ∃ fault, padded = .error (.invalidValue key fault)

theorem head_pad (hu : Text.isBlankText u = true) (hv : Text.isBlankText v = true) :
    (Text.dropBlanks (u ++ r ++ v).toList).head? = (Text.dropBlanks r.toList).head? := by
  rw [Text.isBlankText_iff_blanks] at hu hv
  rw [String.toList_append, String.toList_append, List.append_assoc,
    Text.head?_dropBlanks_pad hu hv]

theorem alone_lists_pad_iff {xs : List String} (hu : Text.isBlankText u = true)
    (hv : Text.isBlankText v = true) (hbracket : (Text.dropBlanks r.toList).head? = some '[') :
    Alone (Lists xs) (u ++ r ++ v).toList ↔
      (Json.Blanks u.toList ∧ Json.Blanks v.toList) ∧ Alone (Lists xs) r.toList := by
  rw [Text.isBlankText_iff_blanks] at hu hv
  rw [String.toList_append, String.toList_append, List.append_assoc, and_assoc]
  exact alone_lists_append_iff hu hv hbracket

/-- What is no array stays what it is. -/
theorem sameList_of_not_lists (hu : Text.isBlankText u = true) (hv : Text.isBlankText v = true)
    (hnone : ∀ xs, ¬ Alone (Lists xs) r.toList) :
    SameList key ((interpretList key r).map some) ((interpretList key (u ++ r ++ v)).map some) := by
  by_cases hbracket : (Text.dropBlanks r.toList).head? = some '['
  · have hpadded : ∀ xs, ¬ Alone (Lists xs) (u ++ r ++ v).toList :=
      fun xs h => hnone xs ((alone_lists_pad_iff hu hv hbracket).1 h).2
    obtain ⟨f, hplain⟩ := interpretList_of_not_lists key hbracket hnone
    obtain ⟨g, hinvalid⟩ := interpretList_of_not_lists key ((head_pad hu hv).trans hbracket) hpadded
    rw [hplain, hinvalid]
    exact .invalid f g
  · have hcomma := (head_pad hu hv).trans_ne hbracket
    rw [interpretList, interpretList, if_neg hbracket, if_neg hcomma, commaList_pad hu hv]
    exact .given _

theorem surrounded_interpretList (hu : Text.isBlankText u = true) (hv : Text.isBlankText v = true) :
    Surrounded key u r v ((interpretList key r).map some)
      ((interpretList key (u ++ r ++ v)).map some) := by
  have hidden : ∀ xs, Alone (Lists xs) r.toList →
      ¬ (Json.Blanks u.toList ∧ Json.Blanks v.toList) →
        ∃ fault, interpretList key (u ++ r ++ v) = .error (.invalidValue key fault) := by
    intro xs hlists hforeign
    have hbracket := head_of_lists hlists
    refine interpretList_of_not_lists key ((head_pad hu hv).trans hbracket) fun ys h => ?_
    exact hforeign ((alone_lists_pad_iff hu hv hbracket).1 h).1
  refine ⟨⟨fun hsame => ?_, fun hkept => ?_⟩, fun xs hlists hforeign => ?_⟩
  · by_contra hcon
    rw [not_or, not_forall_not] at hcon
    obtain ⟨hforeign, xs, hlists⟩ := hcon
    obtain ⟨fault, hinvalid⟩ := hidden xs hlists hforeign
    rw [interpretList_of_lists key hlists, hinvalid] at hsame
    cases hsame
  · by_cases harray : ∃ xs, Alone (Lists xs) r.toList
    · obtain ⟨xs, hlists⟩ := harray
      have hjson := hkept.resolve_right fun hnone => hnone xs hlists
      have hpadded := (alone_lists_pad_iff hu hv (head_of_lists hlists)).2 ⟨hjson, hlists⟩
      rw [interpretList_of_lists key hlists, interpretList_of_lists key hpadded]
      exact .given xs
    · exact sameList_of_not_lists hu hv fun xs h => harray ⟨xs, h⟩
  · obtain ⟨fault, hinvalid⟩ := hidden xs hlists hforeign
    rw [interpretList_of_lists key hlists, hinvalid]
    exact ⟨rfl, fault, rfl⟩

end Padding

section Access

variable {σ τ : Type} {p : Provider σ} {q : Provider τ} {s : σ} {t : τ} {key u r v : String}

/-- Blanks around a raw text leave its list as it is, unless it is an array and JSON does not know
the blanks. -/
theorem Provider.surrounded_list_is_kept_iff (hu : Text.isBlankText u = true)
    (hv : Text.isBlankText v = true) (hplain : ((p.getRaw key).run s).answer = .ok (some r))
    (hpadded : ((q.getRaw key).run t).answer = .ok (some (u ++ r ++ v))) :
    Surrounded key u r v ((p.getList key).run s).answer ((q.getList key).run t).answer := by
  rw [Provider.getList_answer hplain, Provider.getList_answer hpadded]
  exact surrounded_interpretList hu hv

/-- A no-break space hides an array, and a line end does not. -/
theorem no_break_space_hides_list :
    let raw : String → Provider Unit := fun text => .fixed fun _ => .ok (some text)
    let plain := (((raw "[\"a\"]").getList "roles").run ()).answer
    let led := (((raw "\u00a0[\"a\"]").getList "roles").run ()).answer
    let closed := (((raw "[\"a\"]\n").getList "roles").run ()).answer
    plain = .ok (some ["a"]) ∧ (∃ fault, led = .error (.invalidValue "roles" fault)) ∧
      SameList "roles" plain closed := by
  intro raw plain led closed
  have hlists : Alone (Lists ["a"]) "[\"a\"]".toList := by
    have hcompact : (Value.texts ["a"]).compact = "[\"a\"]" := by decide
    rw [← Json.parse_eq_texts_iff, ← hcompact, Json.parse_compact (fits_texts _ (by decide)),
      canonical_texts]
  have hled : Surrounded "roles" "\u00a0" "[\"a\"]" "" plain led :=
    Provider.surrounded_list_is_kept_iff (by decide) rfl rfl rfl
  have hclosed : Surrounded "roles" "" "[\"a\"]" "\n" plain closed :=
    Provider.surrounded_list_is_kept_iff rfl (by decide) rfl rfl
  have hforeign : ¬ (Json.Blanks "\u00a0".toList ∧ Json.Blanks "".toList) := by
    rintro ⟨h, -⟩
    exact absurd (h '\u00a0' (by decide)) (by decide)
  have hknown : Json.Blanks "".toList ∧ Json.Blanks "\n".toList := by
    constructor <;> simp [Json.Blanks, Json.isBlank]
  obtain ⟨hplain, hinvalid⟩ := hled.hidden ["a"] hlists hforeign
  exact ⟨hplain, hinvalid, hclosed.kept_iff.2 (.inl hknown)⟩

end Access

end AuthChain.Config

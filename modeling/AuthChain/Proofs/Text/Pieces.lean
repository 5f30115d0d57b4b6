import AuthChain.Text.Blank
import Mathlib.Data.List.TakeWhile

/-!
# Trimmed texts and texts in pieces

A text is what trimming leaves of it, with blanks on both sides, and trimming takes away any blanks
that are put around a text. Every text is cut at a mark in exactly one way: into pieces without the
mark which the mark joins to the text (`cut_iff`).
-/

namespace AuthChain.Text

/-! ## Texts of blanks -/

/-- Nothing but blanks. -/
def Blanks (cs : List Char) : Prop :=
  ∀ c ∈ cs, isBlank c = true

variable {cs u v : List Char}

theorem isBlankText_iff_blanks (s : String) : isBlankText s = true ↔ Blanks s.toList :=
  List.all_eq_true

theorem dropBlanks_eq_nil_iff : dropBlanks cs = [] ↔ Blanks cs :=
  List.dropWhile_eq_nil_iff

theorem dropBlanks_split (cs : List Char) : ∃ u, Blanks u ∧ cs = u ++ dropBlanks cs := by
  refine ⟨cs.takeWhile isBlank, ?_, List.takeWhile_append_dropWhile.symm⟩
  intro c hc
  exact List.mem_takeWhile_imp hc

theorem dropBlanks_append (hu : Blanks u) (cs : List Char) :
    dropBlanks (u ++ cs) = dropBlanks cs :=
  List.dropWhile_append_of_pos hu

theorem dropBlanks_cons {c : Char} (hc : isBlank c = false) (cs : List Char) :
    dropBlanks (c :: cs) = c :: cs :=
  List.dropWhile_cons_of_neg (by simp [hc])

/-- A text that does not only hold blanks keeps what stands behind it. -/
theorem dropBlanks_append_of_ne_nil (hcs : dropBlanks cs ≠ []) (v : List Char) :
    dropBlanks (cs ++ v) = dropBlanks cs ++ v := by
  have hrest : ¬ (cs.dropWhile isBlank).isEmpty = true := fun h => hcs (List.isEmpty_iff.1 h)
  rw [dropBlanks, List.dropWhile_append, if_neg hrest]
  rfl

/-- Blanks around a text leave its first character that is none. -/
theorem head?_dropBlanks_pad (hu : Blanks u) (hv : Blanks v) (cs : List Char) :
    (dropBlanks (u ++ (cs ++ v))).head? = (dropBlanks cs).head? := by
  rw [dropBlanks_append hu]
  by_cases hcs : dropBlanks cs = []
  · rw [dropBlanks_append (dropBlanks_eq_nil_iff.1 hcs), dropBlanks_eq_nil_iff.2 hv, hcs]
  · rw [dropBlanks_append_of_ne_nil hcs, List.head?_append]
    cases hrest : dropBlanks cs with
    | nil => exact absurd hrest hcs
    | cons c rest => rfl

/-! ## Trimmed texts -/

theorem stripBlanks_of_blanks (hcs : Blanks cs) : stripBlanks cs = [] := by
  rw [stripBlanks, dropBlanks_eq_nil_iff.2 hcs]
  rfl

/-- Blanks around a text are taken away. -/
theorem stripBlanks_append (hu : Blanks u) (hv : Blanks v) (cs : List Char) :
    stripBlanks (u ++ (cs ++ v)) = stripBlanks cs := by
  rw [stripBlanks, dropBlanks_append hu]
  by_cases hcs : dropBlanks cs = []
  · have hblank : Blanks cs := dropBlanks_eq_nil_iff.1 hcs
    rw [dropBlanks_append hblank, dropBlanks_eq_nil_iff.2 hv, stripBlanks, hcs]
  · have hback : Blanks v.reverse := fun c hc => hv c (List.mem_reverse.1 hc)
    rw [dropBlanks_append_of_ne_nil hcs, List.reverse_append, dropBlanks_append hback, stripBlanks]

/-- Only blanks are taken away. -/
theorem stripBlanks_split (cs : List Char) :
    ∃ u v, Blanks u ∧ Blanks v ∧ cs = u ++ (stripBlanks cs ++ v) := by
  obtain ⟨u, hu, hfront⟩ := dropBlanks_split cs
  obtain ⟨v, hv, hback⟩ := dropBlanks_split (dropBlanks cs).reverse
  refine ⟨u, v.reverse, hu, fun c hc => hv c (List.mem_reverse.1 hc), ?_⟩
  rw [stripBlanks, ← List.reverse_append, ← hback, List.reverse_reverse]
  exact hfront

theorem stripBlanks_eq_nil_iff : stripBlanks cs = [] ↔ Blanks cs := by
  refine ⟨fun h => ?_, stripBlanks_of_blanks⟩
  obtain ⟨u, v, hu, hv, hsplit⟩ := stripBlanks_split cs
  rw [hsplit, h]
  rintro c hc
  rcases List.mem_append.1 hc with hc | hc
  · exact hu c hc
  · exact hv c hc

/-- A text holds nothing but blanks just when nothing is left of it without the blanks at its
ends. -/
theorem isBlankText_iff (s : String) : isBlankText s = true ↔ trim s = "" := by
  rw [isBlankText_iff_blanks, ← stripBlanks_eq_nil_iff, trim, String.ofList_eq_empty_iff]

theorem trim_pad {u v : String} (hu : isBlankText u = true) (hv : isBlankText v = true)
    (x : String) : trim (u ++ x ++ v) = trim x := by
  rw [isBlankText_iff_blanks] at hu hv
  rw [trim, String.toList_append, String.toList_append, List.append_assoc,
    stripBlanks_append hu hv]
  rfl

/-- A text is what is left of it with blanks on both sides. -/
theorem exists_pad (x : String) :
    ∃ u v, isBlankText u = true ∧ isBlankText v = true ∧ x = u ++ trim x ++ v := by
  obtain ⟨u, v, hu, hv, hsplit⟩ := stripBlanks_split x.toList
  refine ⟨String.ofList u, String.ofList v, ?_, ?_, ?_⟩
  · rwa [isBlankText_iff_blanks, String.toList_ofList]
  · rwa [isBlankText_iff_blanks, String.toList_ofList]
  · apply String.toList_inj.1
    simp only [trim, String.toList_append, String.toList_ofList, List.append_assoc]
    exact hsplit

/-- A text with nothing to trim starts with a character that is no blank. -/
theorem exists_head_of_trim {x : String} (hne : x ≠ "") (htrim : trim x = x) :
    ∃ c tail, x.toList = c :: tail ∧ isBlank c = false := by
  have hstrip : stripBlanks x.toList = x.toList := by
    rw [← String.toList_ofList (l := stripBlanks x.toList)]
    exact congrArg String.toList htrim
  cases hchars : x.toList with
  | nil => exact absurd (String.toList_eq_nil_iff.1 hchars) hne
  | cons c tail =>
    refine ⟨c, tail, rfl, ?_⟩
    by_contra hc
    have hblank : Blanks [c] := by simpa [Blanks] using hc
    have hshort : stripBlanks (c :: tail) = stripBlanks tail := by
      simpa using stripBlanks_append hblank (v := []) (by simp [Blanks]) tail
    obtain ⟨u, v, -, -, hsplit⟩ := stripBlanks_split tail
    have hlength := congrArg List.length hsplit
    rw [← hshort, ← hchars, hstrip, hchars] at hlength
    simp only [List.length_append, List.length_cons] at hlength
    omega

theorem trim_trim (x : String) : trim (trim x) = trim x := by
  obtain ⟨u, v, hu, hv, hsplit⟩ := exists_pad x
  have hpad := trim_pad hu hv (trim x)
  rw [← hsplit] at hpad
  exact hpad.symm

/-! ## Pieces -/

/-- A text is cut at a mark into pieces: they do not hold the mark, and it joins them to the
text. -/
structure Cut (mark : Char) (text : String) (pieces : List String) : Prop where
  nonempty : pieces ≠ []
  unmarked : ∀ piece ∈ pieces, mark ∉ piece.toList
  joined : (String.singleton mark).intercalate pieces = text

theorem not_mem_of_mem_splitOn {mark : Char} {piece : List Char}
    (h : piece ∈ cs.splitOn mark) : mark ∉ piece := by
  induction cs generalizing piece with
  | nil =>
    rw [List.splitOn_nil, List.mem_singleton] at h
    simp [h]
  | cons c rest ih =>
    rw [List.splitOn_cons_eq_if_modifyHead] at h
    split at h
    · rcases List.mem_cons.1 h with rfl | h
      · exact List.not_mem_nil
      · exact ih h
    · next hc =>
      obtain ⟨first, later, hsplit⟩ := List.exists_cons_of_ne_nil (List.splitOn_ne_nil mark rest)
      rw [hsplit, List.modifyHead_cons] at h
      rcases List.mem_cons.1 h with rfl | h
      · have hfirst : mark ∉ first := ih (hsplit ▸ List.mem_cons_self)
        rw [List.mem_cons, not_or]
        exact ⟨fun h => hc (by simp [h]), hfirst⟩
      · exact ih (hsplit ▸ List.mem_cons_of_mem _ h)

/-- There is exactly one way to cut a text. -/
theorem cut_iff {mark : Char} {text : String} {pieces : List String} :
    Cut mark text pieces ↔ pieces = (text.toList.splitOn mark).map String.ofList := by
  have hchars : ∀ ps : List String,
      ((String.singleton mark).intercalate ps).toList = [mark].intercalate (ps.map String.toList) :=
    fun ps => by rw [String.toList_intercalate, String.toList_singleton]
  constructor
  · rintro ⟨hne, hmark, rfl⟩
    rw [hchars, List.splitOn_intercalate mark (by simpa using hmark) (by simpa using hne),
      List.map_map]
    simp
  · rintro rfl
    refine ⟨by simp [List.splitOn_ne_nil], ?_, ?_⟩
    · intro piece hpiece
      obtain ⟨p, hp, rfl⟩ := List.mem_map.1 hpiece
      rw [String.toList_ofList]
      exact not_mem_of_mem_splitOn hp
    · apply String.toList_inj.1
      rw [hchars, List.map_map]
      simp [Function.comp_def, List.intercalate_splitOn]

namespace Cut

variable {mark : Char} {text piece u v : String} {rest front : List String}

/-- What is put in front of a text is in front of its first piece. -/
theorem pad_front (h : Cut mark text (piece :: rest)) (hu : mark ∉ u.toList) :
    Cut mark (u ++ text) ((u ++ piece) :: rest) := by
  obtain ⟨hpiece, hrest⟩ := List.forall_mem_cons.1 h.unmarked
  refine ⟨List.cons_ne_nil _ _, List.forall_mem_cons.2 ⟨?_, hrest⟩, ?_⟩
  · rw [String.toList_append, List.mem_append, not_or]
    exact ⟨hu, hpiece⟩
  · rw [String.intercalate_cons_append, h.joined]

/-- What is put behind a text is behind its last piece. -/
theorem pad_back (h : Cut mark text (front ++ [piece])) (hv : mark ∉ v.toList) :
    Cut mark (text ++ v) (front ++ [piece ++ v]) := by
  obtain ⟨hfront, hpiece⟩ := List.forall_mem_append.1 h.unmarked
  rw [List.forall_mem_singleton] at hpiece
  refine ⟨by simp, List.forall_mem_append.2 ⟨hfront, ?_⟩, ?_⟩
  · rw [List.forall_mem_singleton, String.toList_append, List.mem_append, not_or]
    exact ⟨hpiece, hv⟩
  · rw [← h.joined]
    by_cases hne : front = []
    · simp [hne]
    · have hlast : ∀ p : String, (String.singleton mark).intercalate (front ++ [p]) =
          (String.singleton mark).intercalate front ++ String.singleton mark ++ p := by
        intro p
        rw [String.intercalate_append_of_ne_nil hne (List.cons_ne_nil _ _),
          String.intercalate_singleton]
      rw [hlast, hlast]
      simp only [String.append_assoc]

end Cut

theorem exists_cut (mark : Char) (text : String) : ∃ pieces, Cut mark text pieces :=
  ⟨_, cut_iff.2 rfl⟩

end AuthChain.Text

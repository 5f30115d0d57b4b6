import AuthChain.Build.Processors

/-!
# Objects on their way through processors

Processors are sorted again with each addition, those of all types together, and are picked by type
when an object comes. What a stable sort gives is told apart from how it is made: the processors in
ascending order, those of one order as they came (`StablySorts`). This determines the result, goes on
along further additions and holds of the processors of one type.

Main statement: an object passes the processors of its type as one stable sort of their additions
gives them, whatever was added for other types (`PostProcessors.apply_ofAdditions`).
-/

namespace AuthChain.Build

variable {U : Type} {V : U → Type}

/-! ## Stable sorts -/

/-- The processors in ascending order, each as often as before and those of one order as they
came. -/
structure StablySorts (given sorted : List (PostProcessor V)) : Prop where
  perm : sorted.Perm given
  ascending : sorted.Pairwise fun p q => p.order ≤ q.order
  ties : ∀ n, (sorted.filter fun p => p.order == n) = given.filter fun p => p.order == n

namespace StablySorts

variable {given more sorted again : List (PostProcessor V)}

theorem nil : StablySorts ([] : List (PostProcessor V)) [] :=
  ⟨.refl _, .nil, fun _ => rfl⟩

theorem head_le {p q : PostProcessor V} {rest : List (PostProcessor V)}
    (h : (p :: rest).Pairwise fun p q => p.order ≤ q.order) (hq : q ∈ p :: rest) :
    p.order ≤ q.order := by
  rcases List.mem_cons.1 hq with rfl | hmem
  · exact Int.le_refl _
  · exact List.rel_of_pairwise_cons h hmem

/-- There is one stable sort of the given processors. -/
theorem unique (h : StablySorts given sorted) (k : StablySorts given again) : sorted = again := by
  have hties : ∀ n, (sorted.filter fun p => p.order == n) = again.filter fun p => p.order == n :=
    fun n => (h.ties n).trans (k.ties n).symm
  have hperm := h.perm.trans k.perm.symm
  have hsorted := h.ascending
  have hagain := k.ascending
  clear h k
  induction sorted generalizing again with
  | nil => exact hperm.nil_eq
  | cons p rest ih =>
    cases again with
    | nil => exact absurd hperm.symm.nil_eq (List.cons_ne_nil p rest).symm
    | cons q others =>
      -- both heads are least, so they are of one order and come first in it
      have hqp : q.order ≤ p.order := head_le hagain (hperm.subset List.mem_cons_self)
      have hpq : p.order ≤ q.order := head_le hsorted (hperm.symm.subset List.mem_cons_self)
      have horder : q.order = p.order := Int.le_antisymm hqp hpq
      have hhead := hties p.order
      simp only [List.filter_cons, horder, beq_self_eq_true, if_true] at hhead
      obtain rfl : p = q := (List.cons.inj hhead).1
      have hrest : ∀ n, (rest.filter fun p => p.order == n) =
          others.filter fun p => p.order == n := by
        intro n
        have hn := hties n
        rw [List.filter_cons, List.filter_cons] at hn
        split at hn
        · exact (List.cons.inj hn).2
        · exact hn
      rw [ih hrest hperm.cons_inv (List.Pairwise.of_cons hsorted) (List.Pairwise.of_cons hagain)]

/-- A sort that is sorted again with more processors behind it. -/
theorem append (h : StablySorts given sorted) (k : StablySorts (sorted ++ more) again) :
    StablySorts (given ++ more) again where
  perm := k.perm.trans (h.perm.append_right more)
  ascending := k.ascending
  ties n := by rw [k.ties, List.filter_append, h.ties, List.filter_append]

/-- Picking processors and sorting them may be exchanged. -/
theorem filter (h : StablySorts given sorted) (keep : PostProcessor V → Bool) :
    StablySorts (given.filter keep) (sorted.filter keep) where
  perm := h.perm.filter keep
  ascending := h.ascending.filter keep
  ties n := by
    have hcomm : ∀ ps : List (PostProcessor V),
        ((ps.filter keep).filter fun p => p.order == n) =
          (ps.filter fun p => p.order == n).filter keep := by
      intro ps
      rw [List.filter_filter, List.filter_filter]
      exact List.filter_congr fun p _ => Bool.and_comm ..
    rw [hcomm, hcomm, h.ties]

end StablySorts

namespace PostProcessors

/-- Sorting leaves those of one order as they came. -/
theorem sort_stablySorts (ps : List (PostProcessor V)) : StablySorts ps (sort ps) := by
  let le : PostProcessor V → PostProcessor V → Bool := fun p q => decide (p.order ≤ q.order)
  have htrans : ∀ p q r, le p q = true → le q r = true → le p r = true := by
    intro p q r hpq hqr
    exact decide_eq_true (Int.le_trans (of_decide_eq_true hpq) (of_decide_eq_true hqr))
  have htotal : ∀ p q, (le p q || le q p) = true := by
    intro p q
    rw [Bool.or_eq_true, decide_eq_true_eq, decide_eq_true_eq]
    exact Int.le_total ..
  have hperm : (sort ps).Perm ps := List.mergeSort_perm ps le
  refine ⟨hperm, ?_, fun n => ?_⟩
  · exact (List.pairwise_mergeSort htrans htotal ps).imp of_decide_eq_true
  · -- those of one order are sorted already, so they are found in the sort as they are
    have hsorted : (ps.filter fun p => p.order == n).Pairwise fun p q => le p q = true := by
      refine List.pairwise_of_forall_mem_list fun p hp q hq => ?_
      have hpn : p.order = n := beq_iff_eq.1 (List.mem_filter.1 hp).2
      have hqn : q.order = n := beq_iff_eq.1 (List.mem_filter.1 hq).2
      exact decide_eq_true (Int.le_of_eq (hpn.trans hqn.symm))
    have hsub := (List.sublist_mergeSort htrans htotal hsorted List.filter_sublist).filter
      fun p => p.order == n
    rw [List.filter_filter, List.filter_congr fun p _ => Bool.and_self _] at hsub
    exact (hsub.eq_of_length (hperm.filter _).length_eq.symm).symm

/-! ## Additions -/

/-- The processors that additions lead to. -/
def ofAdditions (additions : List (PostProcessor V)) : PostProcessors V :=
  additions.foldl add empty

theorem foldl_add_stablySorts {given : List (PostProcessor V)} {ps : PostProcessors V}
    (h : StablySorts given ps.processors) (additions : List (PostProcessor V)) :
    StablySorts (given ++ additions) (additions.foldl add ps).processors := by
  induction additions generalizing given ps with
  | nil =>
    rw [List.append_nil]
    exact h
  | cons p rest ih =>
    rw [List.append_cons]
    exact ih (h.append (sort_stablySorts _))

theorem ofAdditions_stablySorts (additions : List (PostProcessor V)) :
    StablySorts additions (ofAdditions additions).processors :=
  foldl_add_stablySorts .nil additions

variable [DecidableEq U]

/-- The processors for objects of a type, as they come. -/
def forType (u : U) (ps : List (PostProcessor V)) : List (PostProcessor V) :=
  ps.filter fun p => p.code = u

/-- An object passes processors one after the other. -/
def passThrough (u : U) (ps : List (PostProcessor V)) (x : V u) : V u :=
  ps.foldl (fun x p => p.apply u x) x

theorem apply_of_ne {p : PostProcessor V} {u : U} (h : p.code ≠ u) (x : V u) : p.apply u x = x :=
  dif_neg h

theorem apply_eq_passThrough (ps : PostProcessors V) (u : U) (x : V u) :
    ps.apply u x = passThrough u (forType u ps.processors) x := by
  rw [passThrough, forType, List.foldl_filter, PostProcessors.apply]
  congr 1
  funext x p
  by_cases h : p.code = u
  · simp only [h, decide_true, if_true]
  · simp only [h, decide_false, Bool.false_eq_true, if_false, apply_of_ne h]

/-- However processors were added, they are as one stable sort of all additions gives them, and an
object passes those of its type, each once, in the one order that is ascending and leaves those of
the same order as they were added. Additions for other types do not matter. -/
theorem apply_ofAdditions (additions : List (PostProcessor V)) (u : U) (x : V u) :
    (ofAdditions additions).processors = sort additions ∧
    (ofAdditions additions).apply u x = passThrough u (sort (forType u additions)) x ∧
    (∀ ps, StablySorts (forType u additions) ps ↔ ps = sort (forType u additions)) ∧
    ∀ others, forType u others = forType u additions →
      (ofAdditions others).apply u x = (ofAdditions additions).apply u x := by
  have hone : ∀ added : List (PostProcessor V),
      (ofAdditions added).apply u x = passThrough u (sort (forType u added)) x := by
    intro added
    have hpicked : StablySorts (forType u added) (forType u (ofAdditions added).processors) :=
      (ofAdditions_stablySorts added).filter _
    rw [apply_eq_passThrough, hpicked.unique (sort_stablySorts _)]
  refine ⟨(ofAdditions_stablySorts additions).unique (sort_stablySorts _), hone additions,
    fun ps => ⟨fun h => h.unique (sort_stablySorts _), fun h => h ▸ sort_stablySorts _⟩, ?_⟩
  intro others hothers
  rw [hone, hone, hothers]

/-- A processor that writes a text behind others. -/
def writing (code : Bool) (order : Int) (text : String) : PostProcessor fun _ : Bool => List String :=
  ⟨code, order, fun texts => texts ++ [text]⟩

theorem late_ones_run_last :
    let mixed := [writing true 10 "late", writing false (-20) "other", writing true (-10) "early",
      writing true 10 "latest"]
    let plain := [writing true 10 "late", writing true (-10) "early", writing true 10 "latest"]
    forType true mixed = forType true plain ∧
      (ofAdditions mixed).apply true [] = (ofAdditions plain).apply true [] ∧
      (ofAdditions mixed).apply true [] = ["early", "late", "latest"] := by
  intro mixed plain
  obtain ⟨-, happly, hunique, hothers⟩ := apply_ofAdditions plain true []
  have hsame : forType true mixed = forType true plain := rfl
  have hsort : StablySorts (forType true plain)
      [writing true (-10) "early", writing true 10 "late", writing true 10 "latest"] := by
    refine ⟨.swap .., by simp [writing], fun n => ?_⟩
    -- one order is that of the second and third, any other leaves at most one
    by_cases hn : n = 10
    · simp [forType, plain, writing, hn]
    · have hten : ((10 : Int) == n) = false := beq_false_of_ne (Ne.symm hn)
      simp [forType, plain, writing, List.filter_cons, hten]
  refine ⟨hsame, hothers mixed hsame, ?_⟩
  rw [hothers mixed hsame, happly, ← (hunique _).1 hsort]
  rfl

end PostProcessors

end AuthChain.Build

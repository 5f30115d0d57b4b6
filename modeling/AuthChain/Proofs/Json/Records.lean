import AuthChain.Json.Decode
import AuthChain.Proofs.Json.RoundTrip
import Mathlib.Data.List.Nodup
import Mathlib.Data.List.Perm.Basic

/-!
# Records by their members

Entries in increasing order of their keys have one value for a key at most, and they are determined
by what is found under each key. For objects this means that a document in order is read back as it
is, and that a record is read field by field: each field from the member of its name, whatever other
members there are (`Json.setMembers_eq_foldlM`).
-/

namespace AuthChain

/-! ## Entries in the order of their keys -/

section Entries

variable {β : Type} {key : String} {es fs : List (String × β)}

/-- With at most one value for the key among the entries, the value is found. -/
theorem lookup_eq_some_iff_mem (hunique : ∀ a b, (key, a) ∈ es → (key, b) ∈ es → a = b) {a : β} :
    es.lookup key = some a ↔ (key, a) ∈ es := by
  have hmem : ∀ b, es.lookup key = some b → (key, b) ∈ es := by
    intro b hb
    obtain ⟨front, back, rfl, -⟩ := List.lookup_eq_some_iff.1 hb
    simp
  refine ⟨hmem a, fun ha => ?_⟩
  cases hlookup : es.lookup key with
  | none =>
    have hdiffers := List.lookup_eq_none_iff.1 hlookup _ ha
    simp at hdiffers
  | some b => rw [hunique b a (hmem b hlookup) ha]

theorem eq_of_pairwise (h : es.Pairwise (fun a b => a.1 < b.1)) {v w : β}
    (hv : (key, v) ∈ es) (hw : (key, w) ∈ es) : v = w := by
  induction es with
  | nil => cases hv
  | cons e rest ih =>
    obtain ⟨below, tail⟩ := List.pairwise_cons.1 h
    rcases List.mem_cons.1 hv with heq | hv'
    · cases heq
      rcases List.mem_cons.1 hw with heq | hw'
      · cases heq
        rfl
      · exact absurd (below (key, w) hw') (String.lt_irrefl key)
    · rcases List.mem_cons.1 hw with heq | hw'
      · cases heq
        exact absurd (below (key, v) hv') (String.lt_irrefl key)
      · exact ih tail hv' hw'

theorem lookup_of_pairwise (h : es.Pairwise (fun a b => a.1 < b.1)) {v : β} :
    es.lookup key = some v ↔ (key, v) ∈ es :=
  lookup_eq_some_iff_mem fun _ _ => eq_of_pairwise h

theorem lookup_reverse (h : es.Pairwise (fun a b => a.1 < b.1)) (key : String) :
    es.reverse.lookup key = es.lookup key := by
  apply Option.ext
  intro v
  rw [lookup_of_pairwise h, lookup_eq_some_iff_mem, List.mem_reverse]
  intro a b ha hb
  exact eq_of_pairwise h (List.mem_reverse.1 ha) (List.mem_reverse.1 hb)

theorem nodup_of_pairwise {names : List String} (h : names.Pairwise (· < ·)) : names.Nodup := by
  refine h.imp ?_
  rintro a _ hlt rfl
  exact String.lt_irrefl a hlt

/-- Entries in order are determined by what is among them. -/
theorem eq_of_mem_iff (he : es.Pairwise (fun a b => a.1 < b.1))
    (hf : fs.Pairwise (fun a b => a.1 < b.1)) (h : ∀ e, e ∈ es ↔ e ∈ fs) : es = fs := by
  have hnodup : ∀ {l : List (String × β)}, l.Pairwise (fun a b => a.1 < b.1) → l.Nodup :=
    fun hl => (nodup_of_pairwise (List.pairwise_map.2 hl)).of_map Prod.fst
  refine List.Perm.eq_of_pairwise ?_ he hf
    ((List.perm_ext_iff_of_nodup (hnodup he) (hnodup hf)).2 h)
  intro a b _ _ hab hba
  exact absurd (String.lt_trans hab hba) (String.lt_irrefl _)

/-- Entries in order are determined by what is found under each key. -/
theorem eq_of_lookup (he : es.Pairwise (fun a b => a.1 < b.1))
    (hf : fs.Pairwise (fun a b => a.1 < b.1)) (h : ∀ key, es.lookup key = fs.lookup key) :
    es = fs := by
  refine eq_of_mem_iff he hf ?_
  rintro ⟨key, v⟩
  rw [← lookup_of_pairwise he, ← lookup_of_pairwise hf, h]

end Entries

namespace TextMap

theorem get?_ofList (entries : List (String × String)) (key : String) :
    (TextMap.ofList entries).get? key = entries.reverse.lookup key := by
  -- entries that are put in later hide those that are there
  suffices hfold : ∀ m : TextMap,
      (entries.foldl (fun m entry => m.insert entry.1 entry.2) m).get? key =
        (entries.reverse.lookup key).or (m.get? key) by
    exact (hfold .empty).trans (by rw [TextMap.get?_empty, Option.or_none])
  induction entries with
  | nil => intro m; rfl
  | cons entry rest ih =>
    obtain ⟨k, v⟩ := entry
    intro m
    rw [List.foldl_cons, ih, TextMap.get?_insert, List.reverse_cons, List.lookup_append,
      Option.or_assoc]
    by_cases hkey : key = k
    · simp [hkey]
    · have hne : (key == k) = false := by simpa using hkey
      simp [hkey, List.lookup_cons, hne]

theorem ofList_entries (m : TextMap) : ofList m.entries = m := by
  refine ext (eq_of_lookup (ofList m.entries).sorted m.sorted fun key => ?_)
  exact (get?_ofList m.entries key).trans (lookup_reverse m.sorted key)

end TextMap

namespace Json

/-! ## Documents in order -/

theorem ofMembers_eq_object {ms : Members} (h : (Value.object ms).Ordered) :
    Value.ofMembers ms = .object ms := by
  have hplaced : (Value.ofMembers ms).Ordered := ordered_ofMembers ((membersOrdered_iff ms).1 h.2)
  refine congrArg Value.object (eq_of_lookup hplaced.1 h.1 fun name => ?_)
  exact (member?_ofMembers ms name).trans (lookup_reverse h.1 name)

theorem fits_ofMembers {ms : Members} {d : Nat} (h : ∀ m ∈ ms, m.2.Fits d) :
    (Value.ofMembers ms).Fits (d + 1) :=
  ⟨Nat.succ_pos d, (membersFit_iff _ d).2 fun _ hm => h _ (mem_of_mem_ofMembers rfl hm)⟩

mutual

theorem Value.canonical_of_ordered : ∀ {v : Value}, v.Ordered → v.canonical = v
  | .null, _ => rfl
  | .bool _, _ => rfl
  | .int _, _ => rfl
  | .double _, _ => rfl
  | .string _, _ => rfl
  | .array _, h => congrArg Value.array (canonicalItems_of_ordered h)
  | .object ms, h => by
    rw [Value.canonical, canonicalMembers_of_ordered h.2, ofMembers_eq_object h]

theorem canonicalItems_of_ordered : ∀ {items : List Value}, ItemsOrdered items →
    canonicalItems items = items
  | [], _ => rfl
  | _ :: _, h =>
    congrArg₂ List.cons (Value.canonical_of_ordered h.1) (canonicalItems_of_ordered h.2)

theorem canonicalMembers_of_ordered : ∀ {ms : Members}, MembersOrdered ms →
    canonicalMembers ms = ms
  | [], _ => rfl
  | (k, _) :: _, h =>
    congrArg₂ List.cons (congrArg (k, ·) (Value.canonical_of_ordered h.1))
      (canonicalMembers_of_ordered h.2)

end

/-- The compact text of a document in order without numbers is read back as the document. -/
theorem parse_compact_of_ordered {v : Value} (hfits : v.Fits nestingLimit) (h : v.Ordered) :
    Json.parse v.compact = .ok v := by
  rw [parse_compact hfits, Value.canonical_of_ordered h]

/-! ## Records -/

variable {α : Type} {ms : Members}

/-- Set a field from a member, if there is one. -/
def Field.setFrom (f : Field α) (member : Option Value) (a : α) : Except Mismatch α :=
  match member with
  | none => .ok a
  | some v => f.set v a

/-- The members of the given names, in the order of the names. -/
theorem filter_members (hms : ms.Pairwise (fun a b => a.1 < b.1)) {names : List String}
    (hnames : names.Pairwise (· < ·)) :
    ms.filter (fun m => names.contains m.1) =
      names.filterMap fun name => (ms.lookup name).map (name, ·) := by
  -- both sides are in the order of the names, so they only have to hold the same members
  refine eq_of_mem_iff (hms.filter _) ?_ fun m => ?_
  · refine hnames.filterMap _ fun a b hlt x hx y hy => ?_
    obtain ⟨v, -, rfl⟩ := Option.map_eq_some_iff.1 hx
    obtain ⟨w, -, rfl⟩ := Option.map_eq_some_iff.1 hy
    exact hlt
  · obtain ⟨k, v⟩ := m
    simp only [List.mem_filter, List.contains_iff_mem, List.mem_filterMap, Option.map_eq_some_iff,
      Prod.mk.injEq, ← lookup_of_pairwise hms]
    constructor
    · rintro ⟨hv, hk⟩
      exact ⟨k, hk, v, hv, rfl, rfl⟩
    · rintro ⟨_, hk, _, hv, rfl, rfl⟩
      exact ⟨hv, hk⟩

/-- Members that are no field can be left out. -/
theorem setMembers_filter (fields : List (Field α)) (ms : Members) (a : α) :
    setMembers fields (ms.filter fun m => (fields.map (·.name)).contains m.1) a =
      setMembers fields ms a := by
  induction ms generalizing a with
  | nil => rfl
  | cons m rest ih =>
    obtain ⟨name, v⟩ := m
    rw [List.filter_cons]
    split
    · simp only [setMembers, ih]
    · -- no field is found for a member that is left out
      next hname =>
      have hnone : fields.find? (·.name == name) = none := by
        rw [List.find?_eq_none]
        intro f hf heq
        rw [List.contains_iff_mem] at hname
        exact hname (List.mem_map.2 ⟨f, hf, by simpa using heq⟩)
      rw [ih, setMembers, hnone]
      rfl

theorem find?_name {fields : List (Field α)} (hnodup : (fields.map (·.name)).Nodup) {f : Field α}
    (hf : f ∈ fields) : fields.find? (·.name == f.name) = some f := by
  induction fields with
  | nil => cases hf
  | cons g rest ih =>
    obtain ⟨hg, hrest⟩ := List.nodup_cons.1 hnodup
    rcases List.mem_cons.1 hf with rfl | hf
    · exact List.find?_cons_of_pos (by simp)
    · have hne : g.name ≠ f.name := fun heq => hg (List.mem_map.2 ⟨f, hf, heq.symm⟩)
      rw [List.find?_cons_of_neg (by simpa using hne)]
      exact ih hrest hf

/-- A record is read field by field in the order of the names, each field from the member of its
name; other members do not matter. -/
theorem setMembers_eq_foldlM (hms : ms.Pairwise (fun a b => a.1 < b.1))
    {fields order : List (Field α)} (hperm : order.Perm fields)
    (horder : order.Pairwise (fun f g => f.name < g.name)) (a : α) :
    setMembers fields ms a = order.foldlM (fun a f => f.setFrom (ms.lookup f.name) a) a := by
  have hnames : (order.map (·.name)).Pairwise (· < ·) := List.pairwise_map.2 horder
  have hnodup : (fields.map (·.name)).Nodup :=
    (hperm.map _).nodup_iff.1 (nodup_of_pairwise hnames)
  have hcontains : ∀ m : String × Value,
      (fields.map (·.name)).contains m.1 = (order.map (·.name)).contains m.1 := by
    intro m
    rw [Bool.eq_iff_iff, List.contains_iff_mem, List.contains_iff_mem, (hperm.map _).mem_iff]
  rw [← setMembers_filter, List.filter_congr fun m _ => hcontains m, filter_members hms hnames,
    List.filterMap_map]
  have hfields : ∀ f ∈ order, f ∈ fields := fun f hf => hperm.mem_iff.1 hf
  -- the fields are still searched among all, while the members are read one field after another
  clear hperm horder hnames hcontains
  induction order generalizing a with
  | nil => rfl
  | cons f rest ih =>
    have hrest := fun b => ih b fun g hg => hfields g (List.mem_cons_of_mem _ hg)
    rw [List.foldlM_cons, List.filterMap_cons]
    cases hmember : ms.lookup f.name with
    | none =>
      simp only [Function.comp_apply, hmember, Option.map_none]
      exact hrest a
    | some v =>
      simp only [Function.comp_apply, hmember, Option.map_some, setMembers,
        find?_name hnodup (hfields f List.mem_cons_self)]
      exact congrArg (f.set v a >>= ·) (funext hrest)

/-- As an array a record has its items in the order of the fields, neither too few nor too many. -/
theorem record_array_eq_ok_iff {name : String} {fields : List (Field α)} {needed : Nat}
    {items : List Value} {start a : α} :
    Decoder.record name fields needed start (.array items) = .ok a ↔
      setItems fields items start = .ok a ∧ needed ≤ items.length ∧
        items.length ≤ fields.length := by
  unfold Decoder.record
  constructor
  · intro h
    obtain ⟨b, hb, h⟩ := ok_of_bind h
    split at h
    · cases h
    · split at h
      · cases h
      · cases h
        exact ⟨hb, by omega, by omega⟩
  · rintro ⟨hread, hlow, hhigh⟩
    refine (bind_of_ok hread _).trans ?_
    rw [if_neg (by omega), if_neg (by omega)]

/-! ## Parts of a record -/

/-- The object with the entries of a map. -/
def Value.ofTexts (m : TextMap) : Value :=
  .object (m.entries.map fun e => (e.1, .string e.2))

/-- An optional text from a member: a text, or none for null and for no member. -/
inductive OptionalText : Option Value → Option String → Prop
  | missing : OptionalText none none
  | null : OptionalText (some .null) none
  | text (s : String) : OptionalText (some (.string s)) (some s)

/-- A map from a member: its object, or the empty map for no member. -/
inductive OptionalTexts : Option Value → TextMap → Prop
  | missing : OptionalTexts none .empty
  | texts (m : TextMap) : OptionalTexts (some (.ofTexts m)) m

variable {v : Value} {member : Option Value}

theorem ordered_ofTexts (m : TextMap) : (Value.ofTexts m).Ordered := by
  refine ⟨List.pairwise_map.2 m.sorted, (membersOrdered_iff _).2 fun e he => ?_⟩
  obtain ⟨_, -, rfl⟩ := List.mem_map.1 he
  trivial

theorem optional_text_eq_ok_iff {s : Option String} :
    Decoder.optional .text v = .ok s ↔ OptionalText (some v) s := by
  constructor
  · intro h
    cases v with
    | null =>
      cases h
      exact .null
    | string t =>
      cases h
      exact .text t
    | _ => cases h
  · rintro (_ | _ | _) <;> rfl

theorem mapM_text_eq_ok_iff {entries : List (String × String)} :
    (ms.mapM fun (k, v) => (Decoder.text v).map (k, ·)) = .ok entries ↔
      ms = entries.map fun e => (e.1, .string e.2) := by
  induction ms generalizing entries with
  | nil =>
    rw [List.mapM_nil]
    constructor
    · intro h
      cases h
      rfl
    · intro h
      rw [List.map_eq_nil_iff.1 h.symm]
      rfl
  | cons m rest ih =>
    obtain ⟨k, v⟩ := m
    constructor
    · intro h
      rw [List.mapM_cons] at h
      obtain ⟨e, he, h⟩ := ok_of_bind h
      obtain ⟨es, hes, h⟩ := ok_of_bind h
      cases h
      obtain ⟨s, hs, rfl⟩ := ok_of_map he
      rw [ih.1 hes]
      cases v with
      | string t =>
        cases hs
        rfl
      | _ => cases hs
    · intro h
      cases entries with
      | nil => cases h
      | cons e es =>
        obtain ⟨hm, hrest⟩ := List.cons.inj h
        cases hm
        rw [List.mapM_cons, ih.2 hrest]
        rfl

theorem texts_eq_ok_iff {m : TextMap} (h : v.Ordered) :
    (∃ entries, Decoder.texts v = .ok entries ∧ m = .ofList entries) ↔ v = .ofTexts m := by
  constructor
  · rintro ⟨entries, hentries, rfl⟩
    cases v with
    | object ms =>
      obtain rfl := mapM_text_eq_ok_iff.1 hentries
      have hsorted := List.pairwise_map.1 h.1
      exact congrArg Value.ofTexts (TextMap.ofList_entries ⟨entries, hsorted⟩).symm
    | _ => cases hentries
  · rintro rfl
    exact ⟨m.entries, mapM_text_eq_ok_iff.2 rfl, (TextMap.ofList_entries m).symm⟩

section Parts

variable {β : Type} {f : Field α} {a b : α}

/-- A field that decodes a value and puts it into the record. -/
theorem setFrom_eq_ok_iff {decoder : Decoder β} {put : α → β → α}
    (hset : ∀ v a, f.set v a = do let x ← decoder v; return put a x) :
    f.setFrom member a = .ok b ↔
      member = none ∧ b = a ∨ ∃ v x, member = some v ∧ decoder v = .ok x ∧ b = put a x := by
  constructor
  · intro h
    cases member with
    | none =>
      cases h
      exact .inl ⟨rfl, rfl⟩
    | some v =>
      obtain ⟨x, hx, h⟩ := ok_of_bind ((hset v a).symm.trans h)
      cases h
      exact .inr ⟨v, x, rfl, hx, rfl⟩
  · rintro (⟨rfl, rfl⟩ | ⟨v, x, rfl, hx, rfl⟩)
    · rfl
    · exact (hset v a).trans (bind_of_ok hx _)

theorem setFrom_optionalText (put : α → Option String → α)
    (hset : ∀ v a, f.set v a = do let s ← Decoder.optional .text v; return put a s)
    (hnone : put a none = a) :
    f.setFrom member a = .ok b ↔ ∃ s, OptionalText member s ∧ b = put a s := by
  rw [setFrom_eq_ok_iff hset]
  constructor
  · rintro (⟨rfl, rfl⟩ | ⟨v, s, rfl, hs, rfl⟩)
    · exact ⟨none, .missing, hnone.symm⟩
    · exact ⟨s, optional_text_eq_ok_iff.1 hs, rfl⟩
  · rintro ⟨s, hs, rfl⟩
    cases member with
    | none =>
      cases hs
      exact .inl ⟨rfl, hnone⟩
    | some v => exact .inr ⟨v, s, rfl, optional_text_eq_ok_iff.2 hs, rfl⟩

theorem setFrom_texts (put : α → TextMap → α)
    (hset : ∀ v a, f.set v a = do let entries ← Decoder.texts v; return put a (.ofList entries))
    (hempty : put a .empty = a) (hmember : ∀ v ∈ member, v.Ordered) :
    f.setFrom member a = .ok b ↔ ∃ m, OptionalTexts member m ∧ b = put a m := by
  rw [setFrom_eq_ok_iff hset]
  constructor
  · rintro (⟨rfl, rfl⟩ | ⟨v, entries, rfl, hentries, rfl⟩)
    · exact ⟨.empty, .missing, hempty.symm⟩
    · obtain rfl := (texts_eq_ok_iff (hmember v rfl)).1 ⟨entries, hentries, rfl⟩
      exact ⟨_, .texts _, rfl⟩
  · rintro ⟨m, hm, rfl⟩
    cases hm with
    | missing => exact .inl ⟨rfl, hempty⟩
    | texts =>
      obtain ⟨entries, hentries, hm⟩ := (texts_eq_ok_iff (ordered_ofTexts m)).2 rfl
      exact .inr ⟨_, entries, rfl, hentries, by rw [hm]⟩

end Parts

end Json

end AuthChain

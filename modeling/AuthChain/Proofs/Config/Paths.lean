import AuthChain.Proofs.Config.Serving
import AuthChain.Proofs.Json.Records
import AuthChain.Proofs.Text.Pieces

/-!
# Paths of a document

Names lead from a document through nested objects to the values in it. A dotted key is the names of
such a path joined by dots, which is the path itself as long as no name has a dot. The leaves of a
document are the values that are no objects; with the keys of their paths they form a flat map.

Main statement: after any history a provider of a file answers a dotted key with what its names lead
to in the document, and on leaves and on keys without a path it agrees with a provider in memory
that holds the flat map (`FileSource.dotted_keys_are_paths`).
-/

namespace AuthChain

namespace Json

/-! ## Paths -/

/-- Names lead from a document to a value in it, from member to member. -/
inductive Value.Leads : Value → List String → Value → Prop
  | here {v : Value} : v.Leads [] v
  | into {ms : Members} {name : String} {names : List String} {v w : Value}
      (hmem : (name, v) ∈ ms) (h : v.Leads names w) : (Value.object ms).Leads (name :: names) w

/-- The key of a value in a document: the names of its path, joined by dots. The document itself has
no key. -/
def Value.Keyed (document : Value) (key : String) (v : Value) : Prop :=
  ∃ names, names ≠ [] ∧ document.Leads names v ∧ key = ".".intercalate names

/-- No path of the document has a name with a dot. -/
def Value.Undotted (document : Value) : Prop :=
  ∀ names v, document.Leads names v → ∀ name ∈ names, '.' ∉ name.toList

/-- The value is no object. -/
def Value.IsLeaf (v : Value) : Prop :=
  ∀ ms, v ≠ .object ms

variable {document v w : Value} {names : List String} {key : String}

theorem Value.Ordered.member {ms : Members} (h : (Value.object ms).Ordered) {name : String}
    (hmem : (name, v) ∈ ms) : v.Ordered :=
  (membersOrdered_iff ms).1 h.2 _ hmem

theorem Value.Ordered.member?_eq_some_iff {ms : Members} (h : (Value.object ms).Ordered)
    {name : String} : (Value.object ms).member? name = some v ↔ (name, v) ∈ ms :=
  lookup_of_pairwise h.1

/-- A path leads to one value at most. -/
theorem Value.Leads.unique (h : document.Ordered) (hv : document.Leads names v)
    (hw : document.Leads names w) : v = w := by
  induction hv with
  | here =>
    cases hw
    rfl
  | into hmem _ ih =>
    cases hw with
    | into hother hrest =>
      obtain rfl := eq_of_pairwise h.1 hmem hother
      exact ih (h.member hmem) hrest

theorem Value.Undotted.object {ms : Members}
    (h : ∀ m ∈ ms, '.' ∉ m.1.toList ∧ m.2.Undotted) : (Value.object ms).Undotted := by
  intro names v hv
  cases hv with
  | here => simp
  | into hmem hrest =>
    obtain ⟨hname, hdots⟩ := h _ hmem
    exact List.forall_mem_cons.2 ⟨hname, hdots _ _ hrest⟩

/-- Without dots in the names, the key of a value is cut into the names of its path. -/
theorem Value.Undotted.cut (h : document.Undotted) (hne : names ≠ [])
    (hv : document.Leads names v) :
    Text.Cut '.' (".".intercalate names) names :=
  ⟨hne, h names v hv, rfl⟩

theorem Value.Undotted.leads_iff (h : document.Undotted) (hkey : Text.Cut '.' key names) :
    document.Keyed key v ↔ document.Leads names v := by
  constructor
  · rintro ⟨path, hne, hv, rfl⟩
    rwa [Text.cut_iff.1 hkey, ← Text.cut_iff.1 (h.cut hne hv)]
  · intro hv
    exact ⟨names, hkey.nonempty, hv, hkey.joined.symm⟩

/-! ## Leaves -/

theorem Value.isLeaf_or_object (v : Value) : v.IsLeaf ∨ ∃ ms, v = .object ms := by
  cases v with
  | object ms => exact .inr ⟨ms, rfl⟩
  | _ => exact .inl fun _ h => nomatch h

theorem Value.IsLeaf.leads_iff (h : v.IsLeaf) : v.Leads names w ↔ names = [] ∧ w = v := by
  constructor
  · rintro (⟨-⟩ | ⟨-, -⟩)
    · exact ⟨rfl, rfl⟩
    · exact absurd rfl (h _)
  · rintro ⟨rfl, rfl⟩
    exact .here

theorem Value.IsLeaf.undotted (h : v.IsLeaf) : v.Undotted := by
  intro names w hw
  rw [(h.leads_iff.1 hw).1]
  simp

mutual

/-- The leaves of a document with the names that lead to them. -/
def Value.leaves : Value → List (List String × Value)
  | .object ms => memberLeaves ms
  | v => [([], v)]

/-- The leaves of the members of an object. -/
def memberLeaves : Members → List (List String × Value)
  | [] => []
  | (name, v) :: rest => v.leaves.map (fun leaf => (name :: leaf.1, leaf.2)) ++ memberLeaves rest

end

theorem Value.IsLeaf.leaves_eq (h : v.IsLeaf) : v.leaves = [([], v)] := by
  cases v with
  | object ms => exact absurd rfl (h ms)
  | _ => rfl

theorem mem_memberLeaves {ms : Members} :
    (names, w) ∈ memberLeaves ms ↔
      ∃ name rest v, (name, v) ∈ ms ∧ (rest, w) ∈ v.leaves ∧ names = name :: rest := by
  induction ms with
  | nil => simp [memberLeaves]
  | cons m more ih =>
    obtain ⟨k, u⟩ := m
    rw [memberLeaves, List.mem_append, List.mem_map, ih]
    constructor
    · rintro (⟨⟨path, leaf⟩, hleaf, heq⟩ | ⟨name, rest, v, hmem, hleaf, rfl⟩)
      · cases heq
        exact ⟨k, path, u, List.mem_cons_self, hleaf, rfl⟩
      · exact ⟨name, rest, v, List.mem_cons_of_mem _ hmem, hleaf, rfl⟩
    · rintro ⟨name, rest, v, hmem, hleaf, rfl⟩
      rcases List.mem_cons.1 hmem with heq | hmem
      · cases heq
        exact .inl ⟨(rest, w), hleaf, rfl⟩
      · exact .inr ⟨name, rest, v, hmem, hleaf, rfl⟩

/-- The leaves are what paths lead to and is no object. -/
theorem mem_leaves : (names, w) ∈ v.leaves ↔ v.Leads names w ∧ w.IsLeaf := by
  -- along the path: a leaf ends it, and an object hands the rest of it to the member that is named
  induction names generalizing v with
  | nil =>
    rcases v.isLeaf_or_object with hleaf | ⟨ms, rfl⟩
    · rw [hleaf.leaves_eq, hleaf.leads_iff, List.mem_singleton, Prod.mk.injEq]
      constructor
      · rintro ⟨-, rfl⟩
        exact ⟨⟨rfl, rfl⟩, hleaf⟩
      · rintro ⟨h, -⟩
        exact h
    · rw [Value.leaves, mem_memberLeaves]
      constructor
      · rintro ⟨name, rest, v, -, -, hnames⟩
        cases hnames
      · rintro ⟨⟨⟩, hleaf⟩
        exact absurd rfl (hleaf ms)
  | cons name rest ih =>
    rcases v.isLeaf_or_object with hleaf | ⟨ms, rfl⟩
    · rw [hleaf.leaves_eq, hleaf.leads_iff]
      simp
    · rw [Value.leaves, mem_memberLeaves]
      constructor
      · rintro ⟨_, _, v, hmem, hleaf, ⟨⟩⟩
        obtain ⟨hleads, hleaf⟩ := ih.1 hleaf
        exact ⟨.into hmem hleads, hleaf⟩
      · rintro ⟨hleads, hleaf⟩
        cases hleads with
        | into hmem hrest => exact ⟨name, rest, _, hmem, ih.2 ⟨hrest, hleaf⟩, rfl⟩

/-- The leaves of the members of a document are its leaves with a key. -/
theorem mem_memberLeaves_members :
    (names, w) ∈ memberLeaves document.members ↔
      names ≠ [] ∧ document.Leads names w ∧ w.IsLeaf := by
  rcases document.isLeaf_or_object with hleaf | ⟨ms, rfl⟩
  · have hmembers : document.members = [] := by
      cases document with
      | object ms => exact absurd rfl (hleaf ms)
      | _ => rfl
    rw [hmembers, hleaf.leads_iff]
    constructor
    · intro h
      cases h
    · rintro ⟨hne, ⟨hnil, -⟩, -⟩
      exact absurd hnil hne
  · rw [← mem_leaves]
    constructor
    · intro h
      obtain ⟨name, rest, v, -, -, rfl⟩ := mem_memberLeaves.1 h
      exact ⟨List.cons_ne_nil _ _, h⟩
    · rintro ⟨-, h⟩
      exact h

/-- What a value shows as a raw text: a text its contents, and null nothing. -/
inductive Value.Shows : Value → String → Prop
  | text {s : String} : (Value.string s).Shows s
  | form {v : Value} (hnull : v ≠ .null) (htext : ∀ s, v ≠ .string s) : v.Shows v.compact

end Json

namespace Config

open Json (Value)

/-! ## Values at a key -/

section Keys

variable {document v : Value} {names : List String} {key raw : String}

theorem rawValue_eq_some_iff : rawValue v = some raw ↔ v.Shows raw := by
  have hform : (v ≠ .null ∧ ∀ s, v ≠ .string s) → rawValue v = some v.compact := by
    rintro ⟨hnull, htext⟩
    cases v with
    | null => exact absurd rfl hnull
    | string s => exact absurd rfl (htext s)
    | _ => rfl
  constructor
  · intro h
    by_cases hnull : v = .null
    · subst hnull
      cases h
    · by_cases htext : ∃ s, v = .string s
      · obtain ⟨s, rfl⟩ := htext
        cases h
        exact .text
      · have hother : ∀ s, v ≠ .string s := fun s heq => htext ⟨s, heq⟩
        rw [hform ⟨hnull, hother⟩] at h
        cases h
        exact .form hnull hother
  · intro h
    cases h with
    | text => rfl
    | form hnull htext => exact hform ⟨hnull, htext⟩

theorem rawValue_eq_none_iff : rawValue v = none ↔ v = .null := by
  cases v <;> simp [rawValue]

theorem memberAt_eq_some_iff (h : document.Ordered) :
    memberAt names document = some v ↔ document.Leads names v := by
  induction names generalizing document with
  | nil =>
    constructor
    · rintro ⟨⟩
      exact .here
    · rintro ⟨⟩
      rfl
  | cons name rest ih =>
    rw [memberAt, Option.bind_eq_some_iff]
    constructor
    · rintro ⟨w, hmember, hrest⟩
      cases document with
      | object ms =>
        have hmem := h.member?_eq_some_iff.1 hmember
        exact .into hmem ((ih (h.member hmem)).1 hrest)
      | _ => cases hmember
    · intro hleads
      cases hleads with
      | into hmem hrest =>
        exact ⟨_, h.member?_eq_some_iff.2 hmem, (ih (h.member hmem)).2 hrest⟩

theorem lookupKey_eq_bind (hkey : Text.Cut '.' key names) :
    lookupKey document key = (memberAt names document).bind rawValue := by
  rw [lookupKey, keyNames, ← Text.cut_iff.1 hkey]

theorem lookupKey_eq_some_iff (h : document.Ordered) (hkey : Text.Cut '.' key names) :
    lookupKey document key = some raw ↔ ∃ v, document.Leads names v ∧ v.Shows raw := by
  rw [lookupKey_eq_bind hkey, Option.bind_eq_some_iff]
  simp only [memberAt_eq_some_iff h, rawValue_eq_some_iff]

theorem lookupKey_eq_none_iff (h : document.Ordered) (hkey : Text.Cut '.' key names) :
    lookupKey document key = none ↔ ∀ v, document.Leads names v → v = .null := by
  rw [lookupKey_eq_bind hkey, Option.bind_eq_none_iff]
  simp only [memberAt_eq_some_iff h, rawValue_eq_none_iff]

/-! ## Flattened documents -/

/-- The leaves of a document that are not null, as raw texts under their keys. -/
def flattened (document : Value) : TextMap :=
  .ofList ((Json.memberLeaves document.members).filterMap fun leaf =>
    (rawValue leaf.2).map (".".intercalate leaf.1, ·))

/-- In a document without dots in its names the flat map has the leaves, each under its key. -/
theorem get?_flattened (h : document.Ordered) (hdots : document.Undotted)
    (hkey : Text.Cut '.' key names) :
    (flattened document).get? key = some raw ↔
      ∃ v, document.Leads names v ∧ v.IsLeaf ∧ v.Shows raw := by
  -- the key of an entry is cut into the names of its path, so no two leaves are under one key
  have hentry : ∀ text, (key, text) ∈ ((Json.memberLeaves document.members).filterMap fun leaf =>
      (rawValue leaf.2).map (".".intercalate leaf.1, ·)).reverse ↔
      ∃ v, document.Leads names v ∧ v.IsLeaf ∧ v.Shows text := by
    intro text
    rw [List.mem_reverse, List.mem_filterMap]
    constructor
    · rintro ⟨⟨path, v⟩, hmem, heq⟩
      obtain ⟨hne, hv, hleaf⟩ := Json.mem_memberLeaves_members.1 hmem
      obtain ⟨raw, hraw, heq⟩ := Option.map_eq_some_iff.1 heq
      cases heq
      exact ⟨v, (hdots.leads_iff hkey).1 ⟨path, hne, hv, rfl⟩, hleaf, rawValue_eq_some_iff.1 hraw⟩
    · rintro ⟨v, hv, hleaf, hshows⟩
      refine ⟨(names, v), Json.mem_memberLeaves_members.2 ⟨hkey.nonempty, hv, hleaf⟩, ?_⟩
      rw [rawValue_eq_some_iff.2 hshows, ← hkey.joined]
      rfl
  rw [flattened, TextMap.get?_ofList, lookup_eq_some_iff_mem, hentry]
  intro a b ha hb
  obtain ⟨v, hv, -, hshown⟩ := (hentry a).1 ha
  obtain ⟨w, hw, -, hother⟩ := (hentry b).1 hb
  obtain rfl := hv.unique h hw
  exact Option.some.inj ((rawValue_eq_some_iff.2 hshown).symm.trans (rawValue_eq_some_iff.2 hother))

/-- On the key of a leaf and on a key without a path, the flat map answers like the document. -/
theorem get?_flattened_eq (h : document.Ordered) (hdots : document.Undotted)
    (hkey : (∃ v, document.Keyed key v ∧ v.IsLeaf) ∨ ∀ v, ¬ document.Keyed key v) :
    (flattened document).get? key = lookupKey document key := by
  obtain ⟨names, hcut⟩ := Text.exists_cut '.' key
  apply Option.ext
  intro raw
  rw [get?_flattened h hdots hcut, lookupKey_eq_some_iff h hcut]
  constructor
  · rintro ⟨v, hv, -, hshows⟩
    exact ⟨v, hv, hshows⟩
  · rintro ⟨v, hv, hshows⟩
    rcases hkey with ⟨leaf, hleads, hleaf⟩ | hnone
    · obtain rfl := hv.unique h ((hdots.leads_iff hcut).1 hleads)
      exact ⟨v, hv, hleaf, hshows⟩
    · exact absurd ((hdots.leads_iff hcut).2 hv) (hnone v)

end Keys

/-! ## Providers of a file -/

namespace FileSource

variable {σ : Type} {f : FileSource σ} {document : Value}

/-- The document that the next lookup answers from: the one that is served, or else the one that a
load finds. -/
def consulted (f : FileSource σ) (s : σ) : Option Value :=
  (f.document.get s).or (f.found s).toOption

theorem getRaw_consulted {s : σ} (h : f.consulted s = some document) (key : String) :
    ((f.provider.getRaw key).run s).answer = .ok (lookupKey document key) := by
  unfold consulted at h
  cases hserved : f.document.get s with
  | some served =>
    rw [hserved, Option.some_or] at h
    cases h
    rw [f.getRaw_served hserved]
  | none =>
    rw [hserved, Option.none_or] at h
    rw [f.getRaw_fresh hserved, freshly]
    cases hfound : f.found s with
    | error e =>
      rw [hfound] at h
      cases h
    | ok found =>
      rw [hfound] at h
      cases h
      rfl

/-- A load finds a document with its members in order. -/
theorem ordered_of_found {s : σ} (h : f.found s = .ok document) : document.Ordered := by
  unfold found at h
  cases hread : readFile (f.files s) f.path with
  | error fault =>
    rw [hread] at h
    cases h
  | ok text =>
    rw [hread] at h
    cases text with
    | none =>
      cases h
      trivial
    | some text =>
      change parseDocument text = _ at h
      unfold parseDocument at h
      cases hparse : Json.parse text with
      | error failure =>
        rw [hparse] at h
        cases h
      | ok v =>
        rw [hparse] at h
        cases h
        exact Json.ordered_of_parse hparse

/-- Every load that succeeded found a document with its members in order. -/
def Account.Ordered (a : Account σ) : Prop :=
  ∀ document, .ok document ∈ a.loads → document.Ordered

theorem Account.Ordered.next {a : Account σ} (h : a.Ordered) (happening : Happening f) :
    (a.next happening).Ordered := by
  intro document hmem
  unfold Account.next at hmem
  dsimp only at hmem
  split at hmem
  · rcases List.mem_append.1 hmem with hmem | hmem
    · exact h document hmem
    · exact ordered_of_found (List.mem_singleton.1 hmem).symm
  · exact h document hmem

theorem Account.Ordered.after (hs : List (Happening f)) :
    ∀ {a : Account σ}, a.Ordered → (a.after hs).Ordered := by
  induction hs with
  | nil => exact fun h => h
  | cons happening rest ih => exact fun h => ih (h.next happening)

theorem Account.Ordered.consulted {a : Account σ} (h : a.Ordered) (hsound : a.Sound f)
    (hconsulted : f.consulted a.state = some document) : document.Ordered := by
  unfold FileSource.consulted at hconsulted
  rw [hsound] at hconsulted
  rcases Option.or_eq_some_iff.1 hconsulted with hlatest | ⟨-, hfound⟩
  · obtain ⟨load, hload, hok⟩ := List.mem_filterMap.1 (List.mem_of_getLast? hlatest)
    cases load with
    | error e => cases hok
    | ok served =>
      cases hok
      exact h document hload
  · cases hload : f.found a.state with
    | error e =>
      rw [hload] at hfound
      cases hfound
    | ok fresh =>
      rw [hload] at hfound
      cases hfound
      exact ordered_of_found hload

/-- How a provider of a file that consults a document answers dotted keys. -/
structure ResolvesPaths (f : FileSource σ) (s : σ) (document : Value) : Prop where
  /-- It gives what the value shows to which the names of the key lead. -/
  shown : ∀ names key, Text.Cut '.' key names → ∀ raw,
    ((f.provider.getRaw key).run s).answer = .ok (some raw) ↔
      ∃ v, document.Leads names v ∧ v.Shows raw
  /-- It gives nothing just when they lead to null or nowhere. -/
  missing : ∀ names key, Text.Cut '.' key names →
    (((f.provider.getRaw key).run s).answer = .ok none ↔
      ∀ v, document.Leads names v → v = .null)
  /-- Without dots in the names of the document, it answers for leaves and for keys without a path
  like a provider in memory that holds the leaves. -/
  flat : document.Undotted → ∀ (τ : Type) (name : String) (cell : Cell τ TextMap) (t : τ),
    cell.get t = flattened document →
    ∀ key, ((∃ v, document.Keyed key v ∧ v.IsLeaf) ∨ ∀ v, ¬ document.Keyed key v) →
      (((Provider.memory name cell).getRaw key).run t).answer =
        ((f.provider.getRaw key).run s).answer

/-- After any history, a provider of a file looks a dotted key up as a path in the document. -/
theorem dotted_keys_are_paths (hlawful : f.document.Lawful) {s : σ}
    (hempty : f.document.get s = none) (hs : List (Happening f))
    (hconsulted : f.consulted (Account.after ⟨s, []⟩ hs).state = some document) :
    ResolvesPaths f (Account.after ⟨s, []⟩ hs).state document := by
  have hsound : (Account.after ⟨s, []⟩ hs).Sound f := Account.Sound.after hlawful hs hempty
  have hstart : (Account.mk s []).Ordered := fun _ h => nomatch h
  have hordered : document.Ordered := (hstart.after hs).consulted hsound hconsulted
  have hanswer := getRaw_consulted hconsulted
  refine ⟨?shown, ?missing, ?flat⟩
  case shown =>
    intro names key hkey raw
    rw [hanswer, ← lookupKey_eq_some_iff hordered hkey, Except.ok.injEq]
  case missing =>
    intro names key hkey
    rw [hanswer, ← lookupKey_eq_none_iff hordered hkey, Except.ok.injEq]
  case flat =>
    intro hdots τ name cell t hcell key hkey
    rw [hanswer, ← get?_flattened_eq hordered hdots hkey, ← hcell]
    rfl

/-- A text is given without its quotation marks and an array in its JSON form; null and the places
of an array are not found. -/
theorem nested_values_are_found :
    let document := Value.object
      [("a", .object [("b", .string "x"), ("c", .array [.bool true]), ("d", .null)])]
    let s : Store := ⟨[("a.json", .file (.text document.compact))], none⟩
    let answer := fun key => (((ofStore "a.json").provider.getRaw key).run s).answer
    answer "a.b" = .ok (some "x") ∧ answer "a.d" = .ok none ∧ answer "a.c.0" = .ok none ∧
      (((Provider.memory memoryName Cell.whole).getRaw "a.c").run (flattened document)).answer =
        answer "a.c" := by
  intro document s answer
  have hfound : (ofStore "a.json").found s = .ok document := by
    have hfits : document.Fits Json.nestingLimit :=
      ⟨by decide, ⟨by decide, trivial, ⟨by decide, trivial, trivial⟩, trivial, trivial⟩, trivial⟩
    show parseDocument document.compact = .ok document
    unfold parseDocument
    rw [Json.parse_compact hfits]
    rfl
  have hconsulted : (ofStore "a.json").consulted s = some document := by
    rw [consulted, hfound]
    rfl
  have hpaths : ResolvesPaths (ofStore "a.json") s document :=
    dotted_keys_are_paths (ofStore_lawful "a.json") (s := s) rfl [] hconsulted
  have hordered : document.Ordered := ordered_of_found hfound
  have hdots : document.Undotted := by
    refine .object fun m hm => ?_
    rw [List.mem_singleton.1 hm]
    refine ⟨by decide, .object fun m hm => ?_⟩
    simp only [List.mem_cons, List.not_mem_nil, or_false] at hm
    rcases hm with rfl | rfl | rfl
    all_goals exact ⟨by decide, Value.IsLeaf.undotted fun _ h => nomatch h⟩
  have hb : document.Leads ["a", "b"] (.string "x") := .into (.head _) (.into (.head _) .here)
  have hc : document.Leads ["a", "c"] (.array [.bool true]) :=
    .into (.head _) (.into (.tail _ (.head _)) .here)
  refine ⟨?_, ?_, ?_, ?_⟩
  · exact (hpaths.shown ["a", "b"] "a.b" ⟨by decide, by decide, rfl⟩ "x").2 ⟨_, hb, .text⟩
  · refine (hpaths.missing ["a", "d"] "a.d" ⟨by decide, by decide, rfl⟩).2 fun v hv => ?_
    have hd : memberAt ["a", "d"] document = some .null := rfl
    rw [(memberAt_eq_some_iff hordered).2 hv] at hd
    exact Option.some.inj hd
  · refine (hpaths.missing ["a", "c", "0"] "a.c.0" ⟨by decide, by decide, rfl⟩).2 fun v hv => ?_
    have hnone : memberAt ["a", "c", "0"] document = none := rfl
    rw [(memberAt_eq_some_iff hordered).2 hv] at hnone
    cases hnone
  · exact hpaths.flat hdots TextMap memoryName Cell.whole (flattened document) rfl "a.c"
      (.inl ⟨_, ⟨["a", "c"], by decide, hc, rfl⟩, fun _ h => nomatch h⟩)

end FileSource

end Config

end AuthChain

import AuthChain.Auth.Details
import AuthChain.Proofs.Json.Records
import Mathlib.Data.List.Rotate

/-!
# Details restored from their JSON form

A document stands for details as an object or as an array. In an object each part is the member of
its name: a text may be missing or null, attributes may be missing, and other members do not matter.
In an array the address and the session are given, the attributes may be missing. Decoding gives
exactly what a document stands for, and the JSON form of details stands for these details.

Main statement: `AuthenticationDetails.json_form_is_restored`.
-/

namespace AuthChain.Auth

open Json (Value Members OptionalText OptionalTexts)

/-! ## Details assembled by additions -/

/-- A call that adds to details. -/
inductive Addition where
  | remoteAddress (address : String)
  | sessionId (id : String)
  | named (key value : String)

namespace Addition

def apply (d : AuthenticationDetails) : Addition → AuthenticationDetails
  | remoteAddress address => d.withRemoteAddress address
  | sessionId id => d.withSessionId id
  | named key value => d.withAttribute key value

/-- The address that is given. -/
def address? : Addition → Option String
  | remoteAddress address => some address
  | _ => none

/-- The session that is given. -/
def session? : Addition → Option String
  | sessionId id => some id
  | _ => none

/-- The value that is given to an attribute. -/
def value? (key : String) : Addition → Option String
  | named k v => if key = k then some v else none
  | _ => none

end Addition

/-- The last value that one of the additions gives. -/
def lastGiven (given : Addition → Option String) (additions : List Addition) : Option String :=
  (additions.filterMap given).getLast?

theorem lastGiven_concat (given : Addition → Option String) (additions : List Addition)
    (a : Addition) :
    lastGiven given (additions ++ [a]) = (given a).or (lastGiven given additions) := by
  unfold lastGiven
  rw [List.filterMap_append, List.getLast?_append, List.filterMap_cons]
  cases given a <;> rfl

namespace AuthenticationDetails

/-- The details after the additions, one after another. -/
def assembled (additions : List Addition) : AuthenticationDetails :=
  additions.foldl Addition.apply empty

/-- Each part of the details is what the additions gave last for it. -/
structure Collects (additions : List Addition) (d : AuthenticationDetails) : Prop where
  address : d.remoteAddress = lastGiven Addition.address? additions
  session : d.sessionId = lastGiven Addition.session? additions
  attributes (key : String) : d.attributes.get? key = lastGiven (Addition.value? key) additions

theorem Collects.apply {additions : List Addition} {d : AuthenticationDetails}
    (h : Collects additions d) (a : Addition) : Collects (additions ++ [a]) (a.apply d) := by
  constructor
  · rw [lastGiven_concat, ← h.address]
    cases a <;> rfl
  · rw [lastGiven_concat, ← h.session]
    cases a <;> rfl
  · intro key
    rw [lastGiven_concat, ← h.attributes key]
    cases a with
    | named k v =>
      refine (TextMap.get?_insert d.attributes k v key).trans ?_
      by_cases hkey : key = k <;> simp [Addition.value?, hkey]
    | _ => rfl

theorem collects_assembled (additions : List Addition) :
    Collects additions (assembled additions) := by
  induction additions using List.reverseRecOn with
  | nil => exact ⟨rfl, rfl, fun _ => rfl⟩
  | append_singleton additions a ih =>
    rw [assembled, List.foldl_append]
    exact ih.apply a

/-! ## What a document stands for -/

/-- The members for the parts of details, as far as there are any, give the parts. -/
structure Gives (address session attributes : Option Value) (d : AuthenticationDetails) :
    Prop where
  address : OptionalText address d.remoteAddress
  session : OptionalText session d.sessionId
  attributes : OptionalTexts attributes d.attributes

/-- A document stands for details, as an object by the names of its members or as an array by the
places of its items. -/
inductive Represents : Value → AuthenticationDetails → Prop
  | object {ms : Members} {d : AuthenticationDetails}
      (h : Gives (ms.lookup "remote_address") (ms.lookup "session_id") (ms.lookup "attributes") d) :
      Represents (.object ms) d
  | array {v w : Value} {member : Option Value} {d : AuthenticationDetails}
      (h : Gives (some v) (some w) member d) : Represents (.array (v :: w :: member.toList)) d

/-! ## Decoding -/

section Fields

variable {member : Option Value} {d e : AuthenticationDetails}

theorem setFrom_address (h : d.remoteAddress = none) :
    fields[0].setFrom member d = .ok e ↔
      ∃ s, OptionalText member s ∧ e = { d with remoteAddress := s } := by
  have hnone : { d with remoteAddress := none } = d := by rw [← h]
  exact Json.setFrom_optionalText (α := AuthenticationDetails)
    (fun d s => { d with remoteAddress := s }) (fun _ _ => rfl) hnone

theorem setFrom_session (h : d.sessionId = none) :
    fields[1].setFrom member d = .ok e ↔
      ∃ s, OptionalText member s ∧ e = { d with sessionId := s } := by
  have hnone : { d with sessionId := none } = d := by rw [← h]
  exact Json.setFrom_optionalText (α := AuthenticationDetails)
    (fun d s => { d with sessionId := s }) (fun _ _ => rfl) hnone

theorem setFrom_attributes (h : d.attributes = .empty) (hmember : ∀ v ∈ member, v.Ordered) :
    fields[2].setFrom member d = .ok e ↔
      ∃ m, OptionalTexts member m ∧ e = { d with attributes := m } := by
  have hempty : { d with attributes := .empty } = d := by rw [← h]
  exact Json.setFrom_texts (α := AuthenticationDetails)
    (fun d m => { d with attributes := m }) (fun _ _ => rfl) hempty hmember

end Fields

variable {v w : Value} {member : Option Value} {d : AuthenticationDetails}

/-- The members of an object are in the order of their names, so the attributes come first. -/
theorem setMembers_fields {ms : Members} (h : ms.Pairwise (fun a b => a.1 < b.1)) :
    Json.setMembers fields ms empty = (do
      let d ← fields[2].setFrom (ms.lookup "attributes") empty
      let d ← fields[0].setFrom (ms.lookup "remote_address") d
      fields[1].setFrom (ms.lookup "session_id") d) := by
  have horder : fields.rotate 2 = [fields[2], fields[0], fields[1]] := rfl
  have hnames : (fields.rotate 2).Pairwise (fun f g => f.name < g.name) := by
    rw [horder]
    decide
  rw [Json.setMembers_eq_foldlM h (fields.rotate_perm 2) hnames, horder]
  simp only [List.foldlM_cons, List.foldlM_nil, bind_pure]
  rfl

theorem ofJson_object {ms : Members} (h : (Value.object ms).Ordered) :
    ofJson (.object ms) = .ok d ↔ Represents (.object ms) d := by
  have hread : ofJson (.object ms) = _ := setMembers_fields h.1
  have hmember : ∀ v ∈ ms.lookup "attributes", v.Ordered := fun v hv =>
    (Json.membersOrdered_iff ms).1 h.2 _ ((lookup_of_pairwise h.1).1 hv)
  rw [hread]
  constructor
  · intro hd
    obtain ⟨_, hattributes, hd⟩ := Json.ok_of_bind hd
    obtain ⟨m, hm, rfl⟩ := (setFrom_attributes rfl hmember).1 hattributes
    obtain ⟨_, haddress, hd⟩ := Json.ok_of_bind hd
    obtain ⟨a, ha, rfl⟩ := (setFrom_address rfl).1 haddress
    obtain ⟨s, hs, rfl⟩ := (setFrom_session rfl).1 hd
    exact .object ⟨ha, hs, hm⟩
  · rintro ⟨ha, hs, hm⟩
    rw [Json.bind_of_ok ((setFrom_attributes rfl hmember).2 ⟨_, hm, rfl⟩),
      Json.bind_of_ok ((setFrom_address rfl).2 ⟨_, ha, rfl⟩)]
    exact (setFrom_session rfl).2 ⟨_, hs, rfl⟩

/-- The items of an array are in the order of the fields. -/
theorem setItems_fields :
    Json.setItems fields (v :: w :: member.toList) empty = (do
      let d ← fields[0].setFrom (some v) empty
      let d ← fields[1].setFrom (some w) d
      fields[2].setFrom member d) := by
  cases member with
  | none => rfl
  | some x =>
    have hlast : ∀ d, Json.setItems [fields[2]] [x] d = fields[2].set x d := fun _ => bind_pure _
    exact congrArg (_ >>= ·) (funext fun _ => congrArg (_ >>= ·) (funext hlast))

theorem setItems_eq_ok_iff (hmember : ∀ x ∈ member, x.Ordered) :
    Json.setItems fields (v :: w :: member.toList) empty = .ok d ↔
      Gives (some v) (some w) member d := by
  rw [setItems_fields]
  constructor
  · intro hd
    obtain ⟨_, haddress, hd⟩ := Json.ok_of_bind hd
    obtain ⟨a, ha, rfl⟩ := (setFrom_address rfl).1 haddress
    obtain ⟨_, hsession, hd⟩ := Json.ok_of_bind hd
    obtain ⟨s, hs, rfl⟩ := (setFrom_session rfl).1 hsession
    obtain ⟨m, hm, rfl⟩ := (setFrom_attributes rfl hmember).1 hd
    exact ⟨ha, hs, hm⟩
  · rintro ⟨ha, hs, hm⟩
    rw [Json.bind_of_ok ((setFrom_address rfl).2 ⟨_, ha, rfl⟩),
      Json.bind_of_ok ((setFrom_session rfl).2 ⟨_, hs, rfl⟩)]
    exact (setFrom_attributes rfl hmember).2 ⟨_, hm, rfl⟩

theorem ofJson_array {items : List Value} (h : (Value.array items).Ordered) :
    ofJson (.array items) = .ok d ↔ Represents (.array items) d := by
  have hordered := (Json.itemsOrdered_iff items).1 h
  rw [ofJson, Json.record_array_eq_ok_iff]
  constructor
  · rintro ⟨hread, hlow, hhigh⟩
    have hhigh : items.length ≤ 3 := hhigh
    obtain ⟨v, w, member, rfl⟩ : ∃ v w, ∃ member : Option Value,
        items = v :: w :: member.toList := by
      -- the bounds leave two items and three
      match items with
      | [v, w] => exact ⟨v, w, none, rfl⟩
      | [v, w, x] => exact ⟨v, w, some x, rfl⟩
    refine .array ((setItems_eq_ok_iff fun x hx => hordered x ?_).1 hread)
    exact List.mem_cons_of_mem _ (List.mem_cons_of_mem _ (Option.mem_toList.2 hx))
  · intro hd
    cases hd with
    | @array v w member _ hgives =>
      refine ⟨(setItems_eq_ok_iff fun x hx => hordered x ?_).2 hgives, ?_, ?_⟩
      · exact List.mem_cons_of_mem _ (List.mem_cons_of_mem _ (Option.mem_toList.2 hx))
      · exact Nat.le_add_left 2 _
      · cases member with
        | none => exact Nat.le_succ 2
        | some x => exact Nat.le_refl 3

/-- Decoding a document in order gives exactly what the document stands for. -/
theorem ofJson_eq_ok_iff (h : v.Ordered) : ofJson v = .ok d ↔ Represents v d := by
  cases v with
  | object ms => exact ofJson_object h
  | array items => exact ofJson_array h
  | _ => exact ⟨fun hd => (nomatch hd), fun hd => (nomatch hd)⟩

/-! ## The JSON form -/

theorem lookup_optionalMember (name other : String) (s : Option String) :
    (optionalMember name s).reverse.lookup other =
      if other = name then s.map .string else none := by
  cases s with
  | none => exact (ite_self none).symm
  | some s => exact Json.lookup_member name (.string s) [] other

theorem lookup_attributeMembers (m : TextMap) (other : String) :
    (attributeMembers m).reverse.lookup other =
      if other = "attributes" then if m.isEmpty then none else some (.ofTexts m) else none := by
  unfold attributeMembers
  split
  · exact (ite_self none).symm
  · exact Json.lookup_member "attributes" (.ofTexts m) [] other

theorem optionalText_map (s : Option String) : OptionalText (s.map .string) s := by
  cases s with
  | none => exact .missing
  | some s => exact .text s

theorem optionalTexts_unless_empty (m : TextMap) :
    OptionalTexts (if m.isEmpty then none else some (.ofTexts m)) m := by
  split
  · next h =>
    have hempty : m = .empty := TextMap.ext (List.isEmpty_iff.1 h)
    rw [hempty]
    exact .missing
  · exact .texts m

/-- The members of the JSON form are texts and the object of the attributes. -/
theorem forall_mem_members (P : Value → Prop) (htext : ∀ s, P (.string s))
    (hattributes : P (.ofTexts d.attributes)) :
    ∀ m ∈ optionalMember "remote_address" d.remoteAddress ++
      optionalMember "session_id" d.sessionId ++ attributeMembers d.attributes, P m.2 := by
  have hoptional : ∀ name s, ∀ m ∈ optionalMember name s, P m.2 := by
    intro name s m hm
    cases s with
    | none => cases hm
    | some s =>
      rw [List.mem_singleton.1 hm]
      exact htext s
  intro m hm
  rcases List.mem_append.1 hm with hm | hm
  · rcases List.mem_append.1 hm with hm | hm
    · exact hoptional _ _ m hm
    · exact hoptional _ _ m hm
  · unfold attributeMembers at hm
    split at hm
    · cases hm
    · rw [List.mem_singleton.1 hm]
      exact hattributes

theorem ordered_toJson (d : AuthenticationDetails) : d.toJson.Ordered :=
  Json.ordered_ofMembers
    (forall_mem_members Value.Ordered (fun _ => trivial) (Json.ordered_ofTexts d.attributes))

theorem fits_toJson (d : AuthenticationDetails) : d.toJson.Fits Json.nestingLimit := by
  refine Json.fits_ofMembers (forall_mem_members (·.Fits 126) (fun _ => trivial) ?_)
  refine ⟨by decide, (Json.membersFit_iff _ _).2 fun e he => ?_⟩
  obtain ⟨_, -, rfl⟩ := List.mem_map.1 he
  trivial

/-- What is left out of the JSON form is what a missing member stands for. -/
theorem represents_toJson (d : AuthenticationDetails) : Represents d.toJson d := by
  have hlookup : ∀ name, d.toJson.member? name =
      ((attributeMembers d.attributes).reverse.lookup name).or
        (((optionalMember "session_id" d.sessionId).reverse.lookup name).or
          ((optionalMember "remote_address" d.remoteAddress).reverse.lookup name)) := by
    intro name
    rw [toJson, Json.member?_ofMembers, List.reverse_append, List.reverse_append,
      List.lookup_append, List.lookup_append]
  -- the three names differ, so each part is found among its own members only
  simp only [lookup_attributeMembers, lookup_optionalMember] at hlookup
  have haddress : d.toJson.member? "remote_address" = d.remoteAddress.map .string := by
    simp [hlookup]
  have hsession : d.toJson.member? "session_id" = d.sessionId.map .string := by
    simp [hlookup]
  have hattributes : d.toJson.member? "attributes" =
      if d.attributes.isEmpty then none else some (.ofTexts d.attributes) := by
    simp [hlookup]
  have hgives : Gives (d.toJson.member? "remote_address") (d.toJson.member? "session_id")
      (d.toJson.member? "attributes") d := by
    rw [haddress, hsession, hattributes]
    exact ⟨optionalText_map _, optionalText_map _, optionalTexts_unless_empty _⟩
  exact .object hgives

theorem ofJson_toJson (d : AuthenticationDetails) : ofJson d.toJson = .ok d :=
  (ofJson_eq_ok_iff (ordered_toJson d)).2 (represents_toJson d)

theorem parse_toJson (d : AuthenticationDetails) : Json.parse d.toJson.compact = .ok d.toJson :=
  Json.parse_compact_of_ordered (fits_toJson d) (ordered_toJson d)

/-- The JSON form of details is restored to these details, also over its text, and however the
details were assembled. What a document is decoded to, which is what it stands for as an object or
as an array, is restored from its own JSON form. -/
theorem json_form_is_restored :
    (∀ d : AuthenticationDetails,
      ofJson d.toJson = .ok d ∧ Json.parse d.toJson.compact = .ok d.toJson) ∧
    (∀ additions : List Addition, Collects additions (assembled additions) ∧
      ofJson (assembled additions).toJson = .ok (assembled additions)) ∧
    (∀ (v : Value) (d : AuthenticationDetails), v.Ordered →
      (ofJson v = .ok d ↔ Represents v d)) ∧
    ∀ (v : Value) (d : AuthenticationDetails), ofJson v = .ok d →
      Represents d.toJson d ∧ ofJson d.toJson = .ok d :=
  ⟨fun d => ⟨ofJson_toJson d, parse_toJson d⟩,
    fun additions => ⟨collects_assembled additions, ofJson_toJson (assembled additions)⟩,
    fun _ _ h => ofJson_eq_ok_iff h,
    fun _ d _ => ⟨represents_toJson d, ofJson_toJson d⟩⟩

/-- An object with a null and with a member of an unknown name, and an array. -/
theorem null_and_unknown_member_are_dropped :
    let d : AuthenticationDetails := ⟨none, some "s1", .ofList [("tenant", "acme")]⟩
    let v : Value := .object [("attributes", .object [("tenant", .string "acme")]),
      ("remote_address", .null), ("session_id", .string "s1"), ("user", .bool true)]
    let w : Value := .array [.null, .string "s1", .object [("tenant", .string "acme")]]
    (ofJson v = .ok d ∧ v.Ordered ∧ Represents v d) ∧
      (ofJson w = .ok d ∧ w.Ordered ∧ Represents w d) ∧ ofJson d.toJson = .ok d := by
  intro d v w
  have hv : ofJson v = .ok d := by rfl
  have hw : ofJson w = .ok d := by rfl
  have htenant : (Value.object [("tenant", .string "acme")]).Ordered :=
    ⟨List.pairwise_singleton _ _, trivial, trivial⟩
  have hvOrdered : v.Ordered := ⟨by decide, htenant, trivial, trivial, trivial, trivial⟩
  have hwOrdered : w.Ordered := ⟨trivial, trivial, htenant, trivial⟩
  obtain ⟨-, -, hstands, hback⟩ := json_form_is_restored
  exact ⟨⟨hv, hvOrdered, (hstands v d hvOrdered).1 hv⟩,
    ⟨hw, hwOrdered, (hstands w d hwOrdered).1 hw⟩, (hback v d hv).2⟩

end AuthenticationDetails

end AuthChain.Auth

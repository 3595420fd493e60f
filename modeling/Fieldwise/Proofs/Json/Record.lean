import Fieldwise.Json.Record
import Fieldwise.Proofs.Text.Utf8
import Fieldwise.Proofs.Validation.Composition

/-!
Two ways to read a record from JSON. Both accept the texts of objects and no others, and both give each
field the value of its last member. They differ in the order of the fields, which is that of the bytes of
the names in one and that of the text in the other; to a validation they are one record.
-/

namespace Fieldwise

namespace Json

/-! ### Members in order -/

section Members
variable {α : Type} {members : List (String × α)} {key : String} {value : α}

theorem lookup_insertMember (k : String) : (insertMember key value members).lookup k =
    if k = key then some value else members.lookup k := by
  fun_induction insertMember key value members with
  | case1 => rw [List.lookup_cons]; grind
  | case2 k' v rest hlt => rw [List.lookup_cons]; grind
  | case3 v rest hlt => rw [List.lookup_cons, List.lookup_cons]; grind
  | case4 k' v rest hlt hne ih => rw [List.lookup_cons, List.lookup_cons, ih]; grind

theorem mem_keys_insertMember {k : String} :
    k ∈ (insertMember key value members).map Prod.fst ↔ k = key ∨ k ∈ members.map Prod.fst := by
  fun_induction insertMember key value members with
  | case1 => simp
  | case2 k' v rest hlt => simp
  | case3 v rest hlt => simp
  | case4 k' v rest hlt hne ih =>
    simp only [List.map_cons, List.mem_cons, ih]
    tauto

/-- The keys stay in order. -/
theorem pairwise_insertMember (h : (members.map Prod.fst).Pairwise (· < ·)) :
    ((insertMember key value members).map Prod.fst).Pairwise (· < ·) := by
  fun_induction insertMember key value members with
  | case1 => simp
  | case2 k' v rest hlt =>
    refine List.pairwise_cons.mpr ⟨fun k hk => ?_, h⟩
    rcases List.mem_cons.mp hk with rfl | hk
    · exact hlt
    · exact hlt.trans ((List.pairwise_cons.mp h).1 k hk)
  | case3 v rest hlt => exact h
  | case4 k' v rest hlt hne ih =>
    obtain ⟨hrest, h⟩ := List.pairwise_cons.mp h
    refine List.pairwise_cons.mpr ⟨fun k hk => ?_, ih h⟩
    rcases mem_keys_insertMember.mp hk with rfl | hk
    · exact lt_of_le_of_ne (not_lt.mp hlt) (Ne.symm hne)
    · exact hrest k hk

theorem sortMembers_concat (members : List (String × α)) (m : String × α) :
    sortMembers (members ++ [m]) = insertMember m.1 m.2 (sortMembers members) := by
  simp [sortMembers]

theorem pairwise_sortMembers (members : List (String × α)) :
    ((sortMembers members).map Prod.fst).Pairwise (· < ·) := by
  induction members using List.reverseRecOn with
  | nil => exact .nil
  | append_singleton members m ih =>
    rw [sortMembers_concat]
    exact pairwise_insertMember ih

/-- Of several members with one key the last one stays. -/
theorem lookup_sortMembers (members : List (String × α)) (key : String) :
    (sortMembers members).lookup key =
      ((members.filter fun m => m.1 = key).getLast?).map Prod.snd := by
  induction members using List.reverseRecOn with
  | nil => rfl
  | append_singleton members m ih =>
    rw [sortMembers_concat, lookup_insertMember, ih, List.filter_append]
    by_cases h : m.1 = key
    · simp [h]
    · simp [h, Ne.symm h]

end Members

/-! ### Objects -/

/-- The members have the values of the nodes, one by one. -/
def HaveValues (nodes : List (Quoted × Node)) (members : List (String × Value)) : Prop :=
  List.Forall₂ (fun n m => n.1.string? = some m.1 ∧ n.2.value? = some m.2) nodes members

theorem memberValues?_eq_some_iff {nodes : List (Quoted × Node)} {members : List (String × Value)} :
    Node.memberValues? nodes = some members ↔ HaveValues nodes members := by
  unfold HaveValues
  induction nodes generalizing members with
  | nil => simp [Node.memberValues?, eq_comm]
  | cons n nodes ih =>
    obtain ⟨k, n⟩ := n
    rw [Node.memberValues?, List.forall₂_cons_left_iff]
    constructor
    · intro h
      split at h
      · next key value rest hk hn hrest =>
        cases h
        exact ⟨(key, value), rest, ⟨hk, hn⟩, ih.mp hrest, rfl⟩
      · cases h
    · rintro ⟨m, rest, ⟨hk, hn⟩, hrest, rfl⟩
      rw [hk, hn, ih.mpr hrest]

/-- The text is that of an object, and these are its members in the order of the text, repeated ones
    included. -/
def IsObject (s : String) (members : List (String × Value)) : Prop :=
  ∃ nodes, Node.readShallow? s.toList = some (.object nodes) ∧ HaveValues nodes members

theorem IsObject.unique {s : String} {members members' : List (String × Value)}
    (h : IsObject s members) (h' : IsObject s members') : members = members' := by
  obtain ⟨nodes, hread, hvalues⟩ := h
  obtain ⟨nodes', hread', hvalues'⟩ := h'
  cases hread.symm.trans hread'
  rw [← memberValues?_eq_some_iff] at hvalues hvalues'
  exact Option.some.inj (hvalues.symm.trans hvalues')

end Json

namespace Record
open Json
variable {s : String} {r r' : Record}

/-! ### The two readings -/

theorem readInOrder?_eq_some_iff :
    readInOrder? s = some r ↔ ∃ members, IsObject s members ∧ r = ofMembers members := by
  unfold readInOrder? IsObject
  constructor
  · intro h
    split at h
    · next nodes hread =>
      obtain ⟨members, hmembers, rfl⟩ := Option.map_eq_some_iff.mp h
      exact ⟨members, ⟨nodes, hread, memberValues?_eq_some_iff.mp hmembers⟩, rfl⟩
    · cases h
  · rintro ⟨members, ⟨nodes, hread, hmembers⟩, rfl⟩
    rw [hread]
    exact Option.map_eq_some_iff.mpr ⟨members, memberValues?_eq_some_iff.mpr hmembers, rfl⟩

/-- A node is an object exactly when its value is one. -/
theorem value?_eq_object_iff {n : Node} {sorted : List (String × Value)} :
    n.value? = some (.object sorted) ↔
      ∃ nodes members, n = .object nodes ∧ HaveValues nodes members ∧ sorted = sortMembers members := by
  cases n with
  | object nodes =>
    simp only [← memberValues?_eq_some_iff, Node.value?, Option.map_eq_some_iff]
    constructor
    · rintro ⟨members, hmembers, heq⟩
      cases heq
      exact ⟨nodes, members, rfl, hmembers, rfl⟩
    · rintro ⟨_, members, ⟨⟩, hmembers, rfl⟩
      exact ⟨members, hmembers, rfl⟩
  | _ => simp [Node.value?]

theorem readSorted_eq_ok_iff :
    readSorted s = .ok r ↔ ∃ members, IsObject s members ∧ r = ofMembers (sortMembers members) := by
  unfold readSorted IsObject Value.read?
  constructor
  · intro h
    split at h
    · cases h
    · next sorted hread =>
      cases h
      obtain ⟨n, hnode, hvalue⟩ := Option.bind_eq_some_iff.mp hread
      obtain ⟨nodes, members, rfl, hmembers, rfl⟩ := value?_eq_object_iff.mp hvalue
      exact ⟨members, ⟨nodes, hnode, hmembers⟩, rfl⟩
    · cases h
  · rintro ⟨members, ⟨nodes, hread, hmembers⟩, rfl⟩
    rw [hread, Option.bind_some, value?_eq_object_iff.mpr ⟨nodes, members, rfl, hmembers, rfl⟩]

/-! ### Fields and their order -/

theorem keys_ofMembers (members : List (String × Value)) :
    (ofMembers members).keys = (members.map Prod.fst).eraseDups := by
  rw [ofMembers, Table.keys_ofList, List.map_map]
  rfl

theorem get?_ofMembers (members : List (String × Value)) (field : String) :
    (ofMembers members).get? field =
      ((members.filter fun m => m.1 = field).getLast?).map fun m => FieldValue.ofJson m.2 := by
  rw [ofMembers, Table.get?_ofList, List.filter_map, List.getLast?_map, Option.map_map]
  rfl

theorem nodup_sortMembers (members : List (String × Value)) :
    ((sortMembers members).map Prod.fst).Nodup :=
  (pairwise_sortMembers members).imp ne_of_lt

theorem keys_ofMembers_sortMembers (members : List (String × Value)) :
    (ofMembers (sortMembers members)).keys = (sortMembers members).map Prod.fst := by
  have hkeys := Table.map_fst_map FieldValue.ofJson (sortMembers members)
  rw [ofMembers, Table.keys, Table.entries_ofList (hkeys ▸ nodup_sortMembers members), hkeys]

theorem get?_ofMembers_sortMembers (members : List (String × Value)) (field : String) :
    (ofMembers (sortMembers members)).get? field = (ofMembers members).get? field := by
  have hlast : (((sortMembers members).filter fun m => m.1 = field).getLast?).map Prod.snd =
      ((members.filter fun m => m.1 = field).getLast?).map Prod.snd := by
    rw [← Table.get?_ofList, Table.get?, Table.entries_ofList (nodup_sortMembers members),
      lookup_sortMembers]
  have hvalue := congrArg (Option.map FieldValue.ofJson) hlast
  rw [Option.map_map, Option.map_map] at hvalue
  rw [get?_ofMembers, get?_ofMembers]
  exact hvalue

/-- A text gives a record in one way exactly when it does in the other, and then it is that of an object.
    Both records give each field the value of its last member; the fields of one stand in the order of
    the bytes of their names and those of the other in the order in which the text first has them. Every
    validation of the one is that of the other. -/
theorem json_readings_agree (s : String) :
    ((∃ r, readSorted s = .ok r) ↔ ∃ r, readInOrder? s = some r) ∧
    ∀ r r', readSorted s = .ok r → readInOrder? s = some r' →
      (∃ members, IsObject s members ∧ r'.keys = (members.map Prod.fst).eraseDups ∧
        ∀ field, r'.get? field =
            ((members.filter fun m => m.1 = field).getLast?).map (fun m => FieldValue.ofJson m.2) ∧
          r.get? field = r'.get? field) ∧
      r.keys.Pairwise (fun a b => utf8Bytes a < utf8Bytes b) ∧
      ∀ v table, Validator.validate v table r = Validator.validate v table r' := by
  constructor
  · simp only [readSorted_eq_ok_iff, readInOrder?_eq_some_iff]
    constructor
    · rintro ⟨-, members, hobject, -⟩
      exact ⟨_, members, hobject, rfl⟩
    · rintro ⟨-, members, hobject, -⟩
      exact ⟨_, members, hobject, rfl⟩
  · intro r r' hsorted hinOrder
    obtain ⟨members, hobject, rfl⟩ := readSorted_eq_ok_iff.mp hsorted
    obtain ⟨members', hobject', rfl⟩ := readInOrder?_eq_some_iff.mp hinOrder
    obtain rfl := hobject.unique hobject'
    have hget := get?_ofMembers_sortMembers members
    refine ⟨⟨members, hobject, keys_ofMembers members,
      fun field => ⟨get?_ofMembers members field, hget field⟩⟩, ?_, fun v table => ?_⟩
    · rw [keys_ofMembers_sortMembers]
      exact (pairwise_sortMembers members).imp utf8Bytes_lt_iff.mpr
    · refine Validator.validate_congr_record fun field _ => ?_
      rw [Record.value, Record.value, hget]

/-- A member that comes twice, and a name whose bytes are above those of the Latin letters: the same
    record in two orders. -/
theorem repeated_member_in_both_readings :
    let s := "\x7b\"z\":1,\"é\":[2, true],\"a\":null,\"z\":\"x\"\x7d"
    ∃ r r', readSorted s = .ok r ∧ readInOrder? s = some r' ∧ r.keys = ["a", "z", "é"] ∧
      r'.keys = ["z", "é", "a"] ∧ r.get? "z" = r'.get? "z" ∧
      ∀ v table, Validator.validate v table r = Validator.validate v table r' := by
  intro s
  obtain ⟨r', hinOrder, hkeys'⟩ := Option.map_eq_some_iff.mp
    (show (readInOrder? s).map Table.keys = some ["z", "é", "a"] by decide +kernel)
  obtain ⟨hiff, hagree⟩ := json_readings_agree s
  obtain ⟨r, hsorted⟩ := hiff.mpr ⟨r', hinOrder⟩
  obtain ⟨⟨_, _, _, hget⟩, -, hvalidate⟩ := hagree r r' hsorted hinOrder
  have hkeys : (match readSorted s with | .ok r => r.keys | .error _ => []) = ["a", "z", "é"] := by
    decide +kernel
  rw [hsorted] at hkeys
  exact ⟨r, r', hsorted, hinOrder, hkeys, hkeys', (hget "z").2, hvalidate⟩

end Record

end Fieldwise

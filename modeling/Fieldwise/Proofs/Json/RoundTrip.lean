import Fieldwise.Proofs.Json.Record
import Fieldwise.Proofs.Json.Token

/-!
Records survive being written as JSON. Each value but a floating point number is written as one token, and
the object that a record is written as is read back member by member: a field name and a text come back
character for character, an integer up to both ends of its range, and a date as the text of it. The fields
keep their order.
-/

namespace Fieldwise

namespace Json

/-! ### Objects of values without structure -/

/-- One token is enough for the value: wherever a mark or nothing follows the text, the token is read, and
    it is the whole value. -/
def IsScalarText (text : List Char) (n : Node) : Prop :=
  ∃ t, (∀ rest, MarkAhead rest → BeginsWith (text ++ rest) t rest) ∧
    ∀ outer, Reading.beginValue outer t = some (.complete outer n)

/-- A member that is written for a name and the text of a value. -/
def IsMember (m : String × List Char) (n : Quoted × Node) : Prop :=
  n.1 = unitsOf m.1.toList ∧ IsScalarText m.2 n.2

/-- A member as it is written in an object. -/
def memberText (m : String × List Char) : List Char := quote m.1.toList ++ ':' :: m.2

section Objects
variable {text rest : List Char} {m : String × List Char} {members : List (String × List Char)}
variable {n : Node} {node : Quoted × Node} {nodes done : List (Quoted × Node)} {s s' : Reading}
variable {outer : List Frame}

theorem IsScalarText.depth_eq_zero (h : IsScalarText text n) : n.depth = 0 := by
  obtain ⟨t, -, hbegin⟩ := h
  have hbegin := hbegin []
  cases t <;> cases hbegin <;> rfl

/-- From a state that waits for a key, a member leads to the end of its value. -/
theorem leads_member (hm : IsMember m node)
    (hkey : ∀ k, s.step (.string k) = some (.colon outer done k)) (hrest : MarkAhead rest)
    (others : Leads (.complete (.object done node.1 :: outer) node.2) rest s') :
    Leads s (memberText m ++ rest) s' := by
  obtain ⟨k, n⟩ := node
  obtain ⟨hk, t, htoken, hbegin⟩ := hm
  cases hk
  have hvalue : Leads (.value (.object done (unitsOf m.1.toList) :: outer)) (m.2 ++ rest) s' :=
    .token (htoken rest hrest) (hbegin _) others
  have hcolon : Leads (.colon outer done (unitsOf m.1.toList)) (':' :: (m.2 ++ rest)) s' :=
    .token (beginsWith_mark rfl _) rfl hvalue
  rw [memberText, List.append_assoc]
  exact .token (beginsWith_quote _ _) (hkey _) hcolon

/-- The members lead to the end of the object. Those that were read before are in reverse. -/
theorem leads_members (hm : IsMember m node) (hmembers : List.Forall₂ IsMember members nodes)
    (hkey : ∀ k, s.step (.string k) = some (.colon outer done k)) :
    Leads s (List.intercalate [','] ((m :: members).map memberText) ++ ['\x7d'])
      (.complete outer (.object (done.reverse ++ node :: nodes))) := by
  induction hmembers generalizing m node s done with
  | nil =>
    rw [List.map_cons, List.map_nil, List.intercalate_singleton, ← List.reverse_cons]
    exact leads_member hm hkey (markAhead_cons rfl) (.token (beginsWith_mark rfl _) rfl (.done _))
  | @cons m' node' members nodes hm' _ ih =>
    -- After the comma another member is read, with the one before it among those that are done.
    have hothers := ih (s := .key outer (node :: done)) hm' fun _ => rfl
    rw [List.reverse_cons, List.append_assoc] at hothers
    rw [List.map_cons, List.map_cons, List.intercalate_cons_cons, List.append_assoc, List.append_assoc]
    exact leads_member hm hkey (markAhead_cons rfl) (.token (beginsWith_mark rfl _) rfl hothers)

theorem read?_objectText (h : List.Forall₂ IsMember members nodes) :
    Node.read? (objectText members) = some (.object nodes) := by
  have hkey : ∀ k, (Reading.firstKey []).step (.string k) = some (.colon [] [] k) := fun _ => rfl
  have hfirst : Leads (.firstKey []) (List.intercalate [','] (members.map memberText) ++ ['\x7d'])
      (.complete [] (.object nodes)) := by
    cases h with
    | nil => exact .token (beginsWith_mark rfl _) rfl (.done _)
    | cons hm hmembers => exact leads_members hm hmembers hkey
  exact read?_of_leads (.token (beginsWith_mark rfl _) rfl hfirst)

theorem membersDepth_eq_zero (h : List.Forall₂ IsMember members nodes) :
    Node.membersDepth nodes = 0 := by
  induction h with
  | nil => rfl
  | cons hm _ ih => rw [Node.membersDepth, hm.2.depth_eq_zero, ih, Nat.max_self]

/-- The object that is written is read back, with its members in their order. -/
theorem readShallow?_objectText (h : List.Forall₂ IsMember members nodes) :
    Node.readShallow? (objectText members) = some (.object nodes) := by
  refine Option.filter_eq_some_iff.mpr ⟨read?_objectText h, decide_eq_true ?_⟩
  rw [Node.depth, membersDepth_eq_zero h]
  decide

end Objects

/-! ### Integers -/

theorem wholeNumber_integerLiteral (n : Int) : (integerLiteral n).wholeNumber = n.natAbs :=
  Nat.ofDigitChars_ten_toDigits

theorem value?_integerLiteral {n : Int} (h : FieldValue.minInteger ≤ n ∧ n ≤ FieldValue.maxInteger) :
    (integerLiteral n).value? = some (.integer n) := by
  unfold FieldValue.minInteger FieldValue.maxInteger at h
  have hinteger : (integerLiteral n).IsInteger := by
    refine ⟨rfl, rfl, ?_⟩
    rw [wholeNumber_integerLiteral, integerLiteral]
    split
    · next hneg =>
      have hneg : n < 0 := of_decide_eq_true hneg
      omega
    · omega
  rw [NumberLiteral.value?, if_pos hinteger, wholeNumber_integerLiteral, integerLiteral]
  split
  · next hneg =>
    have hneg : n < 0 := of_decide_eq_true hneg
    rw [show -(n.natAbs : Int) = n by omega]
  · next hpos =>
    have hpos : ¬ n < 0 := of_decide_eq_false (Bool.not_eq_true _ ▸ hpos)
    rw [show (n.natAbs : Int) = n by omega]

end Json

open Json

/-! ### Values -/

namespace FieldValue

/-- What a value is after it was written as JSON and read again: a date and a time are the texts of them. -/
def afterJson : FieldValue → FieldValue
  | date d => text (String.ofList d.text)
  | dateTime t => text (String.ofList t.exactText)
  | v => v

/-- The kinds of value that come back from JSON as they were. -/
def plainKinds : List ValueKind := [.null, .boolean, .integer, .text]

section Values
variable {v : FieldValue}

theorem toInt_mem_range (n : Int64) : minInteger ≤ n.toInt ∧ n.toInt ≤ maxInteger := by
  have hle := n.le_toInt
  have hlt := n.toInt_lt
  unfold minInteger maxInteger
  omega

theorem ofJson_integer (n : Int64) : ofJson (.number (.integer n.toInt)) = integer n := by
  rw [ofJson, ofNumber, if_pos (toInt_mem_range n), Int64.ofInt_toInt]

theorem isScalarText_quote (text : List Char) : IsScalarText (quote text) (.string (unitsOf text)) :=
  ⟨.string (unitsOf text), fun rest _ => beginsWith_quote text rest, fun _ => rfl⟩

theorem value?_unitsOf (text : List Char) :
    (Node.string (unitsOf text)).value? = some (.string (String.ofList text)) := by
  rw [Node.value?, string?_unitsOf, Option.map_some]

/-- What is written for a value is one token, from which the value is read again. -/
theorem exists_isScalarText_json (h : v.kind ≠ .float) :
    ∃ n j, IsScalarText v.json n ∧ n.value? = some j ∧ ofJson j = v.afterJson := by
  cases v with
  | null => exact ⟨.null, .null, ⟨.null, fun rest _ => beginsWith_null rest, fun _ => rfl⟩, rfl, rfl⟩
  | boolean b =>
    exact ⟨.boolean b, .boolean b,
      ⟨.boolean b, fun rest _ => beginsWith_boolean b rest, fun _ => rfl⟩, rfl, rfl⟩
  | integer n =>
    refine ⟨.number (integerLiteral n.toInt), .number (.integer n.toInt),
      ⟨_, fun rest => beginsWith_integer n.toInt, fun _ => rfl⟩, ?_, ofJson_integer n⟩
    rw [Node.value?, value?_integerLiteral (toInt_mem_range n), Option.map_some]
  | float x => exact absurd rfl h
  | text s =>
    refine ⟨_, _, isScalarText_quote _, value?_unitsOf _, ?_⟩
    rw [String.ofList_toList]
    rfl
  | date d => exact ⟨_, _, isScalarText_quote _, value?_unitsOf _, rfl⟩
  | dateTime t => exact ⟨_, _, isScalarText_quote _, value?_unitsOf _, rfl⟩

theorem afterJson_of_plain (h : v.kind ∈ plainKinds) : v.afterJson = v := by
  cases v with
  | date | dateTime => simp [kind, plainKinds] at h
  | _ => rfl

theorem afterJson_of_date (h : v.kind = .date) :
    ∃ text, v.lexical? = some text ∧ v.afterJson = .text text := by
  cases v with
  | date d => exact ⟨_, rfl, rfl⟩
  | _ => cases h

end Values

end FieldValue

/-! ### Records -/

namespace Record
variable {r : Record} {entries : List (String × FieldValue)}

/-- Each entry is written as a member, from which it is read again. -/
theorem exists_members (h : ∀ e ∈ entries, e.2.kind ≠ .float) : ∃ nodes members,
    List.Forall₂ IsMember (entries.map fun e => (e.1, e.2.json)) nodes ∧ HaveValues nodes members ∧
      (members.map fun m => (m.1, FieldValue.ofJson m.2)) =
        entries.map fun e => (e.1, e.2.afterJson) := by
  induction entries with
  | nil => exact ⟨[], [], .nil, .nil, rfl⟩
  | cons e entries ih =>
    rw [List.forall_mem_cons] at h
    obtain ⟨nodes, members, hnodes, hvalues, heq⟩ := ih h.2
    obtain ⟨n, j, hscalar, hvalue, hafter⟩ := FieldValue.exists_isScalarText_json h.1
    refine ⟨(unitsOf e.1.toList, n) :: nodes, (e.1, j) :: members, .cons ⟨rfl, hscalar⟩ hnodes,
      .cons ⟨?_, hvalue⟩ hvalues, ?_⟩
    · rw [string?_unitsOf, String.ofList_toList]
    · rw [List.map_cons, List.map_cons, hafter, heq]

/-- What is written for a record is the text of an object that gives the record again. -/
theorem exists_isObject_json (h : ∀ e ∈ r.entries, e.2.kind ≠ .float) :
    ∃ members, IsObject (String.ofList r.json) members ∧
      ofMembers members = r.map FieldValue.afterJson := by
  obtain ⟨nodes, members, hnodes, hvalues, heq⟩ := exists_members h
  refine ⟨members, ⟨nodes, ?_, hvalues⟩, Table.ext ?_⟩
  · rw [String.toList_ofList]
    exact readShallow?_objectText hnodes
  · rw [ofMembers, heq]
    exact Table.entries_ofList (r.map FieldValue.afterJson).nodup_keys

/-- A record without floating point numbers is read back from its JSON with its fields in their order, and
    read in the order of the names it gives every field the same value. A value of a kind that JSON has is
    as it was, and a date is the text in which a rule sees it, whatever its year. -/
theorem record_survives_json (r : Record) (h : ∀ e ∈ r.entries, e.2.kind ≠ .float) :
    ∃ back sorted, readInOrder? (String.ofList r.json) = some back ∧
      readSorted (String.ofList r.json) = .ok sorted ∧ back.keys = r.keys ∧
      (∀ field v, r.get? field = some v →
        (v.kind ∈ FieldValue.plainKinds → back.get? field = some v) ∧
        (v.kind = .date → ∃ text, v.lexical? = some text ∧ back.get? field = some (.text text))) ∧
      (∀ field, sorted.get? field = back.get? field) ∧
      ((∀ e ∈ r.entries, e.2.kind ∈ FieldValue.plainKinds) → back = r) := by
  obtain ⟨members, hobject, hback⟩ := exists_isObject_json h
  have hget : ∀ field v, r.get? field = some v →
      (r.map FieldValue.afterJson).get? field = some v.afterJson := fun field v hv => by
    rw [Table.get?_map, hv, Option.map_some]
  refine ⟨r.map FieldValue.afterJson, ofMembers (sortMembers members),
    readInOrder?_eq_some_iff.mpr ⟨members, hobject, hback.symm⟩,
    readSorted_eq_ok_iff.mpr ⟨members, hobject, rfl⟩, Table.keys_map _ r, fun field v hv => ⟨?_, ?_⟩, ?_,
    fun hplain => Table.map_eq_self fun e he => FieldValue.afterJson_of_plain (hplain e he)⟩
  · intro hplain
    rw [hget field v hv, FieldValue.afterJson_of_plain hplain]
  · intro hdate
    obtain ⟨text, hlexical, hafter⟩ := FieldValue.afterJson_of_date hdate
    exact ⟨text, hlexical, by rw [hget field v hv, hafter]⟩
  · intro field
    rw [get?_ofMembers_sortMembers, hback]

/-- Names and texts with what has to be escaped and with what has not, both ends of the integers, and dates
    on either side of the years of four digits. -/
theorem escapes_and_bounds_and_long_years_survive :
    let r : Record := .ofList [("a \"b\"\n\x01é", .text "\\ / \t\x1f 😀"),
      ("least", .integer (Int64.ofInt FieldValue.minInteger)),
      ("greatest", .integer (Int64.ofInt FieldValue.maxInteger)),
      ("before", .date ⟨-44, 3, 15, by decide⟩), ("after", .date ⟨12345, 6, 7, by decide⟩),
      ("none", .null), ("true", .boolean true)]
    (∀ e ∈ r.entries, e.2.kind ≠ .float) ∧
      ∃ back sorted, readInOrder? (String.ofList r.json) = some back ∧
        readSorted (String.ofList r.json) = .ok sorted ∧
        back.keys = ["a \"b\"\n\x01é", "least", "greatest", "before", "after", "none", "true"] ∧
        back.get? "a \"b\"\n\x01é" = some (.text "\\ / \t\x1f 😀") ∧
        back.get? "least" = some (.integer (Int64.ofInt FieldValue.minInteger)) ∧
        back.get? "greatest" = some (.integer (Int64.ofInt FieldValue.maxInteger)) ∧
        back.get? "before" = some (.text "-0044-03-15") ∧
        sorted.get? "after" = some (.text "+12345-06-07") := by
  intro r
  have h : ∀ e ∈ r.entries, e.2.kind ≠ .float := by decide
  obtain ⟨back, sorted, hback, hsorted, hkeys, hfields, hsame, -⟩ := record_survives_json r h
  have hplain : ∀ field v, r.get? field = some v → v.kind ∈ FieldValue.plainKinds →
      back.get? field = some v := fun field v hv => (hfields field v hv).1
  have hdate : ∀ field d text, r.get? field = some (.date d) → String.ofList d.text = text →
      back.get? field = some (.text text) := by
    rintro field d _ hd rfl
    obtain ⟨text, hlexical, hget⟩ := (hfields field _ hd).2 rfl
    cases hlexical
    exact hget
  refine ⟨h, back, sorted, hback, hsorted, hkeys, hplain _ _ rfl (by decide), hplain _ _ rfl (by decide),
    hplain _ _ rfl (by decide), hdate "before" ⟨-44, 3, 15, by decide⟩ _ rfl (by decide), ?_⟩
  rw [hsame]
  exact hdate "after" ⟨12345, 6, 7, by decide⟩ _ rfl (by decide)

end Record

end Fieldwise

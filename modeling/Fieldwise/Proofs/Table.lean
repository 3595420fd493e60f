import Fieldwise.Table
import Mathlib.Data.List.Basic
import Mathlib.Data.List.Induction

/-!
Tables that are filled entry by entry. The names of `Table.ofList entries` stand in the order in
which they first come in `entries`, and each has the value that comes with it last.
-/

namespace Fieldwise.Table

variable {α : Type}

theorem nodup (t : Table α) : t.keys.Nodup := t.nodup_keys

theorem mem_keys_iff {t : Table α} {key : String} :
    key ∈ t.keys ↔ ∃ value, (key, value) ∈ t.entries := by
  simp [keys]

/-! ### Look-ups -/

/-- Where each name comes once, every entry is found. -/
theorem lookup_of_mem {entries : List (String × α)} (hn : (entries.map Prod.fst).Nodup)
    {key : String} {value : α} (h : (key, value) ∈ entries) : entries.lookup key = some value := by
  obtain ⟨before, after, rfl⟩ := List.append_of_mem h
  refine List.lookup_eq_some_iff.mpr ⟨before, after, rfl, fun e he => bne_iff_ne.mpr ?_⟩
  rw [List.map_append, List.nodup_append] at hn
  exact (hn.2.2 e.1 (List.mem_map_of_mem he) key (by simp)).symm

theorem mem_of_lookup {entries : List (String × α)} {key : String} {value : α}
    (h : entries.lookup key = some value) : (key, value) ∈ entries := by
  obtain ⟨before, after, rfl, -⟩ := List.lookup_eq_some_iff.mp h
  simp

theorem get?_eq_some_iff {t : Table α} {key : String} {value : α} :
    t.get? key = some value ↔ (key, value) ∈ t.entries :=
  ⟨mem_of_lookup, lookup_of_mem t.nodup_keys⟩

/-! ### Changing the values -/

theorem traverse_eq_ok_iff {β ε : Type} {f : String → α → Except ε β} {t : Table α}
    {u : Table β} : t.traverse f = .ok u ↔ traverseEntries f t.entries = .ok u.entries := by
  unfold traverse
  split
  · next e h => simp [h]
  · next entries h => simp [h, Table.ext_iff]

theorem keys_of_traverse {β ε : Type} {f : String → α → Except ε β} {t : Table α} {u : Table β}
    (h : t.traverse f = .ok u) : u.keys = t.keys :=
  keys_traverseEntries (traverse_eq_ok_iff.mp h)

theorem map_fst_map {β : Type} (f : α → β) (entries : List (String × α)) :
    (entries.map fun e => (e.1, f e.2)).map Prod.fst = entries.map Prod.fst := List.map_map

/-- The table in which every name has a new value in place of the old one. -/
def map {β : Type} (f : α → β) (t : Table α) : Table β :=
  ⟨t.entries.map fun e => (e.1, f e.2), map_fst_map f t.entries ▸ t.nodup_keys⟩

theorem keys_map {β : Type} (f : α → β) (t : Table α) : (t.map f).keys = t.keys :=
  map_fst_map f t.entries

theorem get?_map {β : Type} (f : α → β) (t : Table α) (key : String) :
    (t.map f).get? key = (t.get? key).map f := by
  suffices h : ∀ entries : List (String × α),
      (entries.map fun e => (e.1, f e.2)).lookup key = (entries.lookup key).map f from h t.entries
  intro entries
  induction entries with
  | nil => rfl
  | cons e rest ih =>
    rw [List.map_cons, List.lookup_cons, List.lookup_cons, ih]
    split <;> rfl

theorem map_eq_self {f : α → α} {t : Table α} (h : ∀ e ∈ t.entries, f e.2 = e.2) : t.map f = t := by
  refine Table.ext ((List.map_congr_left fun e he => ?_).trans (List.map_id _))
  rw [h e he]
  rfl

/-! ### Filling a table -/

/-- A name at the end of a list counts only when it is new. -/
theorem eraseDups_concat (names : List String) (name : String) :
    (names ++ [name]).eraseDups =
      if name ∈ names.eraseDups then names.eraseDups else names.eraseDups ++ [name] := by
  rw [List.eraseDups_append]
  split
  · next h =>
    rw [List.mem_eraseDups] at h
    simp [List.removeAll, h]
  · next h =>
    rw [List.mem_eraseDups] at h
    simp [List.removeAll, h, List.eraseDups_cons]

theorem eraseDups_eq_nil_iff {names : List String} : names.eraseDups = [] ↔ names = [] := by
  simp only [List.eq_nil_iff_forall_not_mem, List.mem_eraseDups]

theorem get?_ofList_single (key : String) (value : α) :
    (ofList [(key, value)]).get? key = some value := List.lookup_cons_self

theorem ofList_concat (entries : List (String × α)) (e : String × α) :
    ofList (entries ++ [e]) = (ofList entries).insert e.1 e.2 := by
  simp [ofList, insertAll]

/-- The names of a table that is filled entry by entry, in the order of their first entries. -/
theorem keys_ofList (entries : List (String × α)) :
    (ofList entries).keys = (entries.map Prod.fst).eraseDups := by
  induction entries using List.reverseRecOn with
  | nil => rfl
  | append_singleton entries e ih =>
    rw [ofList_concat, keys_insert, ih, List.map_append]
    exact (eraseDups_concat _ _).symm

/-- Each name of a table that is filled entry by entry has the value of its last entry. -/
theorem get?_ofList (entries : List (String × α)) (key : String) :
    (ofList entries).get? key =
      ((entries.filter fun e => e.1 = key).getLast?).map Prod.snd := by
  induction entries using List.reverseRecOn with
  | nil => rfl
  | append_singleton entries e ih =>
    rw [ofList_concat, get?_insert, ih, List.filter_append]
    split
    · next h => simp [h]
    · next h =>
      have hne : e.1 ≠ key := fun he => h he.symm
      simp [hne]

/-! ### One table after another -/

/-- A name that is not in the first entries is given its value in those that follow. -/
theorem insertEntry_append {before : List (String × α)} {key : String}
    (h : key ∉ before.map Prod.fst) (value : α) (after : List (String × α)) :
    insertEntry key value (before ++ after) = before ++ insertEntry key value after := by
  induction before with
  | nil => rfl
  | cons e rest ih =>
    rw [List.map_cons, List.mem_cons, not_or] at h
    rw [List.cons_append, insertEntry, if_neg (Ne.symm h.1), ih h.2, List.cons_append]

theorem get?_of_entries_append {t u w : Table α} (h : t.entries = u.entries ++ w.entries)
    {key : String} (hkey : key ∉ u.keys) : t.get? key = w.get? key := by
  have hnone : u.entries.lookup key = none := by
    rw [List.lookup_eq_none_iff]
    intro e he
    rw [bne_iff_ne]
    rintro rfl
    exact hkey (List.mem_map_of_mem he)
  rw [get?, h, List.lookup_append, hnone]
  rfl

/-- A table that is put on top of one with other names follows it. -/
theorem entries_merge {t other : Table α} (h : ∀ key ∈ t.keys, key ∉ other.keys) :
    (t.merge other).entries = t.entries ++ other.entries := by
  suffices hall : ∀ entries : List (String × α), (entries.map Prod.fst).Nodup →
      (∀ key ∈ t.keys, key ∉ entries.map Prod.fst) →
      (t.insertAll entries).entries = t.entries ++ entries from hall _ other.nodup_keys h
  intro entries hnodup hnew
  induction entries using List.reverseRecOn with
  | nil => rw [List.append_nil]; rfl
  | append_singleton entries e ih =>
    rw [List.map_append, List.nodup_append] at hnodup
    simp only [List.map_append, List.mem_append, not_or] at hnew
    have hfresh : e.1 ∉ (t.entries ++ entries).map Prod.fst := by
      rw [List.map_append, List.mem_append, not_or]
      exact ⟨fun ht => (hnew e.1 ht).2 (by simp), fun he => hnodup.2.2 e.1 he e.1 (by simp) rfl⟩
    have hinsert : (t.insertAll (entries ++ [e])).entries =
        insertEntry e.1 e.2 (t.insertAll entries).entries := by
      rw [insertAll, List.foldl_append]
      rfl
    rw [hinsert, ih hnodup.1 fun key hkey => (hnew key hkey).1, ← List.append_nil (t.entries ++ entries),
      insertEntry_append hfresh, List.append_assoc]
    rfl

/-- Names that are there once each are not moved. -/
theorem entries_ofList {entries : List (String × α)} (h : (entries.map Prod.fst).Nodup) :
    (ofList entries).entries = entries :=
  @entries_merge α .empty ⟨entries, h⟩ fun _ hkey => absurd hkey List.not_mem_nil

/-! ### Tables of lists -/

/-- The members of the lists in entries, one list after the other, each with the name of its list. -/
def membersOf (entries : List (String × List α)) : List (String × α) :=
  entries.flatMap fun e => e.2.map (Prod.mk e.1)

def members (t : Table (List α)) : List (String × α) := membersOf t.entries

theorem membersOf_cons (e : String × List α) (rest : List (String × List α)) :
    membersOf (e :: rest) = e.2.map (Prod.mk e.1) ++ membersOf rest := rfl

/-- To look for something list by list is to look for it member by member. -/
theorem findSome?_members {β : Type} (f : String × α → Option β) (t : Table (List α)) :
    t.members.findSome? f = t.entries.findSome? fun e => e.2.findSome? fun x => f (e.1, x) := by
  suffices h : ∀ entries : List (String × List α), (membersOf entries).findSome? f =
      entries.findSome? fun e => e.2.findSome? fun x => f (e.1, x) from h t.entries
  intro entries
  induction entries with
  | nil => rfl
  | cons e rest ih =>
    rw [membersOf_cons, List.findSome?_append, List.findSome?_map, ih, List.findSome?_cons]
    show (e.2.findSome? fun x => f (e.1, x)).or _ = _
    cases e.2.findSome? fun x => f (e.1, x) <;> rfl

/-- To go through a table list by list is to go through it member by member. -/
theorem foldlM_members {m : Type → Type} [Monad m] [LawfulMonad m] {β : Type}
    (f : β → String × α → m β) (t : Table (List α)) (b : β) :
    t.members.foldlM f b =
      t.entries.foldlM (fun b e => e.2.foldlM (fun b x => f b (e.1, x)) b) b := by
  suffices h : ∀ entries b, (membersOf entries).foldlM f b =
      entries.foldlM (fun b e => e.2.foldlM (fun b x => f b (e.1, x)) b) b from h t.entries b
  intro entries b
  induction entries generalizing b with
  | nil => rfl
  | cons e rest ih =>
    rw [membersOf_cons, List.foldlM_append, List.foldlM_map, List.foldlM_cons]
    exact bind_congr ih

theorem members_merge {t other : Table (List α)} (h : ∀ key ∈ t.keys, key ∉ other.keys) :
    (t.merge other).members = t.members ++ other.members := by
  rw [members, entries_merge h]
  exact List.flatMap_append

theorem fst_mem_keys_of_mem_members {t : Table (List α)} {r : String × α} (h : r ∈ t.members) :
    r.1 ∈ t.keys := by
  obtain ⟨e, he, hr⟩ := List.mem_flatMap.mp h
  obtain ⟨x, -, rfl⟩ := List.mem_map.mp hr
  exact List.mem_map_of_mem he

end Fieldwise.Table

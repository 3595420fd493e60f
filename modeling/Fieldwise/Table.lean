/-!
Tables. A `Table` maps names to values and remembers the order in which the names first came. A name
that comes again keeps its place and takes the new value.
-/

namespace Fieldwise

/-- Names with values, each name once, in the order in which they first came. -/
@[ext]
structure Table (α : Type) where
  entries : List (String × α)
  nodup_keys : (entries.map Prod.fst).Nodup

namespace Table

variable {α β : Type}

/-- Gives a name a value in a list of entries: in place if the name is there, else at the end. -/
def insertEntry (key : String) (value : α) : List (String × α) → List (String × α)
  | [] => [(key, value)]
  | (k, v) :: rest => if k = key then (key, value) :: rest else (k, v) :: insertEntry key value rest

/-- A name that is there keeps its place, and a new one comes last. -/
theorem keys_insertEntry (key : String) (value : α) (entries : List (String × α)) :
    (insertEntry key value entries).map Prod.fst =
      if key ∈ entries.map Prod.fst then entries.map Prod.fst
      else entries.map Prod.fst ++ [key] := by
  induction entries with
  | nil => simp [insertEntry]
  | cons e rest ih =>
    obtain ⟨k, v⟩ := e
    unfold insertEntry
    split
    · next h => subst h; simp
    · next h =>
      simp only [List.map_cons, ih, List.mem_cons]
      grind

theorem nodup_insertEntry (key : String) (value : α) {entries : List (String × α)}
    (h : (entries.map Prod.fst).Nodup) : ((insertEntry key value entries).map Prod.fst).Nodup := by
  rw [keys_insertEntry]
  split
  · exact h
  · next hk => exact List.nodup_append.mpr ⟨h, by simp, by grind⟩

def empty : Table α := ⟨[], List.nodup_nil⟩

def insert (t : Table α) (key : String) (value : α) : Table α :=
  ⟨insertEntry key value t.entries, nodup_insertEntry key value t.nodup_keys⟩

def get? (t : Table α) (key : String) : Option α := t.entries.lookup key

def contains (t : Table α) (key : String) : Bool := (t.get? key).isSome

def keys (t : Table α) : List String := t.entries.map Prod.fst

def size (t : Table α) : Nat := t.entries.length

def isEmpty (t : Table α) : Bool := t.entries.isEmpty

/-- Gives names their values, one after the other. -/
def insertAll (t : Table α) (entries : List (String × α)) : Table α :=
  entries.foldl (fun t e => t.insert e.1 e.2) t

/-- The table of a list of entries, of which each takes effect after those before it. -/
def ofList (entries : List (String × α)) : Table α := empty.insertAll entries

/-- Puts another table on top. -/
def merge (t other : Table α) : Table α := t.insertAll other.entries

/-- Changes the values of entries one after the other, up to the first that has no new value. -/
def traverseEntries {ε : Type} (f : String → α → Except ε β) :
    List (String × α) → Except ε (List (String × β))
  | [] => .ok []
  | (key, value) :: rest =>
    match f key value with
    | .error e => .error e
    | .ok value =>
      match traverseEntries f rest with
      | .error e => .error e
      | .ok rest => .ok ((key, value) :: rest)

theorem keys_traverseEntries {ε : Type} {f : String → α → Except ε β} {entries : List (String × α)}
    {result : List (String × β)} (h : traverseEntries f entries = .ok result) :
    result.map Prod.fst = entries.map Prod.fst := by
  fun_induction traverseEntries f entries generalizing result with
  | case1 => cases h; rfl
  | case2 => cases h
  | case3 => cases h
  | case4 key value rest value' hv rest' hr ih => cases h; simp [ih hr]

/-- Changes the values and keeps the names, up to the first value that cannot be changed. -/
def traverse {ε : Type} (f : String → α → Except ε β) (t : Table α) : Except ε (Table β) :=
  match h : traverseEntries f t.entries with
  | .error e => .error e
  | .ok entries => .ok ⟨entries, keys_traverseEntries h ▸ t.nodup_keys⟩

theorem lookup_insertEntry (key : String) (value : α) (entries : List (String × α)) (k : String) :
    (insertEntry key value entries).lookup k =
      if k = key then some value else entries.lookup k := by
  induction entries with
  | nil => simp only [insertEntry, List.lookup_cons, List.lookup_nil]; grind
  | cons e rest ih =>
    obtain ⟨k', v⟩ := e
    unfold insertEntry
    split
    · next h => subst h; simp only [List.lookup_cons]; grind
    · next h => simp only [List.lookup_cons, ih]; grind

/-- A name that is given a value keeps its place, or comes last if it is new. -/
theorem keys_insert (t : Table α) (key : String) (value : α) :
    (t.insert key value).keys = if key ∈ t.keys then t.keys else t.keys ++ [key] :=
  keys_insertEntry key value t.entries

/-- A value that was given is found, and all other names keep theirs. -/
theorem get?_insert (t : Table α) (key : String) (value : α) (k : String) :
    (t.insert key value).get? k = if k = key then some value else t.get? k :=
  lookup_insertEntry key value t.entries k

end Table

end Fieldwise

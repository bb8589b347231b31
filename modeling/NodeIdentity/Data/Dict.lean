/-!
# Dictionaries

Finite maps from names to values, listed in the code-point order of their names.  The order is part
of the type, so two dictionaries with the same bindings are equal and every traversal of a
dictionary visits its names in the same order.
-/

namespace NodeIdentity

/-- A finite map from names, listed with strictly ascending names. -/
structure Dict (α : Type) where
  /-- The bindings in ascending order of their names. -/
  entries : List (String × α)
  /-- The names ascend strictly, so no name occurs twice. -/
  ascending : entries.Pairwise (fun a b => a.1 < b.1)
deriving DecidableEq

namespace Dict

variable {α β : Type}

/-- Replace the binding of a name in an ascending list, or put it in its place. -/
def insertEntry (key : String) (value : α) : List (String × α) → List (String × α)
  | [] => [(key, value)]
  | entry :: rest =>
      if key < entry.1 then
        (key, value) :: entry :: rest
      else if key = entry.1 then
        (key, value) :: rest
      else
        entry :: insertEntry key value rest

theorem mem_insertEntry {key : String} {value : α} {entry : String × α}
    {entries : List (String × α)} (h : entry ∈ insertEntry key value entries) :
    entry = (key, value) ∨ entry ∈ entries := by
  induction entries with
  | nil => simpa [insertEntry] using h
  | cons head rest ih =>
      unfold insertEntry at h
      grind

theorem insertEntry_ascending (key : String) (value : α) {entries : List (String × α)}
    (h : entries.Pairwise (fun a b => a.1 < b.1)) :
    (insertEntry key value entries).Pairwise (fun a b => a.1 < b.1) := by
  induction entries with
  | nil => simp [insertEntry]
  | cons head rest ih =>
      obtain ⟨hhead, hrest⟩ := List.pairwise_cons.1 h
      unfold insertEntry
      split
      · rename_i hlt
        refine List.pairwise_cons.2 ⟨?_, h⟩
        intro entry hentry
        rcases List.mem_cons.1 hentry with rfl | hentry
        · exact hlt
        · exact String.lt_trans hlt (hhead entry hentry)
      · split
        · rename_i heq
          subst heq
          exact List.pairwise_cons.2 ⟨hhead, hrest⟩
        · rename_i hnlt hne
          refine List.pairwise_cons.2 ⟨?_, ih hrest⟩
          intro entry hentry
          rcases mem_insertEntry hentry with rfl | hentry
          · rcases Std.lt_trichotomy head.1 key with hlt | heq | hgt
            · exact hlt
            · exact absurd heq.symm hne
            · exact absurd hgt hnlt
          · exact hhead entry hentry

/-- The dictionary without bindings. -/
def empty : Dict α := ⟨[], List.Pairwise.nil⟩

instance : EmptyCollection (Dict α) := ⟨empty⟩

instance : Inhabited (Dict α) := ⟨empty⟩

/-- Bind a name to a value, replacing an earlier binding of the name. -/
def insert (dict : Dict α) (key : String) (value : α) : Dict α :=
  ⟨insertEntry key value dict.entries, insertEntry_ascending key value dict.ascending⟩

/-- The value bound to a name. -/
def get? (dict : Dict α) (key : String) : Option α :=
  dict.entries.lookup key

/-- The dictionary with the binding of a name removed. -/
def erase (dict : Dict α) (key : String) : Dict α :=
  ⟨dict.entries.filter (fun entry => entry.1 != key), dict.ascending.filter _⟩

/-- Collect bindings; of several with one name the last counts. -/
def ofList (entries : List (String × α)) : Dict α :=
  entries.foldl (fun dict entry => dict.insert entry.1 entry.2) empty

/-- The bindings in ascending order of their names. -/
def toList (dict : Dict α) : List (String × α) :=
  dict.entries

/-- The names that are bound, ascending. -/
def keys (dict : Dict α) : List String :=
  dict.entries.map (·.1)

/-- Whether nothing is bound. -/
def isEmpty (dict : Dict α) : Bool :=
  dict.entries.isEmpty

/-- Change every value and keep the names. -/
def map (f : α → β) (dict : Dict α) : Dict β :=
  ⟨dict.entries.map (fun entry => (entry.1, f entry.2)), by
    simpa [List.pairwise_map] using dict.ascending⟩

/-- Bind every entry of `later` in `dict`; where both bind a name, `later` wins. -/
def merge (dict later : Dict α) : Dict α :=
  later.entries.foldl (fun acc entry => acc.insert entry.1 entry.2) dict

theorem lookup_insertEntry (key : String) (value : α) (entries : List (String × α))
    (name : String) :
    (insertEntry key value entries).lookup name =
      if name = key then some value else entries.lookup name := by
  induction entries with
  | nil =>
      unfold insertEntry
      grind
  | cons head rest ih =>
      obtain ⟨headKey, headValue⟩ := head
      unfold insertEntry
      grind

/-- A binding is found under its name and leaves every other name as it was. -/
@[simp, grind =] theorem get?_insert (dict : Dict α) (key : String) (value : α) (name : String) :
    (dict.insert key value).get? name = if name = key then some value else dict.get? name :=
  lookup_insertEntry key value dict.entries name

@[simp] theorem get?_empty (name : String) : (empty : Dict α).get? name = none := rfl

theorem ext {a b : Dict α} (h : a.entries = b.entries) : a = b := by
  cases a
  cases b
  cases h
  rfl

end Dict

end NodeIdentity

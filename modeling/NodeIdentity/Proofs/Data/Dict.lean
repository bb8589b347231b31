import NodeIdentity.Data.Dict

/-!
# Lookup in dictionaries

A dictionary is determined by what its names are bound to.  Inserting a binding that is there
already changes nothing, and a merge binds a name as the later dictionary does where that one binds
it, so merging twice is merging once.
-/

namespace NodeIdentity.Dict

variable {α : Type}

theorem lookup_eq_none_of_lt {key : String} {entries : List (String × α)}
    (h : ∀ entry ∈ entries, key < entry.1) : entries.lookup key = none := by
  rw [List.lookup_eq_none_iff]
  intro entry hentry
  exact bne_iff_ne.2 (String.ne_of_lt (h entry hentry))

theorem lookup_self (key : String) (value : α) (rest : List (String × α)) :
    ((key, value) :: rest).lookup key = some value := by
  simp

theorem lookup_of_ne {name key : String} (h : name ≠ key) (value : α)
    (rest : List (String × α)) : ((key, value) :: rest).lookup name = rest.lookup name := by
  simp [List.lookup_cons, beq_eq_false_iff_ne.2 h]

/-- In an ascending list a name is bound to what stands beside it. -/
theorem lookup_eq_some_iff {key : String} {value : α} {entries : List (String × α)}
    (h : entries.Pairwise (fun a b => a.1 < b.1)) :
    entries.lookup key = some value ↔ (key, value) ∈ entries := by
  induction entries with
  | nil => simp
  | cons head rest ih =>
      obtain ⟨name, bound⟩ := head
      obtain ⟨hhead, hrest⟩ := List.pairwise_cons.1 h
      rw [List.mem_cons]
      by_cases hname : key = name
      · subst hname
        rw [lookup_self]
        constructor
        · rintro ⟨⟩
          exact Or.inl rfl
        · rintro (heq | hmem)
          · cases heq
            rfl
          · exact absurd rfl (String.ne_of_lt (hhead (key, value) hmem))
      · rw [lookup_of_ne hname, ih hrest]
        constructor
        · exact Or.inr
        · rintro (heq | hmem)
          · exact absurd (congrArg Prod.fst heq) hname
          · exact hmem

/-- Two ascending lists that bind every name alike have the same first name. -/
private theorem head_le_of_lookup {key key' : String} {value value' : α}
    {rest rest' : List (String × α)} (h' : ∀ entry ∈ rest', key' < entry.1)
    (same : ∀ name, ((key, value) :: rest).lookup name = ((key', value') :: rest').lookup name) :
    ¬ key < key' := by
  intro hlt
  have hnone : ((key', value') :: rest').lookup key = none := by
    apply lookup_eq_none_of_lt
    intro entry hentry
    rcases List.mem_cons.1 hentry with rfl | hentry
    · exact hlt
    · exact String.lt_trans hlt (h' entry hentry)
  have hsome := same key
  rw [lookup_self, hnone] at hsome
  cases hsome

theorem entries_eq_of_lookup {entries entries' : List (String × α)}
    (h : entries.Pairwise (fun a b => a.1 < b.1)) (h' : entries'.Pairwise (fun a b => a.1 < b.1))
    (same : ∀ name, entries.lookup name = entries'.lookup name) : entries = entries' := by
  induction entries generalizing entries' with
  | nil =>
      cases entries' with
      | nil => rfl
      | cons head rest =>
          have hhead := same head.1
          rw [lookup_self] at hhead
          cases hhead
  | cons head rest ih =>
      obtain ⟨key, value⟩ := head
      cases entries' with
      | nil =>
          have hhead := same key
          rw [lookup_self] at hhead
          cases hhead
      | cons head' rest' =>
          obtain ⟨key', value'⟩ := head'
          obtain ⟨hhead, hrest⟩ := List.pairwise_cons.1 h
          obtain ⟨hhead', hrest'⟩ := List.pairwise_cons.1 h'
          have hle := head_le_of_lookup hhead' same
          have hge := head_le_of_lookup hhead (fun name => (same name).symm)
          have hkey : key = key' := by
            rcases Std.lt_trichotomy key key' with hlt | heq | hgt
            · exact absurd hlt hle
            · exact heq
            · exact absurd hgt hge
          subst hkey
          have hvalue := same key
          rw [lookup_self, lookup_self, Option.some.injEq] at hvalue
          subst hvalue
          congr 1
          refine ih hrest hrest' (fun name => ?_)
          by_cases hname : name = key
          · subst hname
            rw [lookup_eq_none_of_lt hhead, lookup_eq_none_of_lt hhead']
          · have hsame := same name
            rwa [lookup_of_ne hname, lookup_of_ne hname] at hsame

/-- Dictionaries that bind every name alike are the same. -/
theorem ext_get? {a b : Dict α} (h : ∀ name, a.get? name = b.get? name) : a = b :=
  ext (entries_eq_of_lookup a.ascending b.ascending h)

theorem get?_eq_some_iff {dict : Dict α} {key : String} {value : α} :
    dict.get? key = some value ↔ (key, value) ∈ dict.toList :=
  lookup_eq_some_iff dict.ascending

theorem mem_keys_iff {dict : Dict α} {key : String} :
    key ∈ dict.keys ↔ ∃ value, dict.get? key = some value := by
  simp only [get?_eq_some_iff]
  simp [keys, toList]

theorem get?_insert_self (dict : Dict α) (key : String) (value : α) :
    (dict.insert key value).get? key = some value := by
  rw [get?_insert, if_pos rfl]

theorem insert_of_get? {dict : Dict α} {key : String} {value : α}
    (h : dict.get? key = some value) : dict.insert key value = dict := by
  apply ext_get?
  intro name
  rw [get?_insert]
  split
  · rename_i hname
    rw [hname, h]
  · rfl

theorem insert_insert (dict : Dict α) (key : String) (first second : α) :
    (dict.insert key first).insert key second = dict.insert key second := by
  apply ext_get?
  intro name
  simp only [get?_insert]
  split <;> rfl

/-- Bindings of different names may be made in either order. -/
theorem insert_comm {key key' : String} (h : key ≠ key') (dict : Dict α) (value value' : α) :
    (dict.insert key value).insert key' value' = (dict.insert key' value').insert key value := by
  apply ext_get?
  intro name
  simp only [get?_insert]
  by_cases hkey : name = key
  · have hkey' : name ≠ key' := hkey ▸ h
    simp only [if_neg hkey', if_pos hkey]
  · simp only [if_neg hkey]

theorem get?_foldl_insert {entries : List (String × α)}
    (h : entries.Pairwise (fun a b => a.1 < b.1)) (dict : Dict α) (name : String) :
    (entries.foldl (fun dict entry => dict.insert entry.1 entry.2) dict).get? name =
      (entries.lookup name).or (dict.get? name) := by
  induction entries generalizing dict with
  | nil => rfl
  | cons head rest ih =>
      obtain ⟨key, value⟩ := head
      obtain ⟨hhead, hrest⟩ := List.pairwise_cons.1 h
      rw [List.foldl_cons, ih hrest, get?_insert]
      by_cases hname : name = key
      · subst hname
        simp [lookup_eq_none_of_lt hhead]
      · simp [hname, lookup_of_ne hname]

/-- A merge binds a name as the later dictionary does, and else as the earlier one. -/
theorem get?_merge (dict later : Dict α) (name : String) :
    (dict.merge later).get? name = (later.get? name).or (dict.get? name) :=
  get?_foldl_insert later.ascending dict name

theorem merge_merge (dict later : Dict α) : (dict.merge later).merge later = dict.merge later := by
  apply ext_get?
  intro name
  simp only [get?_merge]
  cases later.get? name <;> rfl

theorem ofList_toList (dict : Dict α) : ofList dict.toList = dict := by
  apply ext_get?
  intro name
  have h := get?_foldl_insert dict.ascending empty name
  rw [get?_empty, Option.or_none] at h
  exact h

theorem isEmpty_eq_false_iff {dict : Dict α} :
    dict.isEmpty = false ↔ ∃ key value, dict.get? key = some value := by
  rw [Bool.eq_false_iff]
  constructor
  · intro hne
    have hentries : dict.toList ≠ [] := fun hnil => hne (List.isEmpty_iff.2 hnil)
    obtain ⟨entry, hmem⟩ := List.exists_mem_of_ne_nil _ hentries
    exact ⟨entry.1, entry.2, get?_eq_some_iff.2 hmem⟩
  · rintro ⟨key, value, hget⟩ hempty
    have hmem := get?_eq_some_iff.1 hget
    rw [toList, List.isEmpty_iff.1 hempty] at hmem
    cases hmem

theorem insert_ne_empty (dict : Dict α) (key : String) (value : α) :
    (dict.insert key value).isEmpty = false :=
  isEmpty_eq_false_iff.2 ⟨key, value, dict.get?_insert_self key value⟩

/-! ## Sums -/

/-- The sum of what the bound values count for. -/
def sumOf (weight : α → Nat) (dict : Dict α) : Nat :=
  dict.toList.foldr (fun entry total => weight entry.2 + total) 0

theorem sumOf_insertEntry (weight : α → Nat) (key : String) (value : α)
    {entries : List (String × α)} (h : entries.Pairwise (fun a b => a.1 < b.1)) :
    (insertEntry key value entries).foldr (fun entry total => weight entry.2 + total) 0 +
        ((entries.lookup key).map weight).getD 0 =
      entries.foldr (fun entry total => weight entry.2 + total) 0 + weight value := by
  induction entries with
  | nil => simp [insertEntry]
  | cons head rest ih =>
      obtain ⟨name, bound⟩ := head
      obtain ⟨hhead, hrest⟩ := List.pairwise_cons.1 h
      unfold insertEntry
      by_cases hlt : key < name
      · have habsent : ((name, bound) :: rest).lookup key = none := by
          apply lookup_eq_none_of_lt
          intro entry hentry
          rcases List.mem_cons.1 hentry with rfl | hentry
          · exact hlt
          · exact String.lt_trans hlt (hhead entry hentry)
        rw [habsent, if_pos hlt]
        simp only [List.foldr_cons, Option.map_none, Option.getD_none]
        omega
      · by_cases hname : key = name
        · subst hname
          rw [lookup_self, if_neg hlt, if_pos rfl]
          simp only [List.foldr_cons, Option.map_some, Option.getD_some]
          omega
        · have hsum := ih hrest
          rw [lookup_of_ne hname, if_neg hlt, if_neg hname]
          simp only [List.foldr_cons]
          omega

/-- A binding takes the place of an earlier one in a sum. -/
theorem sumOf_insert (weight : α → Nat) (dict : Dict α) (key : String) (value : α) :
    (dict.insert key value).sumOf weight + ((dict.get? key).map weight).getD 0 =
      dict.sumOf weight + weight value :=
  sumOf_insertEntry weight key value dict.ascending

end NodeIdentity.Dict

import NodeIdentity.Data.Dict
import NodeIdentity.Json.Basic

/-!
# Members of objects

Putting a member into an object, or taking it away, shows under its name and under no other one.  An
object that is put together from members has the last one of each name, and keeps members that
ascend by name as they are.
-/

namespace NodeIdentity.Json

theorem insertMember_eq (name : String) (value : Json) (members : List (String × Json)) :
    insertMember name value members = Dict.insertEntry name value members := by
  induction members with
  | nil => rfl
  | cons member rest ih => simp only [insertMember, Dict.insertEntry, ih]

theorem lookup_filter_ne (name other : String) (members : List (String × Json)) :
    (members.filter (fun member => member.1 != name)).lookup other =
      if other = name then none else members.lookup other := by
  induction members with
  | nil => simp
  | cons member rest ih =>
      obtain ⟨key, value⟩ := member
      grind

theorem member?_eraseMember (document : Json) (name other : String) :
    (document.eraseMember name).member? other =
      if other = name then none else document.member? other :=
  lookup_filter_ne name other document.members

theorem member?_setMember (document : Json) (name : String) (value : Json) (other : String) :
    (document.setMember name value).member? other =
      if other = name then some value else document.member? other := by
  have herased := member?_eraseMember document name other
  unfold setMember
  simp only [member?, members, insertMember_eq, Dict.lookup_insertEntry] at herased ⊢
  split
  · rfl
  · rename_i apart
    rw [herased, if_neg apart]

/-- A member that was put is found under its name, and all others are as they were. -/
@[simp] theorem member?_putMember (document : Json) (name : String) (value : Option Json)
    (other : String) :
    (document.putMember name value).member? other =
      if other = name then value else document.member? other := by
  cases value with
  | none => exact member?_eraseMember document name other
  | some value => exact member?_setMember document name value other

theorem mem_members_putMember {document : Json} {name : String} {value : Option Json}
    {member : String × Json} (h : member ∈ (document.putMember name value).members) :
    (member.1 = name ∧ value = some member.2) ∨ member ∈ document.members := by
  have erased {member : String × Json} (h : member ∈ (document.eraseMember name).members) :
      member ∈ document.members := (List.mem_filter.1 h).1
  cases value with
  | none => exact Or.inr (erased h)
  | some value =>
      simp only [putMember, setMember, members, insertMember_eq] at h
      rcases Dict.mem_insertEntry h with rfl | h
      · exact Or.inl ⟨rfl, rfl⟩
      · exact Or.inr (erased h)

theorem putMember_eq_obj (document : Json) (name : String) (value : Option Json) :
    document.putMember name value = .obj (document.putMember name value).members := by
  cases value <;> rfl

/-! ## Objects put together -/

theorem lookup_foldl_insertMember (members sorted : List (String × Json)) (name : String) :
    (members.foldl (fun sorted member => insertMember member.1 member.2 sorted) sorted).lookup name =
      (members.reverse.lookup name).or (sorted.lookup name) := by
  induction members generalizing sorted with
  | nil => simp
  | cons member rest ih =>
      obtain ⟨key, value⟩ := member
      rw [List.foldl_cons, ih, insertMember_eq, Dict.lookup_insertEntry, List.reverse_cons,
        List.lookup_append, Option.or_assoc]
      by_cases hname : name = key
      · simp [hname]
      · simp [hname, List.lookup_cons, beq_eq_false_iff_ne.2 hname]

@[simp] theorem member?_object (members : List (String × Json)) (name : String) :
    (object members).member? name = members.reverse.lookup name := by
  have h := lookup_foldl_insertMember members [] name
  rw [List.lookup_nil, Option.or_none] at h
  exact h

theorem mem_foldl_insertMember {members sorted : List (String × Json)} {member : String × Json}
    (h : member ∈
      members.foldl (fun sorted member => insertMember member.1 member.2 sorted) sorted) :
    member ∈ members ∨ member ∈ sorted := by
  induction members generalizing sorted with
  | nil => exact Or.inr h
  | cons head rest ih =>
      rcases ih h with hrest | hsorted
      · exact Or.inl (List.mem_cons_of_mem head hrest)
      · simp only [insertMember_eq] at hsorted
        rcases Dict.mem_insertEntry hsorted with rfl | hsorted
        · exact Or.inl List.mem_cons_self
        · exact Or.inr hsorted

theorem mem_members_object {members : List (String × Json)} {member : String × Json}
    (h : member ∈ (object members).members) : member ∈ members :=
  (mem_foldl_insertMember h).resolve_right List.not_mem_nil

theorem insertMember_last {name : String} {value : Json} {members : List (String × Json)}
    (h : ∀ member ∈ members, member.1 < name) :
    insertMember name value members = members ++ [(name, value)] := by
  induction members with
  | nil => rfl
  | cons head rest ih =>
      have hhead := h head List.mem_cons_self
      have hrest := ih (fun member hmember => h member (List.mem_cons_of_mem head hmember))
      have hnot : ¬ name < head.1 := String.lt_asymm hhead
      have hne : name ≠ head.1 := (String.ne_of_lt hhead).symm
      rw [insertMember, if_neg hnot, if_neg hne, hrest, List.cons_append]

theorem foldl_insertMember_ascending {members sorted : List (String × Json)}
    (h : (sorted ++ members).Pairwise (fun a b => a.1 < b.1)) :
    members.foldl (fun sorted member => insertMember member.1 member.2 sorted) sorted =
      sorted ++ members := by
  induction members generalizing sorted with
  | nil => simp
  | cons head rest ih =>
      have hlast : ∀ member ∈ sorted, member.1 < head.1 := by
        intro member hmember
        exact (List.pairwise_append.1 h).2.2 member hmember head List.mem_cons_self
      rw [List.append_cons] at h
      rw [List.foldl_cons, insertMember_last hlast, ih h, List.append_assoc, List.singleton_append]

theorem object_of_ascending {members : List (String × Json)}
    (h : members.Pairwise (fun a b => a.1 < b.1)) : object members = .obj members := by
  have hstart : (([] : List (String × Json)) ++ members).Pairwise (fun a b => a.1 < b.1) := h
  unfold object
  rw [foldl_insertMember_ascending hstart, List.nil_append]

/-! ## Documents in ascending order -/

theorem canonicalItems_eq (items : List Json) : canonicalItems items = items.map canonical := by
  induction items with
  | nil => rfl
  | cons item items ih => rw [canonicalItems, ih, List.map_cons]

theorem canonicalMembers_eq (members : List (String × Json)) :
    canonicalMembers members = members.map (fun member => (member.1, member.2.canonical)) := by
  induction members with
  | nil => rfl
  | cons member members ih => rw [canonicalMembers, ih, List.map_cons]

end NodeIdentity.Json

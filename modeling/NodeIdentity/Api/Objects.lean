import NodeIdentity.Resource.Kind

/-!
# Stored objects

What an API server has stored: documents under their kind, namespace and name, and iterated in that
order.
-/

namespace NodeIdentity

/-- What an object is stored under. -/
structure ObjectKey where
  kind : String
  ns : String
  name : String
deriving DecidableEq, Repr

/-- The key that an object itself states. -/
def ObjectKey.ofObject (object : Json) : ObjectKey where
  kind := ((object.member? "kind").bind Json.asText?).getD ""
  ns := ((object.path? ["metadata", "namespace"]).bind Json.asText?).getD ""
  name := ((object.path? ["metadata", "name"]).bind Json.asText?).getD ""

/-- Objects by kind, namespace and name. -/
abbrev ObjectTable : Type :=
  Dict (Dict (Dict Json))

namespace ObjectTable

/-- The objects of a kind by namespace and name. -/
def ofKind (table : ObjectTable) (kind : String) : Dict (Dict Json) :=
  (Dict.get? table kind).getD ∅

/-- The objects of a kind in a namespace by name. -/
def within (table : ObjectTable) (kind ns : String) : Dict Json :=
  ((table.ofKind kind).get? ns).getD ∅

/-- The object under a key. -/
def find? (table : ObjectTable) (key : ObjectKey) : Option Json :=
  (table.within key.kind key.ns).get? key.name

/-- The table with other objects of a kind in a namespace. -/
def setWithin (table : ObjectTable) (kind ns : String) (objects : Dict Json) : ObjectTable :=
  Dict.insert table kind ((table.ofKind kind).insert ns objects)

/-- The table with an object under a key. -/
def put (table : ObjectTable) (key : ObjectKey) (object : Json) : ObjectTable :=
  table.setWithin key.kind key.ns ((table.within key.kind key.ns).insert key.name object)

/-- The table without the object under a key. -/
def remove (table : ObjectTable) (key : ObjectKey) : ObjectTable :=
  table.setWithin key.kind key.ns ((table.within key.kind key.ns).erase key.name)

/-- The objects of some namespaces, in their order. -/
def flatten (spaces : Dict (Dict Json)) : List Json :=
  spaces.toList.flatMap (fun space => space.2.toList.map (·.2))

/-- All objects, in the order of their keys. -/
def all (table : ObjectTable) : List Json :=
  (Dict.toList table).flatMap (fun entry => flatten entry.2)

@[simp] theorem within_setWithin (table : ObjectTable) (kind ns : String) (objects : Dict Json)
    (otherKind otherNs : String) :
    (table.setWithin kind ns objects).within otherKind otherNs =
      if otherKind = kind ∧ otherNs = ns then objects else table.within otherKind otherNs := by
  simp only [within, setWithin, ofKind, Dict.get?_insert]
  by_cases hkind : otherKind = kind
  · by_cases hns : otherNs = ns <;> simp [hkind, hns]
  · simp [hkind]

/-- An object is found under its key, and all others are as they were. -/
@[simp] theorem find?_put (table : ObjectTable) (key : ObjectKey) (object : Json)
    (other : ObjectKey) :
    (table.put key object).find? other = if other = key then some object else table.find? other := by
  obtain ⟨kind, ns, name⟩ := key
  obtain ⟨otherKind, otherNs, otherName⟩ := other
  simp only [find?, put, within_setWithin, ObjectKey.mk.injEq]
  by_cases hplace : otherKind = kind ∧ otherNs = ns
  · obtain ⟨rfl, rfl⟩ := hplace
    by_cases hname : otherName = name <;> simp [hname]
  · by_cases hkind : otherKind = kind
    · have hns : otherNs ≠ ns := fun h => hplace ⟨hkind, h⟩
      simp [hns]
    · simp [hkind]

end ObjectTable

end NodeIdentity

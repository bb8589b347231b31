import NodeIdentity.Api.Route
import NodeIdentity.Proofs.Api.Requests

/-!
# Where addresses lead

The address of a collection or an object leads there exactly where the namespace and the name in it
have no slash.  With a slash more it leads to a status at most.
-/

namespace NodeIdentity

open Client

/-! ## Kinds -/

theorem Kind.name_inj {kind other : Kind} : kind.name = other.name ↔ kind = other := by
  cases kind <;> cases other <;> decide

theorem Kind.plural_inj {kind other : Kind} : kind.plural = other.plural ↔ kind = other := by
  constructor
  · intro same
    have hlists := congrArg String.toList same
    rw [toList_plural, toList_plural] at hlists
    revert hlists
    cases kind <;> cases other <;> decide
  · intro same
    rw [same]

theorem Kind.ofPlural?_plural (kind : Kind) : Kind.ofPlural? kind.plural = some kind := by
  unfold Kind.ofPlural?
  simp only [Kind.plural_inj]
  cases kind <;> decide

namespace Route

/-! ## Parts of paths -/

theorem segments_ne_nil (cs : List Char) : segments cs ≠ [] := by
  cases cs with
  | nil => simp [segments]
  | cons c rest =>
      unfold segments
      split
      · simp
      · split <;> simp

/-- A path is cut at a slash between two of its parts. -/
theorem segments_append (first rest : List Char) :
    segments (first ++ '/' :: rest) = segments first ++ segments rest := by
  induction first with
  | nil => rfl
  | cons c first ih =>
      by_cases slash : c = '/'
      · subst slash
        rw [List.cons_append, segments, if_pos rfl, ih, segments, if_pos rfl, List.cons_append]
      · rw [List.cons_append, segments, if_neg slash, ih, segments, if_neg slash]
        cases hsegments : segments first with
        | nil => exact absurd hsegments (segments_ne_nil first)
        | cons segment others => rfl

theorem segments_of_not_mem {cs : List Char} (whole : '/' ∉ cs) : segments cs = [cs] := by
  induction cs with
  | nil => rfl
  | cons c rest ih =>
      rw [List.mem_cons, not_or] at whole
      rw [segments, if_neg (Ne.symm whole.1), ih whole.2]

theorem two_le_segments {cs : List Char} (cut : '/' ∈ cs) : 2 ≤ (segments cs).length := by
  obtain ⟨first, rest, rfl⟩ := List.append_of_mem cut
  have hfirst := List.length_pos_iff.2 (segments_ne_nil first)
  have hrest := List.length_pos_iff.2 (segments_ne_nil rest)
  rw [segments_append, List.length_append]
  omega

/-- The parts of a text between its slashes. -/
def parts (text : String) : List String :=
  (segments text.toList).map String.ofList

theorem parts_slash (first rest : String) :
    parts (first ++ "/" ++ rest) = parts first ++ parts rest := by
  unfold parts
  have hlist : (first ++ "/" ++ rest).toList = first.toList ++ '/' :: rest.toList := by simp
  rw [hlist, segments_append, List.map_append]

theorem parts_of_not_mem {text : String} (whole : '/' ∉ text.toList) : parts text = [text] := by
  simp [parts, segments_of_not_mem whole]

theorem two_le_parts {text : String} (cut : '/' ∈ text.toList) : 2 ≤ (parts text).length := by
  rw [parts, List.length_map]
  exact two_le_segments cut

theorem one_le_parts (text : String) : 1 ≤ (parts text).length := by
  rw [parts, List.length_map]
  exact List.length_pos_iff.2 (segments_ne_nil _)

theorem parts_plural (kind : Kind) : parts kind.plural = [kind.plural] := by
  apply parts_of_not_mem
  rw [toList_plural]
  cases kind <;> decide

theorem parts_collectionPath (kind : Kind) (ns : String) :
    parts (collectionPath kind ns) =
      ["", "apis", apiGroup, apiVersionName, "namespaces"] ++ parts ns ++ [kind.plural] := by
  have hprefix : parts ("/apis/" ++ apiVersion ++ "/namespaces") =
      ["", "apis", apiGroup, apiVersionName, "namespaces"] := by decide
  have hpath : collectionPath kind ns =
      "/apis/" ++ apiVersion ++ "/namespaces" ++ "/" ++ ns ++ "/" ++ kind.plural := by
    simp [collectionPath, String.append_assoc]
  rw [hpath, parts_slash, parts_slash, hprefix, parts_plural]

theorem parts_objectPath (kind : Kind) (ns name : String) :
    parts (objectPath kind ns name) =
      ["", "apis", apiGroup, apiVersionName, "namespaces"] ++ parts ns ++ [kind.plural] ++
        parts name := by
  rw [objectPath, parts_slash, parts_collectionPath]

/-! ## Routes -/

theorem ofPath?_eq {path : String} {rest : List String}
    (h : parts path = ["", "apis", apiGroup, apiVersionName] ++ rest) :
    ofPath? path = ofParts? rest := by
  unfold ofPath?
  unfold parts at h
  rw [h]
  rfl

theorem ofPath?_collectionPath (kind : Kind) {ns : String} (place : '/' ∉ ns.toList) :
    ofPath? (collectionPath kind ns) = some (.collection kind ns) := by
  have hparts := parts_collectionPath kind ns
  rw [parts_of_not_mem place] at hparts
  rw [ofPath?_eq hparts]
  simp [ofParts?, Kind.ofPlural?_plural]

theorem ofPath?_objectPath (kind : Kind) {ns name : String} (place : '/' ∉ ns.toList)
    (named : '/' ∉ name.toList) :
    ofPath? (objectPath kind ns name) = some (.object kind ns name) := by
  have hparts := parts_objectPath kind ns name
  rw [parts_of_not_mem place, parts_of_not_mem named] at hparts
  rw [ofPath?_eq hparts]
  simp [ofParts?, Kind.ofPlural?_plural]

/-- So many parts are those of a status, if of anything. -/
theorem ofParts?_of_five_le {list : List String} (long : 5 ≤ list.length) :
    ofParts? list = none ∨ ∃ kind ns name, ofParts? list = some (.status kind ns name) := by
  unfold ofParts?
  split
  · simp at long
  · simp at long
  · simp at long
  · rename_i ns plural name
    cases hkind : Kind.ofPlural? plural with
    | none => exact Or.inl rfl
    | some kind => exact Or.inr ⟨kind, ns, name, rfl⟩
  · exact Or.inl rfl

/-- What the address of an object with a slash too many leads to is no object. -/
theorem ofPath?_objectPath_cut (kind : Kind) {ns name : String}
    (cut : '/' ∈ ns.toList ∨ '/' ∈ name.toList) :
    ofPath? (objectPath kind ns name) = none ∨
      ∃ other place named,
        ofPath? (objectPath kind ns name) = some (.status other place named) := by
  have hparts : parts (objectPath kind ns name) =
      ["", "apis", apiGroup, apiVersionName] ++
        ("namespaces" :: (parts ns ++ [kind.plural] ++ parts name)) := by
    rw [parts_objectPath]
    simp
  have hlong : 5 ≤ ("namespaces" :: (parts ns ++ [kind.plural] ++ parts name)).length := by
    have hns := one_le_parts ns
    have hname := one_le_parts name
    simp only [List.length_cons, List.length_append, List.length_nil]
    rcases cut with cut | cut <;> have htwo := two_le_parts cut <;> omega
  rw [ofPath?_eq hparts]
  exact ofParts?_of_five_le hlong

end Route

end NodeIdentity

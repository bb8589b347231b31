import NodeIdentity.Proofs.Resource.Ownership

/-!
# Marks beside those of others

A child mark sets the labels of the child and claims the object for its owner.  Labels of other
names, references of others that do not control and all other metadata stay, in their order, under
one mark and under any row of them; of a label that several marks set, the last one counts.
-/

namespace NodeIdentity

namespace ChildMeta

/-- What a child mark makes of metadata. -/
structure Marks (child : ChildMeta) (metadata marked : ObjectMeta) : Prop where
  settled : child.applyTo marked = marked
  labels : ∀ name,
    marked.label? name = (child.labels.get? name).or (metadata.label? name)
  owner : child.owner ∈ marked.owners
  foreign : ∀ other, other.uid ≠ child.owner.uid →
    (other ∈ marked.owners ↔ other ∈ metadata.owners ∧ other.isController = false)
  /-- What stays is in its order, with the owner where the first reference to it stood. -/
  inPlace : ∀ before own rest, metadata.owners = before ++ own :: rest →
    (∀ other ∈ before, other.uid ≠ child.owner.uid) → own.uid = child.owner.uid →
    marked.owners =
      before.filter child.owner.spares ++ child.owner :: rest.filter child.owner.spares
  atEnd : (∀ other ∈ metadata.owners, other.uid ≠ child.owner.uid) →
    marked.owners = metadata.owners.filter child.owner.spares ++ [child.owner]
  rest : { marked with
    labels := metadata.labels, ownerReferences := metadata.ownerReferences } = metadata

theorem applyTo_marks (child : ChildMeta) (metadata : ObjectMeta) :
    child.Marks metadata (child.applyTo metadata) := by
  constructor
  case settled => exact child.applyTo_applyTo metadata
  case labels => exact child.applyTo_label? metadata
  case owner => exact mem_claimOwner_self child.owner metadata.owners
  case foreign =>
    intro other foreign
    exact mem_claimOwner_of_ne foreign metadata.owners
  case inPlace =>
    intro before own rest split others mine
    rw [applyTo_owners, split]
    exact claimOwner_inPlace others mine rest
  case atEnd => exact claimOwner_atEnd
  case rest => rfl

/-! ## Rows of marks -/

/-- A reference that no mark of a row is about: it does not control and names none of the owners. -/
def leavesAlone (children : List ChildMeta) (other : OwnerReference) : Bool :=
  !other.isController && children.all (fun child => other.uid ≠ child.owner.uid)

theorem applyAll_label? (children : List ChildMeta) (metadata : ObjectMeta) (name : String) :
    (applyAll children metadata).label? name =
      (children.filterMap (·.labels.get? name)).getLast?.or (metadata.label? name) := by
  induction children generalizing metadata with
  | nil => rfl
  | cons child rest ih =>
      rw [applyAll_cons, ih, applyTo_label?, ← Option.or_assoc]
      congr 1
      -- The labels of this mark count where no later one sets them.
      cases hlabel : child.labels.get? name with
      | none => simp [hlabel]
      | some value =>
          cases hlater : (rest.filterMap (·.labels.get? name)).getLast? <;>
            simp [hlabel, hlater, List.getLast?_cons]

theorem filter_claimOwner {owner : OwnerReference} {p : OwnerReference → Bool}
    (foreign : ∀ other, p other = true → owner.isForeign other = true)
    (owners : List OwnerReference) : (claimOwner owner owners).filter p = owners.filter p := by
  have hforeign : ∀ list : List OwnerReference,
      (list.filter owner.isForeign).filter p = list.filter p := by
    intro list
    rw [List.filter_filter]
    refine List.filter_congr (fun other _ => ?_)
    cases hp : p other with
    | false => rfl
    | true => rw [foreign other hp, Bool.and_true]
  rw [← hforeign, filter_isForeign_claimOwner, hforeign]

theorem filter_applyAll {children : List ChildMeta} {p : OwnerReference → Bool}
    (foreign : ∀ child ∈ children, ∀ other, p other = true → child.owner.isForeign other = true)
    (metadata : ObjectMeta) :
    (applyAll children metadata).owners.filter p = metadata.owners.filter p := by
  induction children generalizing metadata with
  | nil => rfl
  | cons child rest ih =>
      obtain ⟨hchild, hrest⟩ := List.forall_mem_cons.1 foreign
      rw [applyAll_cons, ih hrest, applyTo_owners]
      exact filter_claimOwner hchild metadata.owners

theorem isForeign_of_leavesAlone {children : List ChildMeta} {child : ChildMeta}
    (applied : child ∈ children) {other : OwnerReference}
    (alone : leavesAlone children other = true) : child.owner.isForeign other = true := by
  obtain ⟨hcontroller, hothers⟩ := Bool.and_eq_true_iff.1 alone
  have hne : other.uid ≠ child.owner.uid := of_decide_eq_true (List.all_eq_true.1 hothers _ applied)
  unfold OwnerReference.isForeign
  rw [hcontroller, bne_iff_ne.2 hne]
  rfl

/-- What a row of child marks makes of metadata. -/
structure MarksInTurn (children : List ChildMeta) (metadata marked : ObjectMeta) : Prop where
  labels : ∀ name, marked.label? name =
    (children.filterMap (·.labels.get? name)).getLast?.or (metadata.label? name)
  owners : marked.owners.filter (leavesAlone children) =
    metadata.owners.filter (leavesAlone children)
  rest : { marked with
    labels := metadata.labels, ownerReferences := metadata.ownerReferences } = metadata

theorem applyAll_rest (children : List ChildMeta) (metadata : ObjectMeta) :
    { applyAll children metadata with
      labels := metadata.labels, ownerReferences := metadata.ownerReferences } = metadata := by
  have hkept : ∀ marked : ObjectMeta,
      { applyAll children marked with
        labels := metadata.labels, ownerReferences := metadata.ownerReferences } =
      { marked with
        labels := metadata.labels, ownerReferences := metadata.ownerReferences } := by
    intro marked
    induction children generalizing marked with
    | nil => rfl
    | cons child rest ih => exact ih (child.applyTo marked)
  exact hkept metadata

theorem applyAll_marksInTurn (children : List ChildMeta) (metadata : ObjectMeta) :
    MarksInTurn children metadata (applyAll children metadata) where
  labels := applyAll_label? children metadata
  owners := filter_applyAll (fun _ applied _ => isForeign_of_leavesAlone applied) metadata
  rest := applyAll_rest children metadata

end ChildMeta

/--
A mark put on twice is put on once.  It sets its labels and its owner, in the place of the first
reference to that owner or at the end; it drops the controllers of other identities and leaves all
else where it was.  Under a row of marks the last one decides each label, and what belongs to none
of their owners and does not control stays in its order.
-/
theorem marks_keep_foreign (metadata : ObjectMeta) :
    (∀ child : ChildMeta, child.Marks metadata (child.applyTo metadata)) ∧
      ∀ children : List ChildMeta,
        ChildMeta.MarksInTurn children metadata (ChildMeta.applyAll children metadata) :=
  ⟨fun child => child.applyTo_marks metadata,
    fun children => ChildMeta.applyAll_marksInTurn children metadata⟩

end NodeIdentity

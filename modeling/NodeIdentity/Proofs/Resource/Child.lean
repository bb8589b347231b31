import NodeIdentity.Proofs.Data.Dict
import NodeIdentity.Resource.Child

/-!
# Marking a child twice

A child that is marked already is not changed by being marked again, and marking touches labels and
owners only: the name of the object, its status and its other metadata stay.
-/

namespace NodeIdentity

/-! ## Owners -/

theorem mem_replaceOwner {owner other : OwnerReference} {owners : List OwnerReference}
    (h : other ∈ replaceOwner owner owners) : other = owner ∨ other ∈ owners := by
  induction owners with
  | nil => simpa [replaceOwner] using h
  | cons head rest ih =>
      unfold replaceOwner at h
      split at h
      · rcases List.mem_cons.1 h with h | h
        · exact Or.inl h
        · exact Or.inr (List.mem_cons_of_mem head h)
      · rcases List.mem_cons.1 h with h | h
        · exact Or.inr (List.mem_cons.2 (Or.inl h))
        · exact (ih h).imp_right (List.mem_cons_of_mem head)

theorem replaceOwner_replaceOwner (owner : OwnerReference) (owners : List OwnerReference) :
    replaceOwner owner (replaceOwner owner owners) = replaceOwner owner owners := by
  induction owners with
  | nil => simp [replaceOwner]
  | cons head rest ih =>
      by_cases huid : head.uid = owner.uid
      · simp [replaceOwner, huid]
      · simp [replaceOwner, huid, ih]

/-- What claiming leaves in the list, claiming again leaves there. -/
theorem claimOwner_claimOwner (owner : OwnerReference) (owners : List OwnerReference) :
    claimOwner owner (claimOwner owner owners) = claimOwner owner owners := by
  have kept : (claimOwner owner owners).filter
      (fun other => other.uid = owner.uid || !other.isController) = claimOwner owner owners := by
    rw [List.filter_eq_self]
    intro other hother
    rcases mem_replaceOwner hother with rfl | hother
    · simp
    · exact (List.mem_filter.1 hother).2
  calc
    claimOwner owner (claimOwner owner owners) = replaceOwner owner (claimOwner owner owners) :=
      congrArg (replaceOwner owner) kept
    _ = claimOwner owner owners := replaceOwner_replaceOwner owner _

/-- An owner that is no controller, and not the one that is put in: others have put it there. -/
def OwnerReference.isForeign (mine owner : OwnerReference) : Bool :=
  owner.uid != mine.uid && !owner.isController

theorem filter_isForeign_replaceOwner (owner : OwnerReference) (owners : List OwnerReference) :
    (replaceOwner owner owners).filter owner.isForeign = owners.filter owner.isForeign := by
  have hown : owner.isForeign owner = false := by simp [OwnerReference.isForeign]
  induction owners with
  | nil => simp [replaceOwner, hown]
  | cons head rest ih =>
      unfold replaceOwner
      by_cases huid : head.uid = owner.uid
      · have hhead : owner.isForeign head = false := by simp [OwnerReference.isForeign, huid]
        simp [huid, hown, hhead]
      · simp [huid, List.filter_cons, ih]

/-- Claiming leaves the owners that others have put there, in their order. -/
theorem filter_isForeign_claimOwner (owner : OwnerReference) (owners : List OwnerReference) :
    (claimOwner owner owners).filter owner.isForeign = owners.filter owner.isForeign := by
  unfold claimOwner
  rw [filter_isForeign_replaceOwner, List.filter_filter]
  refine List.filter_congr (fun other _ => ?_)
  simp only [OwnerReference.isForeign]
  cases other.isController <;> simp

/-! ## Metadata and resources -/

namespace ChildMeta

@[simp] theorem applyTo_name (child : ChildMeta) (metadata : ObjectMeta) :
    (child.applyTo metadata).name = metadata.name := rfl

@[simp] theorem applyTo_applyTo (child : ChildMeta) (metadata : ObjectMeta) :
    child.applyTo (child.applyTo metadata) = child.applyTo metadata := by
  simp [applyTo, Dict.merge_merge, claimOwner_claimOwner]

variable {σ τ : Type}

@[simp] theorem applyToResource_name (child : ChildMeta) (spec : σ) (resource : Resource σ τ) :
    (child.applyToResource spec resource).metadata.name = resource.metadata.name := rfl

@[simp] theorem applyToResource_spec (child : ChildMeta) (spec : σ) (resource : Resource σ τ) :
    (child.applyToResource spec resource).spec = spec := rfl

@[simp] theorem applyToResource_status (child : ChildMeta) (spec : σ) (resource : Resource σ τ) :
    (child.applyToResource spec resource).status = resource.status := rfl

/-- Asking once more for what is asked for changes nothing, whatever was reported meanwhile. -/
theorem applyToResource_of_report (child : ChildMeta) (spec : σ) (resource : Resource σ τ)
    (status : Option τ) :
    child.applyToResource spec { child.applyToResource spec resource with status := status } =
      { child.applyToResource spec resource with status := status } := by
  simp [applyToResource]

theorem applyToResource_applyToResource (child : ChildMeta) (spec : σ)
    (resource : Resource σ τ) :
    child.applyToResource spec (child.applyToResource spec resource) =
      child.applyToResource spec resource :=
  child.applyToResource_of_report spec resource resource.status

/-- What others have written on a resource, and what was reported of it, is on another one too. -/
structure Spares (child : ChildMeta) (resource renewed : Resource σ τ) : Prop where
  annotations : renewed.metadata.annotations = resource.metadata.annotations
  finalizers : renewed.metadata.finalizers = resource.metadata.finalizers
  labels : ∀ name, child.labels.get? name = none →
    (renewed.metadata.labels.getD ∅).get? name = (resource.metadata.labels.getD ∅).get? name
  owners : (renewed.metadata.ownerReferences.getD []).filter child.owner.isForeign =
    (resource.metadata.ownerReferences.getD []).filter child.owner.isForeign
  status : renewed.status = resource.status

theorem applyToResource_spares (child : ChildMeta) (spec : σ) (resource : Resource σ τ) :
    child.Spares resource (child.applyToResource spec resource) where
  annotations := rfl
  finalizers := rfl
  labels name foreign := by
    simp [applyToResource, applyTo, Dict.get?_merge, foreign]
  owners := filter_isForeign_claimOwner child.owner _
  status := rfl

end ChildMeta

end NodeIdentity

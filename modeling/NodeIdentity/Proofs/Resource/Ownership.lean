import NodeIdentity.Proofs.Resource.Child

/-!
# Controllers

Claiming an object puts the owner in the place of the first reference with its identity, or at the
end, drops the controllers of other identities, and keeps all else in its order.  A second reference
with the owner's identity is neither replaced nor dropped: if it controls, the object has two
controllers from then on, until another owner claims it.  Where no identity is repeated, the owner
always controls alone.
-/

namespace NodeIdentity

/-! ## Claims -/

/-- A reference that stays where an owner is claimed: of the same identity, or no controller. -/
def OwnerReference.spares (owner other : OwnerReference) : Bool :=
  other.uid = owner.uid || !other.isController

section Claims

variable {owner own other : OwnerReference} {before owners : List OwnerReference}

theorem replaceOwner_inPlace (others : ∀ other ∈ before, other.uid ≠ owner.uid)
    (mine : own.uid = owner.uid) (rest : List OwnerReference) :
    replaceOwner owner (before ++ own :: rest) = before ++ owner :: rest := by
  induction before with
  | nil => simp [replaceOwner, mine]
  | cons head tail ih =>
      obtain ⟨hhead, htail⟩ := List.forall_mem_cons.1 others
      rw [List.cons_append, replaceOwner, if_neg hhead, ih htail]
      rfl

theorem replaceOwner_atEnd (absent : ∀ other ∈ owners, other.uid ≠ owner.uid) :
    replaceOwner owner owners = owners ++ [owner] := by
  induction owners with
  | nil => rfl
  | cons head tail ih =>
      obtain ⟨hhead, htail⟩ := List.forall_mem_cons.1 absent
      rw [replaceOwner, if_neg hhead, ih htail]
      rfl

theorem claimOwner_inPlace (others : ∀ other ∈ before, other.uid ≠ owner.uid)
    (mine : own.uid = owner.uid) (rest : List OwnerReference) :
    claimOwner owner (before ++ own :: rest) =
      before.filter owner.spares ++ owner :: rest.filter owner.spares := by
  have hown : owner.spares own = true := by simp [OwnerReference.spares, mine]
  have hbefore : ∀ other ∈ before.filter owner.spares, other.uid ≠ owner.uid :=
    fun other hother => others other (List.mem_filter.1 hother).1
  have hspared : (before ++ own :: rest).filter owner.spares =
      before.filter owner.spares ++ own :: rest.filter owner.spares := by
    rw [List.filter_append, List.filter_cons_of_pos hown]
  calc
    claimOwner owner (before ++ own :: rest) =
        replaceOwner owner (before.filter owner.spares ++ own :: rest.filter owner.spares) :=
      congrArg (replaceOwner owner) hspared
    _ = before.filter owner.spares ++ owner :: rest.filter owner.spares :=
      replaceOwner_inPlace hbefore mine _

theorem claimOwner_atEnd (absent : ∀ other ∈ owners, other.uid ≠ owner.uid) :
    claimOwner owner owners = owners.filter owner.spares ++ [owner] :=
  replaceOwner_atEnd (fun other hother => absent other (List.mem_filter.1 hother).1)

theorem mem_replaceOwner_self (owner : OwnerReference) (owners : List OwnerReference) :
    owner ∈ replaceOwner owner owners := by
  induction owners with
  | nil => exact List.mem_singleton_self owner
  | cons head tail ih =>
      unfold replaceOwner
      split
      · exact List.mem_cons_self
      · exact List.mem_cons_of_mem head ih

theorem mem_replaceOwner_of_ne (foreign : other.uid ≠ owner.uid) (owners : List OwnerReference) :
    other ∈ replaceOwner owner owners ↔ other ∈ owners := by
  have hne : other ≠ owner := fun h => foreign (congrArg OwnerReference.uid h)
  induction owners with
  | nil => simp [replaceOwner, hne]
  | cons head tail ih =>
      unfold replaceOwner
      split
      · rename_i hhead
        have hother : other ≠ head := fun h => foreign (h ▸ hhead)
        simp [hne, hother]
      · rw [List.mem_cons, List.mem_cons]
        exact or_congr_right ih

theorem mem_claimOwner_self (owner : OwnerReference) (owners : List OwnerReference) :
    owner ∈ claimOwner owner owners :=
  mem_replaceOwner_self owner _

theorem mem_claimOwner_of_ne (foreign : other.uid ≠ owner.uid) (owners : List OwnerReference) :
    other ∈ claimOwner owner owners ↔ other ∈ owners ∧ other.isController = false := by
  unfold claimOwner
  rw [mem_replaceOwner_of_ne foreign, List.mem_filter]
  simp [foreign]

end Claims

/-! ## Controllers -/

def controllers (owners : List OwnerReference) : List OwnerReference :=
  owners.filter (·.isController)

def referencesTo (uid : String) (owners : List OwnerReference) : List OwnerReference :=
  owners.filter (fun other => other.uid = uid)

/-- The references with an identity that come behind another one with it. -/
def repeatedReferences (uid : String) (owners : List OwnerReference) : List OwnerReference :=
  (referencesTo uid owners).tail

theorem referencesTo_replaceOwner (owner : OwnerReference) (owners : List OwnerReference) :
    referencesTo owner.uid (replaceOwner owner owners) =
      owner :: repeatedReferences owner.uid owners := by
  unfold repeatedReferences referencesTo
  induction owners with
  | nil => simp [replaceOwner]
  | cons head tail ih =>
      unfold replaceOwner
      by_cases hhead : head.uid = owner.uid
      · simp [hhead]
      · simp only [List.filter_cons, hhead, decide_false, Bool.false_eq_true, if_false]
        exact ih

theorem referencesTo_claimOwner (owner : OwnerReference) (owners : List OwnerReference) :
    referencesTo owner.uid (claimOwner owner owners) =
      owner :: repeatedReferences owner.uid owners := by
  -- No reference with the owner's identity is dropped before the owner is put in.
  have hspared : referencesTo owner.uid (owners.filter owner.spares) =
      referencesTo owner.uid owners := by
    unfold referencesTo
    rw [List.filter_filter]
    refine List.filter_congr (fun other _ => ?_)
    unfold OwnerReference.spares
    by_cases hmine : other.uid = owner.uid <;> simp [hmine]
  have hreplaced := referencesTo_replaceOwner owner (owners.filter owner.spares)
  unfold repeatedReferences at hreplaced ⊢
  rwa [hspared] at hreplaced

theorem controllers_referencesTo_claimOwner (owner : OwnerReference)
    (owners : List OwnerReference) :
    controllers (referencesTo owner.uid (claimOwner owner owners)) =
      controllers (claimOwner owner owners) := by
  unfold controllers referencesTo
  rw [List.filter_filter]
  refine List.filter_congr (fun other hother => ?_)
  by_cases hmine : other.uid = owner.uid
  · simp [hmine]
  · have hkept := ((mem_claimOwner_of_ne hmine owners).1 hother).2
    simp [hkept]

/-- Beside an owner that controls, exactly the repeated references to it may control as well. -/
theorem controllers_claimOwner {owner : OwnerReference} (controls : owner.isController = true)
    (owners : List OwnerReference) :
    controllers (claimOwner owner owners) =
      owner :: controllers (repeatedReferences owner.uid owners) := by
  rw [← controllers_referencesTo_claimOwner, referencesTo_claimOwner]
  exact List.filter_cons_of_pos controls

theorem repeatedReferences_claimOwner_self (owner : OwnerReference)
    (owners : List OwnerReference) :
    repeatedReferences owner.uid (claimOwner owner owners) =
      repeatedReferences owner.uid owners := by
  rw [repeatedReferences, referencesTo_claimOwner, List.tail_cons]

theorem controllers_repeatedReferences_claimOwner {owner : OwnerReference} {uid : String}
    (foreign : owner.uid ≠ uid) (owners : List OwnerReference) :
    controllers (repeatedReferences uid (claimOwner owner owners)) = [] := by
  unfold controllers
  rw [List.filter_eq_nil_iff]
  intro other hother
  obtain ⟨hmem, huid⟩ := List.mem_filter.1 (List.mem_of_mem_tail hother)
  have hne : other.uid ≠ owner.uid := by
    rw [of_decide_eq_true huid]
    exact foreign.symm
  simp [((mem_claimOwner_of_ne hne owners).1 hmem).2]

theorem controllers_eq_nil_iff {owners : List OwnerReference} :
    controllers owners = [] ↔ ∀ other ∈ owners, other.isController = false := by
  unfold controllers
  simp

theorem repeatedReferences_of_nodup {owners : List OwnerReference}
    (distinct : (owners.map (·.uid)).Nodup) (uid : String) :
    repeatedReferences uid owners = [] := by
  unfold repeatedReferences referencesTo
  induction owners with
  | nil => rfl
  | cons head tail ih =>
      obtain ⟨hhead, htail⟩ := List.nodup_cons.1 distinct
      by_cases huid : head.uid = uid
      · have hothers : tail.filter (fun other => other.uid = uid) = [] := by
          rw [List.filter_eq_nil_iff]
          intro other hother hsame
          have hrepeats : other.uid = head.uid := (of_decide_eq_true hsame).trans huid.symm
          exact hhead (List.mem_map.2 ⟨other, hother, hrepeats⟩)
        simp [huid, hothers]
      · simp only [List.filter_cons, huid, decide_false, Bool.false_eq_true, if_false]
        exact ih htail

/-! ## Marks one behind the other -/

namespace ObjectMeta

/-- The references to owners; metadata may have none set. -/
def owners (metadata : ObjectMeta) : List OwnerReference :=
  metadata.ownerReferences.getD []

def label? (metadata : ObjectMeta) (name : String) : Option String :=
  (metadata.labels.getD ∅).get? name

end ObjectMeta

namespace ChildMeta

@[simp] theorem applyTo_owners (child : ChildMeta) (metadata : ObjectMeta) :
    (child.applyTo metadata).owners = claimOwner child.owner metadata.owners := rfl

@[simp] theorem applyTo_label? (child : ChildMeta) (metadata : ObjectMeta) (name : String) :
    (child.applyTo metadata).label? name =
      (child.labels.get? name).or (metadata.label? name) :=
  Dict.get?_merge _ child.labels name

/-- Mark metadata as the child of one after the other. -/
def applyAll (children : List ChildMeta) (metadata : ObjectMeta) : ObjectMeta :=
  children.foldl (fun metadata child => child.applyTo metadata) metadata

theorem applyAll_cons (child : ChildMeta) (rest : List ChildMeta) (metadata : ObjectMeta) :
    applyAll (child :: rest) metadata = applyAll rest (child.applyTo metadata) := rfl

theorem applyAll_concat (children : List ChildMeta) (child : ChildMeta) (metadata : ObjectMeta) :
    applyAll (children ++ [child]) metadata = child.applyTo (applyAll children metadata) := by
  simp [applyAll]

/-- Repeated references control on until an owner of another identity claims the object. -/
theorem controllers_repeatedReferences_applyAll (children : List ChildMeta)
    (metadata : ObjectMeta) (uid : String) :
    controllers (repeatedReferences uid (applyAll children metadata).owners) =
      if ∀ child ∈ children, child.owner.uid = uid then
        controllers (repeatedReferences uid metadata.owners)
      else [] := by
  induction children generalizing metadata with
  | nil => simp [applyAll]
  | cons child rest ih =>
      rw [applyAll_cons, ih, applyTo_owners]
      -- A claim for the identity keeps what is repeated of it, any other drops its controllers.
      by_cases huid : child.owner.uid = uid
      · subst huid
        rw [repeatedReferences_claimOwner_self]
        simp
      · rw [controllers_repeatedReferences_claimOwner huid]
        simp [huid]

theorem controllers_applyAll (earlier : List ChildMeta) {child : ChildMeta}
    (controls : child.owner.isController = true) (metadata : ObjectMeta) :
    controllers (applyAll (earlier ++ [child]) metadata).owners =
      child.owner ::
        if ∀ other ∈ earlier, other.owner.uid = child.owner.uid then
          controllers (repeatedReferences child.owner.uid metadata.owners)
        else [] := by
  rw [applyAll_concat, applyTo_owners, controllers_claimOwner controls,
    controllers_repeatedReferences_applyAll]

end ChildMeta

/--
Whatever metadata a row of marks starts from, the owner of the last one controls behind it, and
alone exactly if one of the earlier marks names another owner, or no reference to the owner that is
repeated in the list controls.  It always does where the list repeats no identity.
-/
theorem controls_alone_iff (earlier : List ChildMeta) (labels : Dict String) (kind : Kind)
    (owner metadata : ObjectMeta) :
    let child : ChildMeta := { labels := labels, owner := controllerReference kind owner }
    let marked := ChildMeta.applyAll (earlier ++ [child]) metadata
    child.owner ∈ controllers marked.owners ∧
      (controllers marked.owners = [child.owner] ↔
        (∃ other ∈ earlier, other.owner.uid ≠ child.owner.uid) ∨
          ∀ other ∈ repeatedReferences child.owner.uid metadata.owners,
            other.isController = false) ∧
      ((metadata.owners.map (·.uid)).Nodup → controllers marked.owners = [child.owner]) := by
  intro child marked
  have hcontrollers : controllers marked.owners = _ :=
    ChildMeta.controllers_applyAll earlier (rfl : child.owner.isController = true) metadata
  refine ⟨?_, ?_, ?_⟩
  · rw [hcontrollers]
    exact List.mem_cons_self
  · rw [hcontrollers, ← controllers_eq_nil_iff, List.cons.injEq]
    by_cases hsame : ∀ other ∈ earlier, other.owner.uid = child.owner.uid
    · have hnone : ¬ ∃ other ∈ earlier, other.owner.uid ≠ child.owner.uid := by
        rintro ⟨other, hother, hne⟩
        exact hne (hsame other hother)
      rw [if_pos hsame]
      simp [hnone]
    · have hother : ∃ other ∈ earlier, other.owner.uid ≠ child.owner.uid := by
        simpa using hsame
      rw [if_neg hsame]
      simp [hother]
  · intro distinct
    rw [hcontrollers, repeatedReferences_of_nodup distinct]
    simp [controllers]

/-- Metadata with one controller, to which another reference was written first. -/
def twiceReferenced : ObjectMeta where
  name := some "edpm-0"
  ownerReferences := some
    [{ apiVersion := apiVersion
       kind := "NodeSet"
       name := "edpm"
       uid := "uid-edpm"
       controller := none
       blockOwnerDeletion := none },
      { apiVersion := "nodenet.firestoned.io/v1alpha1"
        kind := "NodeSet"
        name := "edpm"
        uid := "uid-edpm"
        controller := some true
        blockOwnerDeletion := some true }]

def referencedSet : NodeSet where
  metadata := { name := some "edpm", ns := some "openstack", uid := some "uid-edpm" }
  spec := {}
  status := none

/-- Only the first reference is replaced, and then both control. -/
theorem twiceReferenced_controlled_twice :
    let child := referencedSet.childMeta .ipReservation
    let marked := child.applyTo twiceReferenced
    (controllers twiceReferenced.owners).length = 1 ∧
      (controllers marked.owners).length = 2 ∧ controllers marked.owners ≠ [child.owner] := by
  decide

end NodeIdentity

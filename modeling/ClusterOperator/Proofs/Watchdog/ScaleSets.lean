import ClusterOperator.Pass.ResourceSet
import ClusterOperator.Proofs.Transcript

/-!
# The guards of a cluster

The id of a guard joins a resource group and a scale set with a slash, and the name of a scale set
joins a cluster and a role with a dash.  A resource group may have slashes in it, and a cluster
dashes; but no cluster has a slash, so it is the last slash of an id that joins, and the names of
the roles are equally long, so it is always the same dash from the end (`guardId_inj`).

A pass that has the guards of a cluster created asks the watchdog for both of its scale sets, and
for nothing else (`guardsAsked_ensureCreated`).
-/

namespace ClusterOperator

/-- What stands behind the last occurrence of a mark, and what stands before it. -/
theorem append_cons_inj_of_last {α : Type} {mark : α} {front front' back back' : List α}
    (h : mark ∉ back) (h' : mark ∉ back') :
    front ++ mark :: back = front' ++ mark :: back' ↔ front = front' ∧ back = back' := by
  refine ⟨fun heq => ?_, fun ⟨hfront, hback⟩ => by rw [hfront, hback]⟩
  rcases append_cons_eq_append heq with ⟨ws, -, rfl⟩ | ⟨ws, rfl, hws⟩
  · exact absurd (List.mem_append_right ws List.mem_cons_self) h
  · cases ws with
    | nil =>
      obtain rfl := (List.cons.inj hws).2
      exact ⟨List.append_nil _, rfl⟩
    | cons w ws =>
      obtain rfl := (List.cons.inj hws).2
      exact absurd (List.mem_append_right ws List.mem_cons_self) h'

namespace NodeRole

theorem toText_length (role : NodeRole) : role.toText.toList.length = 6 := by
  cases role <;> decide +kernel

theorem toText_inj {r s : NodeRole} : r.toText = s.toText ↔ r = s := by
  cases r <;> cases s <;> decide +kernel

theorem slash_notMem_toText (role : NodeRole) : '/' ∉ role.toText.toList := by
  cases role <;> decide +kernel

theorem mem_all (role : NodeRole) : role ∈ all := by
  cases role <;> decide

end NodeRole

namespace Cluster

/-- The id of the guard of a scale set of the cluster. -/
def guardId (c : Cluster) (role : NodeRole) : String :=
  GuardJob.idOf c.resourceGroup (c.scaleSet role)

/-- The scale sets of the cluster, each in its resource group. -/
def guards (c : Cluster) : List (String × String) :=
  NodeRole.all.map fun role => (c.resourceGroup, c.scaleSet role)

theorem mem_guards_iff {c : Cluster} {guard : String × String} :
    guard ∈ c.guards ↔ ∃ role, guard = (c.resourceGroup, c.scaleSet role) := by
  rw [guards, List.mem_map]
  exact ⟨fun ⟨role, _, heq⟩ => ⟨role, heq.symm⟩, fun ⟨role, heq⟩ => ⟨role, role.mem_all, heq.symm⟩⟩

/-- No slash is in the name of the cluster, as in no name that an object can have. -/
def IsNamed (c : Cluster) : Prop := '/' ∉ c.name.toList

instance (c : Cluster) : Decidable c.IsNamed := inferInstanceAs (Decidable ('/' ∉ c.name.toList))

variable {a b c : Cluster} {r s : NodeRole}

theorem toList_scaleSet : (c.scaleSet r).toList = c.name.toList ++ '-' :: r.toText.toList := by
  have happend : c.scaleSet r = c.name ++ "-" ++ r.toText := rfl
  rw [happend, String.toList_append, String.toList_append, List.append_assoc]
  rfl

theorem toList_idOf {resourceGroup scaleSet : String} :
    (GuardJob.idOf resourceGroup scaleSet).toList =
      resourceGroup.toList ++ '/' :: scaleSet.toList := by
  have happend : GuardJob.idOf resourceGroup scaleSet = resourceGroup ++ "/" ++ scaleSet := rfl
  rw [happend, String.toList_append, String.toList_append, List.append_assoc]
  rfl

/-- A scale set tells its cluster and its role. -/
theorem scaleSet_inj : a.scaleSet r = b.scaleSet s ↔ a.name = b.name ∧ r = s := by
  refine ⟨fun h => ?_, fun ⟨hname, hrole⟩ => by rw [scaleSet, scaleSet, hname, hrole]⟩
  rw [← String.toList_inj, toList_scaleSet, toList_scaleSet] at h
  have hlength : ('-' :: r.toText.toList).length = ('-' :: s.toText.toList).length := by
    rw [List.length_cons, List.length_cons, r.toText_length, s.toText_length]
  obtain ⟨hname, hrole⟩ := List.append_inj' h hlength
  exact ⟨String.toList_inj.mp hname,
    NodeRole.toText_inj.mp (String.toList_inj.mp (List.cons.inj hrole).2)⟩

theorem slash_notMem_scaleSet (h : c.IsNamed) : '/' ∉ (c.scaleSet r).toList := by
  rw [toList_scaleSet, List.mem_append, List.mem_cons]
  rintro (hname | heq | hrole)
  · exact h hname
  · cases heq
  · exact r.slash_notMem_toText hrole

/-- **The id of a guard tells the resource group, the cluster and the role.** -/
theorem guardId_inj (ha : a.IsNamed) (hb : b.IsNamed) : a.guardId r = b.guardId s ↔
    a.resourceGroup = b.resourceGroup ∧ a.name = b.name ∧ r = s := by
  rw [← scaleSet_inj, guardId, guardId, ← String.toList_inj, toList_idOf, toList_idOf,
    append_cons_inj_of_last (slash_notMem_scaleSet ha) (slash_notMem_scaleSet hb),
    String.toList_inj, String.toList_inj]

/-- A slash in a name could stand for one in a resource group. -/
example (spec : ClusterSpec) :
    guardId { name := "b/c", spec := { spec with resourceGroup := some "a" } } .master =
      guardId { name := "c", spec := { spec with resourceGroup := some "a/b" } } .master := rfl

end Cluster

/-! ## What a pass asks for -/

/-- The scale set that is to be guarded by a watchdog. -/
def Gateway.Request.guard? (watchdog : Nat) : Gateway.Request → Option (String × String)
  | .guard other resourceGroup scaleSet =>
    if other = watchdog then some (resourceGroup, scaleSet) else none
  | _ => none

/-- **The scale sets that a watchdog was asked to guard**, in order. -/
def guardsAsked (watchdog : Nat) (xs : List (Exchange gateway)) : List (String × String) :=
  xs.filterMap fun x => x.request.guard? watchdog

/-- **Passes over clusters in each of which the guards of the cluster are created**, with all that
was asked on the way. -/
inductive GuardPasses (watchdog : Nat) : List Cluster → List (Exchange gateway) → Prop where
  | nil : GuardPasses watchdog [] []
  | cons {c : Cluster} {rest : List Cluster} {ctx after : PassContext}
      {xs ys : List (Exchange gateway)} {r : Except Failure Unit} :
      ((ClusterResource.instanceGuard watchdog).ensureCreated c).Transcript ctx xs r after →
      GuardPasses watchdog rest ys → GuardPasses watchdog (c :: rest) (xs ++ ys)

variable {watchdog : Nat} {xs : List (Exchange gateway)}

theorem guardsAsked_guardAll {resourceGroup : String} {scaleSets : List String} {u : Unit}
    (h : (ClusterResource.guardAll watchdog resourceGroup scaleSets).Transcript xs u) :
    guardsAsked watchdog xs = scaleSets.map fun scaleSet => (resourceGroup, scaleSet) := by
  induction scaleSets generalizing xs with
  | nil =>
    obtain ⟨rfl, -⟩ := Program.transcript_done_iff.mp h
    rfl
  | cons first rest ih =>
    obtain ⟨new, ys, rfl, hrest⟩ := Program.transcript_call_bind_iff.mp h
    rw [List.map_cons, ← ih hrest, guardsAsked, List.filterMap_cons, Gateway.Request.guard?,
      if_pos rfl, guardsAsked]

/-- A pass asks the watchdog for the scale sets of its cluster. -/
theorem guardsAsked_ensureCreated {c : Cluster} {ctx after : PassContext} {r : Except Failure Unit}
    (h : ((ClusterResource.instanceGuard watchdog).ensureCreated c).Transcript ctx xs r after) :
    guardsAsked watchdog xs = c.guards := by
  obtain ⟨u, hguards, -, -⟩ := Step.transcript_lift_iff.mp h
  rw [guardsAsked_guardAll hguards, Cluster.scaleSets, List.map_map]
  rfl

theorem GuardPasses.guardsAsked {clusters : List Cluster} (h : GuardPasses watchdog clusters xs) :
    ClusterOperator.guardsAsked watchdog xs = clusters.flatMap Cluster.guards := by
  induction h with
  | nil => rfl
  | cons hpass _ ih =>
    rw [ClusterOperator.guardsAsked, List.filterMap_append, List.flatMap_cons,
      ← guardsAsked_ensureCreated hpass, ← ih]
    rfl

end ClusterOperator

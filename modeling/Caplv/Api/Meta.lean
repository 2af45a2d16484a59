import Caplv.Text

namespace Caplv.Api

structure ObjectKey where
  namespaceName : String
  name : String
deriving DecidableEq, Repr

-- An error of the Kubernetes client; apierrors.IsNotFound tells the two apart.
inductive ApiError where
  | notFound (message : String)
  | other (message : String)
deriving DecidableEq, Repr

def ApiError.isNotFound : ApiError → Bool
  | .notFound _ => true
  | .other _ => false

def ApiError.message : ApiError → String
  | .notFound message => message
  | .other message => message

inductive ConditionType where
  | reachable
  | infrastructureReady
  | hostReachable
  | bootstrapDataReady
  | baseImageStaged
  | cleanupStalled
  | nodeLabelled
deriving DecidableEq, Repr

inductive Reason where
  | baseImageNotFound
  | baseImagePoolNotFound
  | storagePoolNotFound
  | invalidBootstrapData
  | specMismatch
  | networkTypeUnsupported
  | storageInsufficient
  | bootstrapDataNotReady
  | hostNotReady
  | nodeNotJoined
  | baseImageStaging
  | provisioned
  | nodeLabelled
  | baseImageStaged
  | bootstrapDataReady
  | cleanupStalled
  | connectionFailed
  | hypervisorUnavailable
  | sessionModeMisconfigured
  | connectionSucceeded
deriving DecidableEq, Repr

structure Condition where
  type : ConditionType
  status : Bool
  reason : Reason
  message : String
  observedGeneration : Int
deriving DecidableEq, Repr

-- apimeta.SetStatusCondition: the condition of that type is replaced in place, or appended.
def setStatusCondition : List Condition → Condition → List Condition
  | [], new => [new]
  | existing :: rest, new =>
    if existing.type = new.type then new :: rest else existing :: setStatusCondition rest new

def removeStatusCondition (conditions : List Condition) (type : ConditionType) : List Condition :=
  conditions.filter fun condition => condition.type ≠ type

-- apimeta.FindStatusCondition: the first condition of that type.
def findStatusCondition (conditions : List Condition) (type : ConditionType) : Option Condition :=
  conditions.find? fun condition => condition.type = type

theorem findStatusCondition_set (conditions : List Condition) (new : Condition) (type : ConditionType) :
    findStatusCondition (setStatusCondition conditions new) type =
      if new.type = type then some new else findStatusCondition conditions type := by
  induction conditions with
  | nil => by_cases htype : new.type = type <;> simp [setStatusCondition, findStatusCondition, htype]
  | cons existing rest ih =>
    simp only [findStatusCondition] at ih ⊢
    rw [setStatusCondition]
    by_cases hsame : existing.type = new.type
    · rw [if_pos hsame]
      by_cases htype : new.type = type
      · simp [htype]
      · simp [hsame, htype]
    · rw [if_neg hsame]
      by_cases hexisting : existing.type = type
      · have hother : new.type ≠ type := fun hnew => hsame (hexisting.trans hnew.symm)
        simp [hexisting, hother]
      · simpa [List.find?_cons, hexisting] using ih

theorem findStatusCondition_remove (conditions : List Condition) {removed type : ConditionType}
    (hother : removed ≠ type) :
    findStatusCondition (removeStatusCondition conditions removed) type = findStatusCondition conditions type := by
  unfold findStatusCondition removeStatusCondition
  rw [List.find?_filter]
  congr 1
  funext condition
  by_cases htype : condition.type = type
  · simp [htype, hother.symm]
  · simp [htype]

theorem filter_setStatusCondition (conditions : List Condition) (new : Condition) :
    (setStatusCondition conditions new).filter (fun condition => condition.type ≠ new.type) =
      conditions.filter fun condition => condition.type ≠ new.type := by
  induction conditions with
  | nil => simp [setStatusCondition]
  | cons existing rest ih =>
    rw [setStatusCondition]
    by_cases hsame : existing.type = new.type
    · simp [hsame]
    · rw [if_neg hsame, List.filter_cons, List.filter_cons, ih]

def machineFinalizer : String := "infrastructure.cluster.x-k8s.io/libvirt-machine"

def managedNodeLabelsAnnotation : String :=
  "infrastructure.cluster.x-k8s.io/libvirt-managed-labels"

def managedNodeAnnotationsAnnotation : String :=
  "infrastructure.cluster.x-k8s.io/libvirt-managed-annotations"

def clusterNameLabel : String := "cluster.x-k8s.io/cluster-name"

def pausedAnnotation : String := "cluster.x-k8s.io/paused"

end Caplv.Api

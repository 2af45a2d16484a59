import Caplv.Scope.Machine

namespace Caplv.Scope

open Text Api

def segments (s : String) : List (List Char) := s.toList.splitOn '-'

theorem segments_join (s t : String) : segments (s ++ "-" ++ t) = segments s ++ segments t := by
  have hchars : (s ++ "-" ++ t).toList = s.toList ++ '-' :: t.toList := by simp
  rw [segments, hchars]
  exact List.splitOnP_append_cons s.toList t.toList (beq_self_eq_true '-')

theorem segments_inj {s t : String} : segments s = segments t ↔ s = t := by
  constructor
  · intro h
    have hjoined : ['-'].intercalate (segments s) = ['-'].intercalate (segments t) := by rw [h]
    rw [segments, segments, List.intercalate_splitOn, List.intercalate_splitOn] at hjoined
    exact String.toList_inj.mp hjoined
  · rintro rfl
    rfl

namespace MachineScope

variable (scope a b : MachineScope)

def segments : List (List Char) :=
  Scope.segments scope.libvirtMachine.namespaceName ++ Scope.segments scope.cluster.name ++
    Scope.segments scope.libvirtMachine.name

theorem segments_artifactBaseName : Scope.segments scope.artifactBaseName = scope.segments := by
  rw [artifactBaseName, baseName, segments_join, segments_join, segments]

-- The names of two machines coincide exactly when their namespaces, clusters and names read
-- the same once the dashes between them are forgotten.
theorem artifactBaseName_eq_iff : a.artifactBaseName = b.artifactBaseName ↔ a.segments = b.segments := by
  rw [← segments_inj, segments_artifactBaseName, segments_artifactBaseName]

-- The volume of a root disk or an additional disk, by its label.
def labelledVolume (label : String) : String := scope.artifactBaseName ++ "-" ++ label ++ ".qcow2"

theorem rootDiskVolumeName_eq : scope.rootDiskVolumeName = scope.labelledVolume "root" := by
  rw [rootDiskVolumeName, labelledVolume, String.append_assoc, String.append_assoc]
  rfl

theorem labelledVolume_eq_iff (x y : String) : a.labelledVolume x = b.labelledVolume y ↔
    a.segments ++ Scope.segments x = b.segments ++ Scope.segments y := by
  rw [labelledVolume, labelledVolume, String.append_left_inj, ← segments_inj, segments_join, segments_join,
    segments_artifactBaseName, segments_artifactBaseName]

theorem bootstrapISOName_ne_labelledVolume (label : String) :
    a.bootstrapISOName ≠ b.labelledVolume label := by
  rw [bootstrapISOName, labelledVolume]
  generalize a.artifactBaseName = head
  generalize b.artifactBaseName ++ "-" ++ label = head'
  intro h
  have hlast := congrArg (fun s : String => s.toList.getLast?) h
  simp [List.getLast?_append] at hlast

structure NamesApart (a b : MachineScope) : Prop where
  domain : a.domainName ≠ b.domainName
  rootDisk : a.rootDiskVolumeName ≠ b.rootDiskVolumeName
  bootstrapISO : a.bootstrapISOName ≠ b.bootstrapISOName
  ephemeralPool : a.ephemeralPoolName ≠ b.ephemeralPoolName
  ignitionFile : a.ignitionFilePath ≠ b.ignitionFilePath

theorem namesApart_iff : NamesApart a b ↔ a.segments ≠ b.segments := by
  rw [← (artifactBaseName_eq_iff a b).ne]
  constructor
  · exact fun h => h.domain
  · intro hbase
    refine ⟨hbase, mt (String.append_left_inj _).mp hbase, mt (String.append_left_inj _).mp hbase,
      mt (String.append_left_inj _).mp hbase, fun hfile => hbase ?_⟩
    exact (String.append_right_inj _).mp ((String.append_left_inj _).mp hfile)

-- What tells two machines apart, and how many dash-separated parts the first two of the three have.
def identity : String × String × String :=
  (scope.libvirtMachine.namespaceName, scope.cluster.name, scope.libvirtMachine.name)

def shape : Nat × Nat :=
  ((Scope.segments scope.libvirtMachine.namespaceName).length, (Scope.segments scope.cluster.name).length)

-- Among machines of one shape the parts can be told apart again.
theorem segments_eq_iff {a b : MachineScope} (h : a.shape = b.shape) :
    a.segments = b.segments ↔ a.identity = b.identity := by
  obtain ⟨hnamespace, hcluster⟩ := Prod.mk.inj h
  constructor
  · intro hsegments
    rw [segments, segments, List.append_assoc, List.append_assoc] at hsegments
    obtain ⟨hfirst, hrest⟩ := List.append_inj hsegments hnamespace
    obtain ⟨hsecond, hthird⟩ := List.append_inj hrest hcluster
    rw [identity, identity, segments_inj.mp hfirst, segments_inj.mp hsecond, segments_inj.mp hthird]
  · intro hidentity
    obtain ⟨hfirst, hrest⟩ := Prod.mk.inj hidentity
    obtain ⟨hsecond, hthird⟩ := Prod.mk.inj hrest
    rw [segments, segments, hfirst, hsecond, hthird]

def renamed (namespaceName cluster name : String) : MachineScope :=
  { scope with
    cluster := { scope.cluster with name := cluster }
    libvirtMachine := { scope.libvirtMachine with namespaceName := namespaceName, name := name } }

end MachineScope

def dashed (n : Nat) : String := String.ofList (['-'].intercalate (List.replicate (n + 1) ['a']))

theorem segments_dashed (n : Nat) : segments (dashed n) = List.replicate (n + 1) ['a'] := by
  rw [segments, dashed, String.toList_ofList]
  refine List.splitOn_intercalate _ (fun part hpart => ?_) (by simp)
  rw [List.eq_of_mem_replicate hpart]
  decide

-- Machines of any two different shapes may share their names.
theorem exists_sameNames (scope : MachineScope) {n c n' c' : Nat} (h : (n, c) ≠ (n', c')) :
    ∃ a b : MachineScope, a.shape = (n + 1, c + 1) ∧ b.shape = (n' + 1, c' + 1) ∧ a.identity ≠ b.identity ∧
      a.artifactBaseName = b.artifactBaseName := by
  have hshape (n c m : Nat) : (scope.renamed (dashed n) (dashed c) (dashed m)).shape = (n + 1, c + 1) := by
    simp [MachineScope.shape, MachineScope.renamed, segments_dashed]
  refine ⟨scope.renamed (dashed n) (dashed c) (dashed (n' + c')), scope.renamed (dashed n') (dashed c')
    (dashed (n + c)), hshape _ _ _, hshape _ _ _, fun hidentity => h ?_, ?_⟩
  · obtain ⟨hfirst, hrest⟩ := Prod.mk.inj hidentity
    have hlength {k k' : Nat} (heq : dashed k = dashed k') : k = k' := by
      have hparts := congrArg (List.length ∘ segments) heq
      simpa [segments_dashed] using hparts
    rw [hlength hfirst, hlength (Prod.mk.inj hrest).1]
  · rw [MachineScope.artifactBaseName_eq_iff]
    simp only [MachineScope.segments, MachineScope.renamed, segments_dashed, ← List.replicate_add]
    congr 1
    omega

end Caplv.Scope

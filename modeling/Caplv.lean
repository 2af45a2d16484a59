import Caplv.Program.Basic
import Caplv.Program.Logic
import Caplv.Program.Body
import Caplv.Program.System
import Caplv.Program.Stage
import Caplv.Program.Expand
import Caplv.Program.Singleflight
import Caplv.Text
import Caplv.Path
import Caplv.Digest
import Caplv.Shell.Lexer
import Caplv.Api.Meta
import Caplv.Api.Types
import Caplv.Csr.Approver
import Caplv.Csr.Theorems
import Caplv.Csr.Authority
import Caplv.Libvirt.Errors
import Caplv.Libvirt.DomainXml
import Caplv.Libvirt.Client
import Caplv.Libvirt.Host
import Caplv.Libvirt.Virsh
import Caplv.Libvirt.Growth
import Caplv.Libvirt.Remote
import Caplv.Libvirt.Upload
import Caplv.Libvirt.RemoteFiles
import Caplv.Scope.Machine
import Caplv.Scope.Names
import Caplv.Controller.Op
import Caplv.Controller.Preflight
import Caplv.Controller.Credentials
import Caplv.Controller.Steps
import Caplv.Controller.Normal
import Caplv.Controller.Delete
import Caplv.Controller.Reconcile
import Caplv.Controller.Calls
import Caplv.Controller.Provision
import Caplv.Controller.Cleanup
import Caplv.Controller.World
import Caplv.Controller.Finalizer
import Caplv.Controller.FailStop
import Caplv.Controller.OnHost
import Caplv.Controller.Deletion
import Caplv.Controller.Retry
import Caplv.Controller.Stages
import Caplv.Controller.StageLaws
import Caplv.Controller.StageRuns
import Caplv.Controller.Resume
import Caplv.Controller.Naming
import Caplv.BootArtifacts.Resolver
import Caplv.Controller.Handling
import Caplv.Controller.Staging
import Caplv.Controller.ArtifactCache
import Caplv.Controller.BootStaging
import Caplv.ImageCache.Resolver
import Caplv.ImageCache.Cache
import Caplv.ImageCache.Integrity
import Caplv.ImageCache.Coalescing
import Caplv.Webhook.Machine
import Caplv.Webhook.Admission
import Caplv.Controller.Settled
import Caplv.Controller.PreflightPools
import Caplv.Controller.Versions
import Caplv.Controller.RootDisk
import Caplv.Controller.ProviderID
import Caplv.Controller.ManagedArtifacts
import Caplv.StringMap
import Caplv.Controller.NodeKeys
import Caplv.Controller.NodeOwnership
import Caplv.Controller.EphemeralDeletion
import Caplv.Libvirt.Tmpfs
import Caplv.Controller.TmpfsMounts
import Caplv.Host.HealthCheck
import Caplv.Host.Sizing
import Caplv.Shell.Glob
import Caplv.Libvirt.Sudoers
import Caplv.Controller.SudoCommands
import Caplv.Host.Coherence
import Caplv.Libvirt.DiskTargets
import Caplv.Controller.Volumes
import Caplv.Keyed
import Caplv.Keyfile
import Caplv.Ignition.Json
import Caplv.Ignition.NMConnection
import Caplv.PathEscape
import Caplv.Ignition.Inject
import Caplv.Libvirt.Reports
import Caplv.Controller.EphemeralRevival
import Caplv.Controller.BootstrapIso
import Caplv.Controller.UploadLock
import Caplv.Controller.DomainFidelity
import Caplv.Controller.Conditions
import Caplv.Program.Checked
import Caplv.Runes
import Caplv.Host.Output
import Caplv.Host.Capacity
import Caplv.BootArtifacts.Transport
import Caplv.Controller.DockerConfig
import Caplv.Controller.DiskSizes
import Caplv.Libvirt.Leftovers
import Caplv.Xml
import Caplv.Libvirt.DomainMarshal
import Caplv.Program.Workqueue
import Caplv.Host.Monitoring
import Caplv.Controller.NeverStranded
import Caplv.Program.Informer
import Caplv.Controller.ClusterEndpoint
import Caplv.Shell.Script
import Caplv.Program.Relay
import Caplv.Libvirt.Sessions
import Caplv.Libvirt.Station
import Caplv.Libvirt.StationRuns
import Caplv.Libvirt.StationOutput
import Caplv.Libvirt.Fragments
import Caplv.Libvirt.StationHost
import Caplv.Libvirt.StationCalls
import Caplv.Controller.OnStation
import Caplv.Controller.DeletionOverSsh

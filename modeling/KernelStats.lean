import KernelStats.FileTree
import KernelStats.Kernel.Session
import KernelStats.Main
import KernelStats.Memory.World
import KernelStats.Proofs.Accounting
import KernelStats.Proofs.Anchoring
import KernelStats.Proofs.ChainLayout
import KernelStats.Proofs.CopyOnWrite
import KernelStats.Proofs.DistinctSeries
import KernelStats.Proofs.DocumentShape
import KernelStats.Proofs.Enumeration
import KernelStats.Proofs.FaultIsolation
import KernelStats.Proofs.Gathering
import KernelStats.Proofs.GroupBlocks
import KernelStats.Proofs.KernelLookup
import KernelStats.Proofs.LiteralLookup
import KernelStats.Proofs.NameCollisions
import KernelStats.Proofs.NamedValues
import KernelStats.Proofs.NamespacePrefix
import KernelStats.Proofs.PointUpdate
import KernelStats.Proofs.PrintedRun
import KernelStats.Proofs.RecordGroups
import KernelStats.Proofs.RecordLayout
import KernelStats.Proofs.Registration
import KernelStats.Proofs.SessionLifetime
import KernelStats.Proofs.SingleRun
import KernelStats.Source.Scripted
import KernelStats.Source.Table

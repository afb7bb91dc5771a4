import NfsRs.Client.BusyBudget
import NfsRs.Client.Directories
import NfsRs.Client.FilePosition
import NfsRs.Client.GuardedSetattr
import NfsRs.Client.OpenOptions
import NfsRs.Client.PipelinedRead
import NfsRs.Client.RecoveryEvents
import NfsRs.Client.Wakeups
import NfsRs.Client.WriteAll
import NfsRs.Nfs3.Acl
import NfsRs.Nfs4.Setattr
import NfsRs.Nfs40.CloseOrder
import NfsRs.Nfs40.DelegatedAttributes
import NfsRs.Nfs40.LeaseClosing
import NfsRs.Nfs40.LockOrder
import NfsRs.Nfs41.AtMostOnce
import NfsRs.Nfs41.BusyRetry
import NfsRs.Nfs41.CommitPlan
import NfsRs.Nfs41.DefiniteFailure
import NfsRs.Nfs41.DeviceFetch
import NfsRs.Nfs41.DirtyRanges
import NfsRs.Nfs41.FileRecords
import NfsRs.Nfs41.LayoutMerge
import NfsRs.Nfs41.LayoutStateid
import NfsRs.Nfs41.OpenAccounting
import NfsRs.Nfs41.OpenOrder
import NfsRs.Nfs41.PathLookup
import NfsRs.Nfs41.SlotExclusivity
import NfsRs.Nfs41.SlotExhaustion
import NfsRs.Nfs41.SlotFencing
import NfsRs.Nfs41.StaleReplay
import NfsRs.Nfs41.StripedRead
import NfsRs.Nfs41.TransferSizes
import NfsRs.Nfs41.WaitOrder
import NfsRs.Nfs41.WriteLayouts
import NfsRs.Rpc.Isolation
import NfsRs.Nfs41.ReadPlus

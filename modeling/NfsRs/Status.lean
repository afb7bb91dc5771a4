import Mathlib.Algebra.Order.Ring.Nat

/-!
# NfsRs — status codes

The status enumerations of the three protocols: `nfsstat4` (NFSv4 errors, shared by
the minor versions), `nfsstat3` and the MOUNT protocol's `mountstat3`.
-/

namespace NfsRs

/-- `nfsstat4`, exported by the crate as `Nfs4ErrorCode`. -/
inductive Nfs4ErrorCode where
  | ok | perm | noent | io | nxio | access | exist | xdev | notdir | isdir | inval | fbig
  | nospc | rofs | mlink | nametoolong | notempty | dquot | stale | badhandle | badCookie
  | notsupp | toosmall | serverfault | badtype | delay | same | denied | expired | locked
  | grace | fhexpired | shareDenied | wrongsec | clidInuse | moved | nofilehandle
  | minorVersMismatch | staleClientid | staleStateid | oldStateid | badStateid | badSeqid
  | notSame | lockRange | symlink | restorefh | leaseMoved | attrnotsupp | noGrace
  | reclaimBad | reclaimConflict | badxdr | locksHeld | openmode | badowner | badchar
  | badname | badRange | lockNotsupp | opIllegal | deadlock | fileOpen | adminRevoked
  | cbPathDown | badiomode | badlayout | badSessionDigest | badsession | badslot
  | completeAlready | connNotBoundToSession | delegAlreadyWanted | backChanBusy
  | layouttrylater | layoutunavailable | nomatchingLayout | recallconflict
  | unknownLayouttype | seqMisordered | sequencePos | reqTooBig | repTooBig
  | repTooBigToCache | retryUncachedRep | unsafeCompound | tooManyOps | opNotInSession
  | hashAlgUnsupp | clientidBusy | pnfsIoHole | seqFalseRetry | badHighSlot | deadsession
  | encrAlgUnsupp | pnfsNoLayout | notOnlyOp | wrongCred | wrongType | dirdelegUnavail
  | rejectDeleg | returnconflict | delegRevoked | partnerNotsupp | partnerNoAuth
  | unionNotsupp | offloadDenied | wrongLfs | badlabel | offloadNoReqs | noxattr
  | xattr2big
  deriving DecidableEq, Repr

/-- `nfsstat3`. -/
inductive Nfs3ErrorCode where
  | ok | perm | noent | io | nxio | acces | exist | xdev | nodev | notdir | isdir | inval
  | fbig | nospc | rofs | mlink | nametoolong | notempty | dquot | stale | remote
  | badhandle | notSync | badCookie | notsupp | toosmall | serverfault | badtype | jukebox
  deriving DecidableEq, Repr

/-- `mountstat3` of the MOUNT protocol. -/
inductive MountErrorCode where
  | ok | perm | noent | io | acces | notdir | inval | nametoolong | notsupp | serverfault
  deriving DecidableEq, Repr

end NfsRs

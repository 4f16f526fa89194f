import Mathlib.Data.List.Basic

/-! Status codes of the Test Environment, as far as the modelled functions name
them. A zero `te_errno` is a successful `Except`, so a `TeErrno` is never zero. -/

namespace NetDrv

/-- Error numbers; `os` is a translated `errno` and `other` any code the suite does not name. -/
inductive TeError where
  | eacces
  | ebadmsg
  | efail
  | eilseq
  | einval
  | emsgsize
  | enoent
  | enomem
  | eopnotsupp
  | epfnosupport
  | esmallbuf
  | os (errno : Nat)
  | other (code : Nat)
  deriving DecidableEq, Repr

inductive TeModule where
  | none
  | cs
  | tapi
  | taUnix
  | other (code : Nat)
  deriving DecidableEq, Repr

/-- A nonzero `te_errno`: the error number and the module `TE_RC()` composed into it. -/
structure TeErrno where
  module : TeModule
  error : TeError
  deriving DecidableEq, Repr

def teRc (module : TeModule) (error : TeError) : TeErrno := ⟨module, error⟩

/-- An error number on its own, as functions that return `TE_EFAIL` do. -/
instance : Coe TeError TeErrno := ⟨teRc .none⟩

/-- What `te_rpc_error_set()` records before an RPC returns. -/
structure RpcError where
  rc : TeErrno
  message : String
  deriving DecidableEq, Repr

inductive Jump where
  | checkRc (rc : TeErrno)
  | stop
  | fail (message : String)
  | skip (message : String)
  | verdict (message : String)
  deriving DecidableEq, Repr

/-- `rand_range()`: the number of the range that `raw` selects. -/
def randRange (min max raw : Nat) : Nat := min + raw % (max - min + 1)

theorem le_randRange (min max raw : Nat) : min ≤ randRange min max raw := Nat.le_add_right _ _

theorem randRange_le {min max : Nat} (range : min ≤ max) (raw : Nat) : randRange min max raw ≤ max := by
  have below : raw % (max - min + 1) < max - min + 1 := Nat.mod_lt raw (Nat.succ_pos _)
  unfold randRange
  omega

end NetDrv

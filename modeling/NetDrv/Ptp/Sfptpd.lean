import Mathlib.Algebra.Group.Int.Defs
import Mathlib.Algebra.GroupWithZero.Nat
import NetDrv.Phy.ModeName
import NetDrv.Lib.Script

/-! `ptp/sfptpd`: the daemon runs as a slave on the IUT and as a master on the Tester. The
test reads two state files of the IUT again and again until both say that their clock is
synchronized, and compares the `ptp_` statistics from before with those from after. -/

namespace NetDrv.Sfptpd
open Script
open Phy (isSpace digitsValue)

/-- `atoi()`: what `strtol()` returns, cut to an `int`. -/
def atoi (s : List Char) : Int :=
  let (negative, body) :=
    match s.dropWhile isSpace with
    | '-' :: rest => (true, rest)
    | '+' :: rest => (false, rest)
    | rest => (false, rest)
  let value : Int := (digitsValue body 0).1
  (if negative then max (-value) (-2 ^ 63) else min value (2 ^ 63 - 1)).bmod (2 ^ 32)

def syncPref : List Char := "in-sync:".toList

/-- What follows the first `in-sync:` behind a white space. -/
def findSync : List Char → Option (List Char)
  | [] => none
  | c :: rest =>
    if isSpace c && syncPref.isPrefixOf rest then some (rest.drop syncPref.length) else findSync rest

def inSync (text : List Char) : Bool :=
  match findSync text with
  | some p => atoi p != 0
  | none => false

inductive StateFile where
  | ptp
  | system
  deriving DecidableEq, Repr

def StateFile.path : StateFile → String
  | .ptp => "/var/lib/sfptpd/state-ptp1"
  | .system => "/var/lib/sfptpd/state-system"

inductive StateRead where
  | missing
  | unopened (errno : String)
  | failed (jump : Jump)
  | text (chars : List Char)

def getSyncStatus (file : StateFile) : StateRead → Except Jump Bool
  | .missing => .ok false
  | .unopened errno => .error (.verdict ("Failed to open " ++ file.path ++ ", errno=" ++ errno))
  | .failed jump => .error jump
  | .text chars => .ok (inSync chars)

def maxSyncWait : Nat := 1200
def checkWait : Nat := 5

/-- The loop that waits, with `ptp_in_sync` and `system_in_sync` as they were last read. -/
def waitSync (state : Nat → StateFile → StateRead) : List Nat → Bool × Bool → Except Jump (Bool × Bool)
  | [], last => .ok last
  | i :: rounds, _ => do
    let ptpInSync ← getSyncStatus .ptp (state i .ptp)
    let systemInSync ← getSyncStatus .system (state i .system)
    if systemInSync && ptpInSync then .ok (ptpInSync, systemInSync)
    else waitSync state rounds (ptpInSync, systemInSync)

/-- One run of `ethtool -S`. -/
structure EthtoolRun where
  rc : Option String
  errOut : Bool
  stats : List (String × String)

inductive Host where
  | iut
  | tst
  deriving DecidableEq, Repr

/-- What `config_sfptpd()` gets. -/
structure Config where
  path : Option String
  /-- Its six calls under `CHECK_RC()`. -/
  rc : Nat → Option TeErrno

structure Bench where
  /-- The index of the PTP device that `ETHTOOL_GET_TS_INFO` gives. -/
  tsInfo : Except String Int
  openDevice : Option String
  /-- `RPC_CLOSE()` of the device. -/
  closeDevice : Option Jump
  factory : Option TeErrno
  /-- `te_strtoul()` -/
  strtoul : String → Except TeErrno UInt64
  before : EthtoolRun
  after : EthtoolRun
  config : Host → Config
  ntpdDisable : Host → Option Jump
  sfptpdEnable : Host → Option Jump
  state : Nat → StateFile → StateRead

structure World where
  verdicts : List String
  deriving DecidableEq, Repr

def World.start : World := ⟨[]⟩

def errorVerdict (message : String) : Script Jump World Unit :=
  update (fun w => ⟨w.verdicts ++ [message]⟩)

def checkRc (rc : Option TeErrno) : Script Jump World Unit :=
  match rc with
  | none => pure ()
  | some rc => fail (.checkRc rc)

def called (jump : Option Jump) : Script Jump World Unit :=
  match jump with
  | none => pure ()
  | some jump => fail jump

/-- `net_drv_open_ptp_fd()` with an empty prefix. -/
def openPtpFd (tsInfo : Except String Int) (openDevice : Option String) : Script Jump World Unit :=
  match tsInfo with
  | .error rc => do
    errorVerdict ("ioctl(SIOCETHTOOL/ETHTOOL_GET_TS_INFO) failed with error " ++ rc)
    fail .stop
  | .ok phcIndex =>
    if phcIndex < 0 then fail (.skip "PTP device index is not known")
    else match openDevice with
      | some rc => fail (.verdict ("failed to open PTP device file, errno=" ++ rc))
      | none => pure ()

def configSfptpd (config : Config) : Script Jump World Unit := do
  when (config.path.getD "" == "") (fail (.skip "Path to sfptpd cannot be obtained from /local:/path:sfptpd"))
  forEach (List.range 6) (fun i => checkRc (config.rc i))

/-- Add up the statistics whose names start with `ptp_`. -/
def sumStats (strtoul : String → Except TeErrno UInt64) : List (String × String) → UInt64 → Except Jump UInt64
  | [], sum => .ok sum
  | (key, value) :: stats, sum =>
    if "ptp_".toList.isPrefixOf key.toList then
      match strtoul value with
      | .ok val => sumStats strtoul stats (sum + val)
      | .error rc => .error (.checkRc rc)
    else sumStats strtoul stats sum

/-- The sum as an `int64_t`. -/
def signed (sum : UInt64) : Int := sum.toBitVec.toInt

def getPtpStatsSum (strtoul : String → Except TeErrno UInt64) (ethtool : EthtoolRun) (stage : String) :
    Script Jump World Int :=
  match ethtool.rc with
  | some rc => do
    errorVerdict (stage ++ ": failed to process ethtool command, rc=" ++ rc)
    pure (-1)
  | none => do
    when ethtool.errOut (errorVerdict (stage ++ ": ethtool printed something to stderr"))
    let sum ← ofExcept (sumStats strtoul ethtool.stats 0)
    pure (signed sum)

def compareStats (statsBefore statsAfter : Int) : Script Jump World Unit :=
  when (0 ≤ statsAfter && 0 ≤ statsBefore && statsAfter ≤ statsBefore)
    (errorVerdict ("Sum of PTP statistics after running sfptpd " ++
      if statsAfter < statsBefore then "decreased" else "did not increase"))

def startDaemons (bench : Bench) : Script Jump World Unit := do
  configSfptpd (bench.config .iut)
  configSfptpd (bench.config .tst)
  called (bench.ntpdDisable .iut)
  called (bench.ntpdDisable .tst)
  called (bench.sfptpdEnable .iut)
  called (bench.sfptpdEnable .tst)

/-- The steps of the test before it waits; the result is `stats_before`. -/
def prepare (bench : Bench) : Script Jump World Int := do
  openPtpFd bench.tsInfo bench.openDevice
  called bench.closeDevice
  checkRc bench.factory
  let statsBefore ← getPtpStatsSum bench.strtoul bench.before "Before running sfptpd"
  startDaemons bench
  pure statsBefore

/-- The steps of the test from the end of the waiting on. -/
def judge (bench : Bench) (statsBefore : Int) (ptpInSync systemInSync : Bool) : Script Jump World Unit := do
  when (!systemInSync) (errorVerdict "Failed to wait until system clock becomes synchronized")
  when (!ptpInSync) (errorVerdict "Failed to wait until adapter clock becomes synchronized")
  let statsAfter ← getPtpStatsSum bench.strtoul bench.after "After running sfptpd"
  compareStats statsBefore statsAfter
  when (!systemInSync || !ptpInSync) (fail .stop)

def rounds : List Nat := List.range (maxSyncWait / checkWait + 1)

def main (bench : Bench) : Script Jump World Unit := do
  let statsBefore ← prepare bench
  let (ptpInSync, systemInSync) ← ofExcept (waitSync bench.state rounds (false, false))
  judge bench statsBefore ptpInSync systemInSync

end NetDrv.Sfptpd

import NetDrv.Lib.Script
import NetDrv.Phy.Mode
import Mathlib.Data.List.Nodup

/-! The Configurator's view of the PHY of one interface. A set stages a value and
opens a local command sequence, a commit closes it and, if it succeeds, applies all
staged values; while a sequence is open a regular GET fails with `TE_EACCES`. Every
command may fail: `answer n command` is the error it gets in the `n`th call of the
library, which issues each command at most once. -/

namespace NetDrv.Phy

/-- The committed configuration under `/agent/interface/phy:`. -/
structure PhyTree where
  autoneg : Autoneg
  speedAdmin : Speed
  duplexAdmin : Duplex
  /-- Instances of `/phy:/mode:*`. -/
  names : List String
  unique : names.Nodup
  advertised : String → Bool

inductive Field where
  | autoneg
  | speedAdmin
  | duplexAdmin
  | modeAdv (name : String)
  deriving DecidableEq, Repr

inductive Setting where
  | autoneg (value : Autoneg)
  | speedAdmin (value : Speed)
  | duplexAdmin (value : Duplex)
  | modeAdv (name : String) (value : Bool)
  deriving DecidableEq, Repr

def PhyTree.apply (tree : PhyTree) : Setting → PhyTree
  | .autoneg value => { tree with autoneg := value }
  | .speedAdmin value => { tree with speedAdmin := value }
  | .duplexAdmin value => { tree with duplexAdmin := value }
  | .modeAdv name value =>
    { tree with advertised := fun other => if other = name then value else tree.advertised other }

def PhyTree.applyAll (tree : PhyTree) (settings : List Setting) : PhyTree :=
  settings.foldl PhyTree.apply tree

/-- What the functions under test ask of the Configurator; a GET records whether a local
command sequence was open when it was issued. -/
inductive Command where
  | sync
  | findModes
  | instName (name : String)
  | get (field : Field) (opened : Bool)
  | set (setting : Setting)
  | commit
  deriving DecidableEq, Repr

def Command.reads : Command → Bool
  | .sync => true
  | .findModes => true
  | .instName _ => true
  | .get _ _ => true
  | .set _ => false
  | .commit => false

structure Cfg where
  tree : PhyTree
  staged : List Setting
  /-- Number of library calls made so far. -/
  calls : Nat
  log : List Command

/-- A local command sequence is open from the first successful set to the next commit. -/
def Cfg.opened (cfg : Cfg) : Bool := !cfg.staged.isEmpty

def Cfg.record (cfg : Cfg) (command : Command) : Cfg := { cfg with log := cfg.log ++ [command] }

abbrev PhyScript := Script TeErrno Cfg

def enterCall : PhyScript Unit := fun cfg => (.ok (), { cfg with calls := cfg.calls + 1 })

section
variable (answer : Nat → Command → Option TeErrno)

/-- A command that reads `read` out of the committed configuration. -/
def cfgRead {α : Type} (command : Command) (read : PhyTree → Except TeErrno α) : PhyScript α := fun cfg =>
  match answer cfg.calls command with
  | some rc => (.error rc, cfg.record command)
  | none => (read cfg.tree, cfg.record command)

def cfgGet {α : Type} (field : Field) (read : PhyTree → Except TeErrno α) : PhyScript α := fun cfg =>
  if cfg.opened then (.error (teRc .cs .eacces), cfg.record (.get field true))
  else cfgRead answer (.get field false) read cfg

def cfgSet (setting : Setting) : PhyScript Unit := fun cfg =>
  match answer cfg.calls (.set setting) with
  | some rc => (.error rc, cfg.record (.set setting))
  | none => (.ok (), { cfg.record (.set setting) with staged := cfg.staged ++ [setting] })

def phyCommit : PhyScript Unit := fun cfg =>
  match answer cfg.calls .commit with
  | some rc => (.error rc, { cfg.record .commit with staged := [] })
  | none => (.ok (), { cfg.record .commit with staged := [], tree := cfg.tree.applyAll cfg.staged })

def syncTree : PhyScript Unit := cfgRead answer .sync (fun _ => .ok ())

/-- `cfg_find_pattern_fmt()` on `/phy:/mode:*`; a handle is the name it stands for. -/
def findModes : PhyScript (List String) := cfgRead answer .findModes (fun tree => .ok tree.names)

def instName (handle : String) : PhyScript String := cfgRead answer (.instName handle) (fun _ => .ok handle)

def autonegGet : PhyScript Autoneg := cfgGet answer .autoneg (fun tree => .ok tree.autoneg)
def speedAdminGet : PhyScript Speed := cfgGet answer .speedAdmin (fun tree => .ok tree.speedAdmin)
def duplexAdminGet : PhyScript Duplex := cfgGet answer .duplexAdmin (fun tree => .ok tree.duplexAdmin)

def modeAdvGet (name : String) : PhyScript Bool := cfgGet answer (.modeAdv name) (fun tree =>
  if name ∈ tree.names then .ok (tree.advertised name) else .error (teRc .cs .enoent))

def autonegSet (value : Autoneg) : PhyScript Unit := cfgSet answer (.autoneg value)
def speedAdminSet (value : Speed) : PhyScript Unit := cfgSet answer (.speedAdmin value)
def duplexAdminSet (value : Duplex) : PhyScript Unit := cfgSet answer (.duplexAdmin value)
def modeAdvSet (name : String) (value : Bool) : PhyScript Unit := cfgSet answer (.modeAdv name value)

end

@[simp] theorem record_staged (cfg : Cfg) (command : Command) : (cfg.record command).staged = cfg.staged := rfl

@[simp] theorem record_log (cfg : Cfg) (command : Command) :
    (cfg.record command).log = cfg.log ++ [command] := rfl

/-- `now` is `before` after some commands that only read, none of them in an open sequence. -/
structure Reads (before now : Cfg) : Prop where
  tree : now.tree = before.tree
  staged : now.staged = before.staged
  calls : now.calls = before.calls
  log : ∃ commands, now.log = before.log ++ commands ∧
    ∀ command ∈ commands, command.reads = true ∧ ∀ field, command ≠ .get field true

theorem Reads.refl (cfg : Cfg) : Reads cfg cfg := ⟨rfl, rfl, rfl, [], by simp, by simp⟩

theorem Reads.record {before now : Cfg} (reads : Reads before now) {command : Command}
    (plain : command.reads = true) (allowed : ∀ field, command ≠ .get field true) :
    Reads before (now.record command) := by
  obtain ⟨commands, log, each⟩ := reads.log
  refine ⟨reads.tree, reads.staged, reads.calls, commands ++ [command], ?_, ?_⟩
  · simp [Cfg.record, log]
  · simp only [List.forall_mem_append, List.forall_mem_singleton]
    exact ⟨each, plain, allowed⟩

section
variable {answer : Nat → Command → Option TeErrno} {before now : Cfg}

theorem cfgRead_wp {α : Type} (reads : Reads before now) (command : Command) (plain : command.reads = true)
    (allowed : ∀ field, command ≠ .get field true)
    (read : PhyTree → Except TeErrno α) :
    (cfgRead answer command read).wp (fun value after => read before.tree = .ok value ∧ Reads before after)
      (fun _ after => Reads before after) now := by
  have after := reads.record plain allowed
  unfold Script.wp cfgRead
  rw [reads.tree]
  cases answer now.calls command with
  | some rc => exact after
  | none =>
    cases value : read before.tree with
    | ok value => exact ⟨rfl, after⟩
    | error rc => exact after

theorem cfgGet_wp {α : Type} (closed : before.staged = []) (reads : Reads before now) (field : Field)
    (read : PhyTree → Except TeErrno α) :
    (cfgGet answer field read).wp (fun value after => read before.tree = .ok value ∧ Reads before after)
      (fun _ after => Reads before after) now := by
  have shut : now.opened = false := by simp [Cfg.opened, reads.staged, closed]
  have plain : (cfgRead answer (.get field false) read).wp _ _ now :=
    cfgRead_wp reads (.get field false) rfl (by simp) read
  simpa [Script.wp, cfgGet, shut] using plain

end

end NetDrv.Phy

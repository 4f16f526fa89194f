import NetDrv.Te
import Mathlib.Algebra.Group.Nat.Defs

/-! PHY modes: how `net_drv_phy.c` reads speed and duplex out of a mode name and
which modes it therefore treats as link modes. -/

namespace NetDrv.Phy

inductive Autoneg where
  | off
  | on
  | unknown
  deriving DecidableEq, Repr

inductive Duplex where
  | half
  | full
  | unknown
  deriving DecidableEq, Repr

/-- A speed in Mbit/s, or `TE_PHY_SPEED_UNKNOWN`. -/
inductive Speed where
  | unknown
  | mbps (value : Nat)
  deriving DecidableEq, Repr

def ulongMax : Nat := 2 ^ 64 - 1

def intMax : Nat := 2 ^ 31 - 1

/-- `isspace()` in the C locale. -/
def isSpace (c : Char) : Bool :=
  c == ' ' || c == '\t' || c == '\n' || c == '\x0b' || c == '\x0c' || c == '\r'

def digitsValue : List Char → Nat → Nat × List Char
  | [], value => (value, [])
  | c :: rest, value =>
    if c.isDigit then digitsValue rest (10 * value + (c.toNat - '0'.toNat)) else (value, c :: rest)

/-- `strtoul()` with base 10: the value and what follows it, or `none` if nothing was converted. -/
def strtoul (s : List Char) : Option (Nat × List Char) :=
  let (negative, body) :=
    match s.dropWhile isSpace with
    | '-' :: rest => (true, rest)
    | '+' :: rest => (false, rest)
    | rest => (false, rest)
  match body with
  | [] => none
  | c :: _ =>
    if c.isDigit then
      let (value, rest) := digitsValue body 0
      if value > ulongMax then some (ulongMax, rest)
      else if negative then some ((2 ^ 64 - value) % 2 ^ 64, rest)
      else some (value, rest)
    else none

/-- `strrchr()`: the string from the last occurrence of a character on. -/
def strrchr (wanted : Char) : List Char → Option (List Char)
  | [] => none
  | c :: rest =>
    match strrchr wanted rest with
    | some found => some found
    | none => if c = wanted then some (c :: rest) else none

def parseSpeedDuplexMode (modeName : String) : Option (Nat × Duplex) :=
  match strtoul modeName.toList with
  | none => none
  | some (parsedSpeed, endptr) =>
    if parsedSpeed > intMax || endptr.take 4 != "base".toList then none
    else
      match strrchr '_' modeName.toList with
      | none => none
      | some duplexSuffix =>
        if duplexSuffix = "_Full".toList then some (parsedSpeed, .full)
        else if duplexSuffix = "_Half".toList then some (parsedSpeed, .half)
        else if modeName = "10000baseR_FEC" then some (parsedSpeed, .full)
        else none

/-- `net_drv_phy_mode_info`. -/
structure ModeInfo where
  name : String
  advertised : Bool
  speed : Speed
  duplex : Duplex
  deriving DecidableEq, Repr

/-- A mode as `net_drv_phy_state_save()` describes it. -/
def ModeInfo.ofName (name : String) (advertised : Bool) : ModeInfo :=
  match parseSpeedDuplexMode name with
  | some (speed, duplex) => ⟨name, advertised, .mbps speed, duplex⟩
  | none => ⟨name, advertised, .unknown, .unknown⟩

def isLinkMode (mode : ModeInfo) : Bool := mode.speed != .unknown && mode.duplex != .unknown

@[simp] theorem ofName_name (name : String) (advertised : Bool) :
    (ModeInfo.ofName name advertised).name = name := by
  unfold ModeInfo.ofName
  split <;> rfl

@[simp] theorem ofName_advertised (name : String) (advertised : Bool) :
    (ModeInfo.ofName name advertised).advertised = advertised := by
  unfold ModeInfo.ofName
  split <;> rfl

example : parseSpeedDuplexMode "1000baseT_Full" = some (1000, .full) := by decide

/-- `net_drv_phy_saved_state`. -/
structure SavedState where
  autoneg : Autoneg
  speedAdmin : Speed
  duplexAdmin : Duplex
  modes : List ModeInfo
  saved : Bool
  deriving DecidableEq, Repr

/-- The modes which the functions that change advertisement iterate over. -/
def SavedState.linkModes (state : SavedState) : List ModeInfo := state.modes.filter isLinkMode

end NetDrv.Phy

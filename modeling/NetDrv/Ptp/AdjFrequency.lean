import Mathlib.Algebra.Order.Floor.Ring
import Mathlib.Tactic.Linarith
import NetDrv.Ptp.Clock

/-! `ptp/adj_frequency` changes the frequency of the clock and changes it back. The
register of the clock counts in units of `2^-16` parts per million. Its initial value is
read into `adj_params`; the cleanup writes that structure back, while the regular end
passes the same field to a function that takes parts per million. -/

namespace NetDrv.Ptp.AdjFrequency
open Script

structure World where
  /-- The frequency register of the clock. -/
  register : Int
  /-- `adj_params.freq` -/
  freq : Int
  undoChange : Bool
  warnVerdicts : List String
  deriving DecidableEq, Repr

structure Env where
  /-- Why the clock could not be opened, if it could not. -/
  openPtpFd : Option Jump
  /-- The error of the call that reads the register, if it fails. -/
  initial : Option String
  setting : Check
  restoring : Check
  /-- The error of the call made in the cleanup, if it fails. -/
  undo : Option String
  minSleep : Nat
  maxSleep : Nat

/-- The value of `timex.freq` for a frequency in parts per million. -/
def scaled (freq : ℚ) : Int := truncate (freq * 65536)

def adjCheckFreq (check : Check) (minSleep maxSleep : Nat) (freq : ℚ) (stage : String) : Script Jump World Unit := do
  let ts1 ← check.clockGettime 0
  check.clockAdjtime stage (scaled freq) (fun w => { w with register := scaled freq })
  let sleepTime := randRange (1000 * minSleep) (1000 * maxSleep) check.rand
  let ts2 ← check.clockGettime 1
  let tsDiff := timespecDiff ts2 ts1
  let noChangeDiff : ℚ := sleepTime / 1000
  let expDiff := noChangeDiff * (1 + freq / 1000000)
  when (|tsDiff - expDiff| > defPtpInacc) (
    if |tsDiff - noChangeDiff| < defPtpInacc then
      fail (.verdict (stage ++ "(): frequency offset has no significant effect"))
    else fail (.verdict (stage ++ ": after a delay timestamp does not match expectation")))

section
variable (env : Env)

def openPtpFd : Script Jump World Unit :=
  match env.openPtpFd with
  | some jump => fail jump
  | none => pure ()

def readInitial : Script Jump World Unit := do
  match env.initial with
  | some err => fail (.verdict ("Initial clock_adjtime() call failed unexpectedly with error " ++ err))
  | none => update (fun w => { w with freq := w.register })
  let initialFreq ← gets World.freq
  when (initialFreq ≠ 0) (update (fun w =>
    { w with warnVerdicts := w.warnVerdicts ++ ["Initial frequency offset is not zero"] }))

def changeAndUndo (freq : ℚ) : Script Jump World Unit := do
  update (fun w => { w with undoChange := true })
  adjCheckFreq env.setting env.minSleep env.maxSleep freq "Setting frequency offset"
  let initialFreq ← gets World.freq
  adjCheckFreq env.restoring env.minSleep env.maxSleep initialFreq "Restoring initial frequency"
  update (fun w => { w with undoChange := false })

def body (freq : ℚ) : Script Jump World Unit := do
  openPtpFd env
  readInitial env
  changeAndUndo env freq

def cleanup : Script Jump World Unit := do
  let undoChange ← gets World.undoChange
  when (undoChange && env.undo.isNone) (update (fun w => { w with register := w.freq }))

/-- The test on a clock whose register holds `f0`. -/
def main (freq : ℚ) (f0 : Int) : World :=
  let test : Script Jump World Unit := do
    let _ ← attempt (body env freq)
    cleanup env
  (test ⟨f0, 0, false, []⟩).2

end

theorem adjCheckFreq_wp (check : Check) (minSleep maxSleep : Nat) (freq : ℚ) (stage : String) (w : World) :
    (adjCheckFreq check minSleep maxSleep freq stage).wp (fun _ after => after = { w with register := scaled freq })
      (fun _ after => ∃ register, after = { w with register := register }) w := by
  unfold adjCheckFreq
  rw [wp_bind]
  apply wp_clockGettime 0 _ (fun _ => ⟨w.register, rfl⟩)
  intro ts1 _
  rw [wp_bind]
  apply wp_clockAdjtime _ (fun _ => ⟨w.register, rfl⟩)
  rw [wp_bind]
  apply wp_clockGettime 1 _ (fun _ => ⟨scaled freq, rfl⟩)
  intro ts2 _
  apply wp_when
  · intro _
    split
    · exact ⟨scaled freq, rfl⟩
    · exact ⟨scaled freq, rfl⟩
  · intro _
    rfl

/-- A world from which the cleanup can bring the register back to `f0`. -/
def Undoable (f0 : Int) (w : World) : Prop :=
  w.undoChange = false ∧ w.register = f0 ∨ w.undoChange = true ∧ w.freq = f0

theorem openPtpFd_wp (env : Env) (w : World) :
    (openPtpFd env).wp (fun _ after => after = w) (fun _ after => after = w) w := by
  unfold openPtpFd
  cases env.openPtpFd with
  | some jump => rfl
  | none => rfl

theorem readInitial_wp (env : Env) (w : World) :
    (readInitial env).wp (fun _ after => after.freq = w.register) (fun _ after => after = w) w := by
  unfold readInitial
  cases env.initial with
  | some err => rfl
  | none =>
    rw [wp_bind, wp_update, wp_bind, wp_gets]
    apply wp_when
    · intro _
      rfl
    · intro _
      rfl

theorem changeAndUndo_wp (env : Env) (freq : ℚ) (w : World) :
    (changeAndUndo env freq).wp (fun _ after => after.undoChange = false ∧ after.register = scaled w.freq)
      (fun _ => Undoable w.freq) w := by
  rw [changeAndUndo, wp_bind, wp_update]
  apply wp_seq (adjCheckFreq_wp env.setting env.minSleep env.maxSleep freq _ _)
  · intro _ set changed
    rw [wp_bind, wp_gets]
    apply wp_seq (adjCheckFreq_wp env.restoring env.minSleep env.maxSleep set.freq _ set)
    · intro _ back restored
      rw [wp_update, restored, changed]
      exact ⟨rfl, rfl⟩
    · intro _ back ⟨register, stopped⟩
      rw [stopped, changed]
      exact .inr ⟨rfl, rfl⟩
  · intro _ set ⟨register, stopped⟩
    rw [stopped]
    exact .inr ⟨rfl, rfl⟩

theorem body_wp (env : Env) (freq : ℚ) (f0 : Int) :
    (body env freq).wp (fun _ w => w.undoChange = false ∧ w.register = scaled f0) (fun _ => Undoable f0)
      ⟨f0, 0, false, []⟩ := by
  unfold body
  apply wp_seq (openPtpFd_wp env _)
  · intro _ opened same
    rw [same]
    apply wp_seq (readInitial_wp env _)
    · intro _ read saved
      rw [show f0 = read.freq from saved.symm]
      exact changeAndUndo_wp env freq read
    · intro _ read untouched
      rw [untouched]
      exact .inl ⟨rfl, rfl⟩
  · intro _ opened untouched
    rw [untouched]
    exact .inl ⟨rfl, rfl⟩

theorem scaled_intCast (f0 : Int) : scaled f0 = f0 * 65536 := by
  have exact : (f0 : ℚ) * 65536 = (f0 * 65536 : Int) := by push_cast; rfl
  rw [scaled, exact, truncate_intCast]

theorem main_register (env : Env) (freq : ℚ) (f0 : Int) (undone : env.undo = none) :
    (main env freq f0).register =
      match (body env freq ⟨f0, 0, false, []⟩).1 with
      | .ok _ => f0 * 65536
      | .error _ => f0 := by
  have spec := body_wp env freq f0
  have run : main env freq f0 = (cleanup env (body env freq ⟨f0, 0, false, []⟩).2).2 := rfl
  have undo : ∀ w, (cleanup env w).2 = if w.undoChange then { w with register := w.freq } else w := by
    intro w
    simp only [cleanup, undone, Option.isNone_none, Bool.and_true]
    cases change : w.undoChange <;> simp [gets, when, bind, update, change, pure]
  rw [wp] at spec
  rw [run, undo]
  split at spec
  next ended =>
    rw [ended, ← scaled_intCast, spec.1]
    exact spec.2
  next stopped =>
    rw [stopped]
    rcases spec with ⟨unchanged, register⟩ | ⟨changed, saved⟩
    · rw [unchanged]
      exact register
    · rw [changed]
      exact saved

def ofNsecs (n : Int) : Timespec := ⟨n / 1000000000, n % 1000000000⟩

theorem timespecDiff_ofNsecs (n : Int) : timespecDiff (ofNsecs n) ⟨0, 0⟩ = n / 1000000000 := by
  have parts : (n : ℚ) = (1000000000 * (n / 1000000000) + n % 1000000000 : Int) := by
    rw [Int.mul_ediv_add_emod]
  rw [parts]
  simp only [timespecDiff, ofNsecs, sub_zero]
  push_cast
  ring

/-- A clock that runs as fast as it was told to, read to the nanosecond after a sleep of `minSleep` seconds. -/
def steady (minSleep : Nat) (freq : ℚ) : Check where
  gettime := fun n =>
    if n = 0 then some ⟨0, 0⟩ else some (ofNsecs ⌊minSleep * (1 + freq / 1000000) * 1000000000⌋)
  adjtime := fun _ => none
  rand := 0

theorem close_of_nsecs (exp : ℚ) :
    ¬|timespecDiff (ofNsecs ⌊exp * 1000000000⌋) ⟨0, 0⟩ - exp| > defPtpInacc := by
  have low : (⌊exp * 1000000000⌋ : ℚ) ≤ exp * 1000000000 := Int.floor_le _
  have high : exp * 1000000000 < ⌊exp * 1000000000⌋ + 1 := Int.lt_floor_add_one _
  rw [not_lt, timespecDiff_ofNsecs, defPtpInacc, abs_le]
  constructor <;> linarith

theorem adjCheckFreq_steady (minSleep maxSleep : Nat) (freq : ℚ) (stage : String) (w : World) :
    adjCheckFreq (steady minSleep freq) minSleep maxSleep freq stage w =
      (.ok (), { w with register := scaled freq }) := by
  have slept : ((randRange (1000 * minSleep) (1000 * maxSleep) 0 : Nat) : ℚ) / 1000 = minSleep := by
    rw [randRange, Nat.zero_mod, Nat.add_zero]
    push_cast
    ring
  have close := close_of_nsecs (minSleep * (1 + freq / 1000000))
  have first : (steady minSleep freq).gettime 0 = some ⟨0, 0⟩ := rfl
  have second : (steady minSleep freq).gettime 1 =
    some (ofNsecs ⌊minSleep * (1 + freq / 1000000) * 1000000000⌋) := rfl
  have accepted : (steady minSleep freq).adjtime (scaled freq) = none := rfl
  have rand : (steady minSleep freq).rand = 0 := rfl
  simp only [adjCheckFreq, Check.clockGettime, Check.clockAdjtime, first, second, accepted, rand, slept, pure_bind,
    close, when, decide_false]
  rfl

def regular (freq : ℚ) (f0 : Int) : Env where
  openPtpFd := none
  initial := none
  setting := steady 5 freq
  restoring := steady 5 f0
  undo := none
  minSleep := 5
  maxSleep := 10

theorem changeAndUndo_regular (freq : ℚ) (w : World) :
    (changeAndUndo (regular freq w.freq) freq w).1 = .ok () := by
  let set : World := { w with undoChange := true, register := scaled freq }
  have first : adjCheckFreq (steady 5 freq) 5 10 freq "Setting frequency offset" { w with undoChange := true } =
    (.ok (), set) := adjCheckFreq_steady 5 10 freq _ _
  have second : adjCheckFreq (steady 5 w.freq) 5 10 w.freq "Restoring initial frequency" set =
    (.ok (), { set with register := scaled w.freq }) := adjCheckFreq_steady 5 10 w.freq _ set
  simp only [changeAndUndo, regular, bind, update, gets, first]
  simp only [set] at second ⊢
  rw [second]

theorem body_regular (freq : ℚ) (f0 : Int) : (body (regular freq f0) freq ⟨f0, 0, false, []⟩).1 = .ok () := by
  have opened : ∀ w, openPtpFd (regular freq f0) w = (.ok (), w) := fun _ => rfl
  have read : ∃ warnVerdicts, readInitial (regular freq f0) ⟨f0, 0, false, []⟩ =
      (.ok (), ⟨f0, f0, false, warnVerdicts⟩) := by
    by_cases zero : f0 = 0
    · refine ⟨[], ?_⟩
      simp [readInitial, regular, bind, update, gets, when, pure, zero]
    · refine ⟨["Initial frequency offset is not zero"], ?_⟩
      simp [readInitial, regular, bind, update, gets, when, zero]
  obtain ⟨warnVerdicts, read⟩ := read
  rw [body, bind_ok (opened _), bind_ok read]
  exact changeAndUndo_regular freq ⟨f0, f0, false, warnVerdicts⟩

/-- The register holds its initial value again, however the test ends. -/
def Restored (freq : ℚ) (f0 : Int) : Prop := ∀ env : Env, env.undo = none → (main env freq f0).register = f0

theorem restored_iff_zero (freq : ℚ) (f0 : Int) : Restored freq f0 ↔ f0 = 0 := by
  constructor
  · intro restored
    have scaledAgain : f0 * 65536 = f0 := by
      have register := main_register (regular freq f0) freq f0 rfl
      rw [restored (regular freq f0) rfl, body_regular] at register
      exact register.symm
    omega
  · intro zero env undone
    rw [main_register env freq f0 undone, zero]
    split <;> rfl

/-- A register that held one unit holds a whole part per million after a regular run. -/
theorem main_one_unit : (main (regular 49999 1) 49999 1).register = 65536 ∧ ¬Restored 49999 1 := by
  have register : (main (regular 49999 1) 49999 1).register = 65536 := by
    rw [main_register (regular 49999 1) 49999 1 rfl, body_regular]
    rfl
  refine ⟨register, ?_⟩
  intro restored
  have back := restored (regular 49999 1) rfl
  omega

end NetDrv.Ptp.AdjFrequency

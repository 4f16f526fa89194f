import Mathlib.Algebra.Group.Nat.Defs
import NetDrv.Rss.ChangeChannels

/-! The choice of the new number of combined channels in `rss/change_channels`. The
guards before the loop are to leave it something to choose; they do not when only the
numbers two to four are there, powers of two are not wanted and there are three
channels already. -/

namespace NetDrv.Rss.ChangeChannels
open Script

theorem oddPart_eq_one_iff {n : Nat} (positive : 0 < n) : oddPart n = 1 ↔ ∃ k, n = 2 ^ k := by
  induction n using oddPart.induct with
  | case1 n even ih =>
    rw [oddPart, if_pos even, ih (by omega)]
    constructor
    · intro ⟨k, half⟩
      exact ⟨k + 1, by rw [Nat.pow_succ]; omega⟩
    · intro ⟨k, power⟩
      cases k with
      | zero => simp at power; omega
      | succ k => exact ⟨k, by rw [Nat.pow_succ] at power; omega⟩
  | case2 n odd =>
    rw [oddPart, if_neg odd]
    constructor
    · intro one
      exact ⟨0, one⟩
    · intro ⟨k, power⟩
      cases k with
      | zero => exact power
      | succ k => rw [Nat.pow_succ] at power; omega

theorem oddPart_pos {n : Nat} (positive : 0 < n) : 0 < oddPart n := by
  induction n using oddPart.induct with
  | case1 n even ih =>
    rw [oddPart, if_pos even]
    exact ih (by omega)
  | case2 n odd =>
    rw [oddPart, if_neg odd]
    exact positive

section
variable {env : Env}

theorem accepts_iff {combinedNew : Nat} (positive : 0 < combinedNew) :
    accepts env combinedNew = true ↔
      (combinedNew : Int) ≠ env.combinedInit ∧ ((∃ k, combinedNew = 2 ^ k) ↔ env.twoPower = true) := by
  have nonzero := oddPart_pos positive
  rw [← oddPart_eq_one_iff positive, accepts, decide_eq_true_iff]
  cases env.twoPower with
  | true => simp; omega
  | false => simp

theorem chooseCombined_some {left i combinedNew : Nat} (chosen : chooseCombined env left i = some combinedNew) :
    (∃ raw, combinedNew = randRange 2 env.combinedMax.toNat raw) ∧ accepts env combinedNew = true := by
  induction left generalizing i with
  | zero => cases chosen
  | succ left ih =>
    rw [chooseCombined] at chosen
    split at chosen
    next accepted =>
      cases chosen
      exact ⟨⟨env.randCombined i, rfl⟩, accepted⟩
    next rejected => exact ih chosen

theorem chooseCombined_first {left i combinedNew : Nat}
    (drawn : randRange 2 env.combinedMax.toNat (env.randCombined i) = combinedNew) (accepted : accepts env combinedNew = true) :
    chooseCombined env (left + 1) i = some combinedNew := by
  rw [chooseCombined]
  simp only [drawn, accepted, if_true]

end

def Env.withRand (env : Env) (rand : Nat → Nat) : Env := { env with randCombined := rand }

def Guarded (env : Env) : Prop :=
  ¬env.combinedInit < 1 ∧ ¬(env.combinedMax < 3 ∨ env.twoPower = true ∧ env.combinedMax < 4)

def CanChoose (env : Env) : Prop := ∃ rand, (chooseCombined (env.withRand rand) maxAttempts 0).isSome

/-- Whatever the loop chooses is as the test wants it. -/
def ChoosesWell (env : Env) : Prop :=
  ∀ rand combinedNew, chooseCombined (env.withRand rand) maxAttempts 0 = some combinedNew →
    2 ≤ combinedNew ∧ (combinedNew : Int) ≤ env.combinedMax ∧ (combinedNew : Int) ≠ env.combinedInit ∧
      ((∃ k, combinedNew = 2 ^ k) ↔ env.twoPower = true)

section
variable {env : Env}

theorem Guarded.choosesWell (guarded : Guarded env) : ChoosesWell env := by
  intro rand combinedNew chosen
  obtain ⟨⟨raw, drawn⟩, accepted⟩ := chooseCombined_some chosen
  have low : 2 ≤ combinedNew := drawn ▸ le_randRange 2 _ raw
  have guards := guarded.2
  have high : combinedNew ≤ env.combinedMax.toNat := by
    rw [drawn]
    apply randRange_le
    show 2 ≤ env.combinedMax.toNat
    omega
  have spec := (accepts_iff (by omega)).1 accepted
  exact ⟨low, by omega, spec⟩

theorem canChoose_iff (guarded : Guarded env) :
    CanChoose env ↔ ∃ combinedNew : Nat, 2 ≤ combinedNew ∧ (combinedNew : Int) ≤ env.combinedMax ∧
      (combinedNew : Int) ≠ env.combinedInit ∧ ((∃ k, combinedNew = 2 ^ k) ↔ env.twoPower = true) := by
  constructor
  · intro ⟨rand, found⟩
    obtain ⟨combinedNew, chosen⟩ := Option.isSome_iff_exists.1 found
    exact ⟨combinedNew, guarded.choosesWell rand combinedNew chosen⟩
  · intro ⟨combinedNew, low, high, wanted⟩
    let again := env.withRand (fun _ => combinedNew - 2)
    have drawn : randRange 2 again.combinedMax.toNat (again.randCombined 0) = combinedNew := by
      show randRange 2 env.combinedMax.toNat (combinedNew - 2) = combinedNew
      rw [randRange, Nat.mod_eq_of_lt (by omega)]
      omega
    have accepted : accepts again combinedNew = true := (accepts_iff (by omega)).2 wanted
    have attempts : maxAttempts = 9999 + 1 := by unfold maxAttempts; rfl
    refine ⟨fun _ => combinedNew - 2, ?_⟩
    rw [attempts]
    exact Option.isSome_iff_exists.2 ⟨combinedNew, chooseCombined_first drawn accepted⟩

theorem power_of_two_cases {combinedNew : Nat} (low : 2 ≤ combinedNew) (high : combinedNew ≤ 5) :
    (∃ k, combinedNew = 2 ^ k) ↔ combinedNew = 2 ∨ combinedNew = 4 := by
  rw [← oddPart_eq_one_iff (by omega)]
  have values : combinedNew = 2 ∨ combinedNew = 3 ∨ combinedNew = 4 ∨ combinedNew = 5 := by omega
  rcases values with rfl | rfl | rfl | rfl <;> simp [oddPart]

/-- The choice of the number of channels, for all numbers and both values of the parameter. -/
theorem chooseCombined_spec (env : Env) (guarded : Guarded env) :
    (CanChoose env ∧ ChoosesWell env) ↔
      ¬(env.twoPower = false ∧ env.combinedInit = 3 ∧ env.combinedMax ≤ 4) := by
  have guards := guarded.2
  rw [and_iff_left guarded.choosesWell, canChoose_iff guarded]
  constructor
  · intro ⟨combinedNew, low, high, other, wanted⟩ ⟨noPower, three, four⟩
    rw [power_of_two_cases low (by omega), noPower] at wanted
    simp only [Bool.false_eq_true, iff_false] at wanted
    omega
  · intro room
    cases power : env.twoPower with
    | true =>
      simp only [power, true_and] at guards
      -- of two and four, one is not the initial number
      by_cases two : env.combinedInit = 2
      · exact ⟨4, by decide, by omega, by omega, iff_of_true ⟨2, rfl⟩ rfl⟩
      · exact ⟨2, by decide, by omega, by omega, iff_of_true ⟨1, rfl⟩ rfl⟩
    | false =>
      simp only [power, true_and] at room
      have odd : ∀ n : Nat, n = 3 ∨ n = 5 → ¬∃ k, n = 2 ^ k := by
        intro n choice
        rw [power_of_two_cases (by omega) (by omega)]
        omega
      by_cases three : env.combinedInit = 3
      · exact ⟨5, by decide, by omega, by omega, iff_of_false (odd 5 (by decide)) (by decide)⟩
      · exact ⟨3, by decide, by omega, by omega, iff_of_false (odd 3 (by decide)) (by decide)⟩

end

/-- An interface with three of four channels, where every call succeeds. -/
def threeOfFour : Env where
  rc := fun _ => none
  combinedInit := 3
  combinedMax := 4
  indirTableSize := 128
  defaultEntry := fun channels i => i % channels
  inet6 := false
  twoPower := false
  randCombined := id
  randRxq := fun _ _ j => j
  portIsFree := fun _ _ _ _ => .ok true

/-- With a fifth channel there is a number to choose. -/
theorem chooseCombined_three_of_five :
    CanChoose { threeOfFour with combinedMax := 5 } ∧ ChoosesWell { threeOfFour with combinedMax := 5 } := by
  apply (chooseCombined_spec { threeOfFour with combinedMax := 5 } (by simp [Guarded, threeOfFour])).2
  simp [threeOfFour]

/-- The guards let three of four channels through, and then the test fails whatever is drawn. -/
theorem changeCombined_three_of_four :
    Guarded threeOfFour ∧ ¬CanChoose threeOfFour ∧
    ∀ rand, (changeCombined (threeOfFour.withRand rand) (World.start threeOfFour .default)).1 =
      .error (.fail "Cannot choose a different number of combined channels") := by
  have guarded : Guarded threeOfFour := by simp [Guarded, threeOfFour]
  have stuck : ¬CanChoose threeOfFour := by
    rw [canChoose_iff guarded]
    intro ⟨combinedNew, low, high, other, wanted⟩
    simp only [threeOfFour] at high other wanted
    rw [power_of_two_cases low (by omega)] at wanted
    simp only [Bool.false_eq_true, iff_false] at wanted
    omega
  refine ⟨guarded, stuck, ?_⟩
  intro rand
  have none : chooseCombined (threeOfFour.withRand rand) maxAttempts 0 = none := by
    rw [← Option.not_isSome_iff_eq_none]
    intro found
    exact stuck ⟨rand, found⟩
  simp only [changeCombined, none]
  rfl

end NetDrv.Rss.ChangeChannels

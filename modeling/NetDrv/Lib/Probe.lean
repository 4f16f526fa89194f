import NetDrv.Lib.Script

/-! Tests that configure a device and probe it. A plan alternates changes of the
configuration, which may be refused, with probes, whose outcome is judged; a judgement that
lets an outcome pass may leave a warning. What the device should do is a relation between
configuration, stimulus and outcome; a plan is sound if each of its judgements accepts exactly
what the relation allows in the configuration reached by then, with the warning that is due.
A sound plan passes if and only if nothing was refused and the device did nothing it should
not do, and its warnings are then the ones that were due. -/

namespace NetDrv.Probe
open Script

structure Observed (C S O : Type) where
  conf : C
  stimulus : S
  outcome : O

structure World (ε N C S O : Type) where
  conf : C
  moment : Nat
  answers : List (Except ε Unit)
  seen : List (Observed C S O)
  warnings : List N

inductive Step (ε N C S O : Type) where
  | change (answer : Nat → Except ε Unit) (apply : C → C)
  | probe (stimulus : S) (judge : O → Except ε (Option N))

section
variable {ε N C S O : Type} (device : Nat → C → S → O)

def Step.check (stimulus : S) (judge : O → Except ε Unit) : Step ε N C S O :=
  .probe stimulus (fun outcome => (judge outcome).map (fun _ => none))

def silent : C → S → O → Option N := fun _ _ _ => none

def World.start (conf : C) : World ε N C S O := ⟨conf, 0, [], [], []⟩

def ask (answer : Nat → Except ε Unit) : Script ε (World ε N C S O) (Except ε Unit) := fun w =>
  (.ok (answer w.moment), { w with moment := w.moment + 1, answers := w.answers ++ [answer w.moment] })

def observe (stimulus : S) : Script ε (World ε N C S O) O := fun w =>
  (.ok (device w.moment w.conf stimulus), { w with
    moment := w.moment + 1
    seen := w.seen ++ [⟨w.conf, stimulus, device w.moment w.conf stimulus⟩] })

def Step.run : Step ε N C S O → Script ε (World ε N C S O) Unit
  | .change answer apply => do
      ofExcept (← ask answer)
      update (fun w => { w with conf := apply w.conf })
  | .probe stimulus judge => do
      let outcome ← observe device stimulus
      let warning ← ofExcept (judge outcome)
      update (fun w => { w with warnings := w.warnings ++ warning.toList })

def run (plan : List (Step ε N C S O)) : Script ε (World ε N C S O) Unit := forEach plan (Step.run device)

/-- The configuration a plan ends in if nothing is refused. -/
def reach : List (Step ε N C S O) → C → C
  | [], conf => conf
  | .change _ apply :: plan, conf => reach plan (apply conf)
  | .probe _ _ :: plan, conf => reach plan conf

/-- Configurations and stimuli in the order in which a plan that is not interrupted probes. -/
def trace : List (Step ε N C S O) → C → List (C × S)
  | [], _ => []
  | .change _ apply :: plan, conf => trace plan (apply conf)
  | .probe stimulus _ :: plan, conf => (conf, stimulus) :: trace plan conf

variable (allowed : C → S → O → Prop) (due : C → S → O → Option N)

def Sound : List (Step ε N C S O) → C → Prop
  | [], _ => True
  | .change _ apply :: plan, conf => Sound plan (apply conf)
  | .probe stimulus judge :: plan, conf =>
    (∀ outcome warning, judge outcome = .ok warning ↔
      allowed conf stimulus outcome ∧ warning = due conf stimulus outcome) ∧ Sound plan conf

/-- Nothing was refused and everything seen is allowed. -/
structure World.Clean (w : World ε N C S O) : Prop where
  accepted : ∀ answer ∈ w.answers, answer = .ok ()
  right : ∀ o ∈ w.seen, allowed o.conf o.stimulus o.outcome

end

section
variable {ε N C S O : Type} {device : Nat → C → S → O} {allowed : C → S → O → Prop} {due : C → S → O → Option N}
  {w : World ε N C S O}

theorem reach_append (front back : List (Step ε N C S O)) (conf : C) :
    reach (front ++ back) conf = reach back (reach front conf) := by
  induction front generalizing conf with
  | nil => rfl
  | cons step front ih => cases step <;> exact ih _

theorem trace_append (front back : List (Step ε N C S O)) (conf : C) :
    trace (front ++ back) conf = trace front conf ++ trace back (reach front conf) := by
  induction front generalizing conf with
  | nil => rfl
  | cons step front ih =>
    cases step with
    | change _ apply => exact ih _
    | probe stimulus _ => exact congrArg _ (ih conf)

theorem sound_append {front back : List (Step ε N C S O)} {conf : C} :
    Sound allowed due (front ++ back) conf ↔ Sound allowed due front conf ∧ Sound allowed due back (reach front conf) := by
  induction front generalizing conf with
  | nil => exact (and_iff_right trivial).symm
  | cons step front ih =>
    cases step with
    | change _ apply => exact ih
    | probe stimulus judge =>
      change (_ ∧ Sound allowed due (front ++ back) conf) ↔ (_ ∧ Sound allowed due front conf) ∧ _
      rw [ih, and_assoc]
      rfl

theorem check_exact {judge : O → Except ε Unit} {conf : C} {stimulus : S}
    (exact : ∀ outcome, judge outcome = .ok () ↔ allowed conf stimulus outcome) (outcome : O) (warning : Option N) :
    (judge outcome).map (fun _ => none) = .ok warning ↔
      allowed conf stimulus outcome ∧ warning = silent conf stimulus outcome := by
  rw [← exact]
  cases judge outcome with
  | error e => exact iff_of_false (fun wrong => nomatch wrong) (fun wrong => nomatch wrong.1)
  | ok _ => exact ⟨fun same => ⟨rfl, (Except.ok.inj same).symm⟩, fun passed => congrArg Except.ok passed.2.symm⟩

theorem clean_start (conf : C) : (World.start conf : World ε N C S O).Clean allowed :=
  ⟨fun _ member => (nomatch member), fun _ member => (nomatch member)⟩

theorem World.clean_iff : w.Clean allowed ↔
    (∀ answer ∈ w.answers, answer = .ok ()) ∧ ∀ o ∈ w.seen, allowed o.conf o.stimulus o.outcome := by
  constructor
  · intro clean
    exact ⟨clean.accepted, clean.right⟩
  · rintro ⟨accepted, right⟩
    exact ⟨accepted, right⟩

def probed (w : World ε N C S O) : List (C × S) := w.seen.map (fun o => (o.conf, o.stimulus))

variable (due) in
def Warned (w : World ε N C S O) : Prop :=
  w.warnings = w.seen.filterMap (fun o => due o.conf o.stimulus o.outcome)

theorem change_wp (clean : w.Clean allowed) (warned : Warned due w) (answer : Nat → Except ε Unit) (apply : C → C) :
    ((Step.change answer apply : Step ε N C S O).run device).wp
      (fun _ after => (after.Clean allowed ∧ Warned due after) ∧ after.conf = apply w.conf ∧ probed after = probed w)
      (fun _ after => ¬after.Clean allowed) w := by
  unfold Step.run
  rw [wp_bind]
  change Script.wp (do ofExcept (answer w.moment); _) _ _ _
  rw [wp_bind, wp_ofExcept]
  cases reply : answer w.moment with
  | ok _ =>
    refine ⟨⟨⟨?_, clean.right⟩, warned⟩, rfl, rfl⟩
    intro other member
    rcases List.mem_append.mp member with old | last
    · exact clean.accepted other old
    · rw [List.mem_singleton.mp last]
  | error e =>
    intro after
    have wrong := after.accepted (.error e) (List.mem_append_right _ (List.mem_singleton.mpr rfl))
    cases wrong

theorem probe_wp (clean : w.Clean allowed) (warned : Warned due w) (stimulus : S) (judge : O → Except ε (Option N))
    (exact : ∀ outcome warning, judge outcome = .ok warning ↔
      allowed w.conf stimulus outcome ∧ warning = due w.conf stimulus outcome) :
    ((Step.probe stimulus judge : Step ε N C S O).run device).wp
      (fun _ after => (after.Clean allowed ∧ Warned due after) ∧ after.conf = w.conf ∧
        probed after = probed w ++ [(w.conf, stimulus)])
      (fun _ after => ¬after.Clean allowed) w := by
  have last : (⟨w.conf, stimulus, device w.moment w.conf stimulus⟩ : Observed C S O) ∈
      w.seen ++ [⟨w.conf, stimulus, device w.moment w.conf stimulus⟩] := by simp
  unfold Step.run
  rw [wp_bind]
  change Script.wp (do let warning ← ofExcept (judge (device w.moment w.conf stimulus)); _) _ _ _
  rw [wp_bind, wp_ofExcept]
  cases verdict : judge (device w.moment w.conf stimulus) with
  | ok warning =>
    obtain ⟨right, told⟩ := (exact _ _).mp verdict
    refine ⟨⟨⟨clean.accepted, ?_⟩, ?_⟩, rfl, by simp [probed]⟩
    · intro o member
      rcases List.mem_append.mp member with old | new
      · exact clean.right o old
      · rw [List.mem_singleton.mp new]
        exact right
    · change w.warnings ++ warning.toList = List.filterMap _ (w.seen ++ [_])
      rw [List.filterMap_append, ← warned, told]
      cases warns : due w.conf stimulus (device w.moment w.conf stimulus) <;> simp [warns]
  | error e =>
    intro after
    have passed := (exact _ _).mpr ⟨after.right _ last, rfl⟩
    rw [passed] at verdict
    cases verdict

theorem bind_ok_iff {α β : Type} {first : Except ε α} {next : α → Except ε β} {b : β} :
    (first >>= next) = .ok b ↔ ∃ a, first = .ok a ∧ next a = .ok b := by
  cases first with
  | error e => exact iff_of_false (fun wrong => nomatch wrong) (fun wrong => nomatch wrong.choose_spec.1)
  | ok a => exact ⟨fun passed => ⟨a, rfl, passed⟩, fun passed => Except.ok.inj passed.choose_spec.1 ▸ passed.choose_spec.2⟩

theorem seq_ok_iff {first second : Except ε Unit} :
    (do first; second) = .ok () ↔ first = .ok () ∧ second = .ok () := by
  rw [bind_ok_iff]
  exact ⟨fun passed => passed.choose_spec, fun passed => ⟨(), passed⟩⟩

theorem run_wp (plan : List (Step ε N C S O)) (sound : Sound allowed due plan w.conf) (clean : w.Clean allowed)
    (warned : Warned due w) :
    (run device plan).wp
      (fun _ after => (after.Clean allowed ∧ Warned due after) ∧ probed after = probed w ++ trace plan w.conf)
      (fun _ after => ¬after.Clean allowed) w := by
  induction plan generalizing w with
  | nil => exact ⟨⟨clean, warned⟩, by simp [trace]⟩
  | cons step plan ih =>
    cases step with
    | change answer apply =>
      refine wp_seq (change_wp clean warned answer apply) ?_ (fun _ _ stopped => stopped)
      rintro _ next ⟨⟨clean, warned⟩, conf, before⟩
      have rest := ih (by rw [conf]; exact sound) clean warned
      rw [conf, before] at rest
      exact rest
    | probe stimulus judge =>
      refine wp_seq (probe_wp clean warned stimulus judge sound.1) ?_ (fun _ _ stopped => stopped)
      rintro _ next ⟨⟨clean, warned⟩, conf, before⟩
      have rest := ih (by rw [conf]; exact sound.2) clean warned
      rw [conf, before, List.append_assoc] at rest
      exact rest

/-- Something can be answered so that the step succeeds. -/
def Step.Possible : Step ε N C S O → Prop
  | .change answer _ => ∃ moment, answer moment = .ok ()
  | .probe _ judge => ∃ outcome warning, judge outcome = .ok warning

theorem ofExcept_eq_ok {α : Type} {answer : Except ε α} {a : α} {s t : World ε N C S O}
    (run : (ofExcept answer : Script ε (World ε N C S O) α) s = (.ok a, t)) : answer = .ok a := by
  cases answer with
  | ok _ => cases run; rfl
  | error e => cases run

theorem possible_of_run {step : Step ε N C S O} {after : World ε N C S O} (run : step.run device w = (.ok (), after)) :
    step.Possible := by
  cases step with
  | change answer apply =>
    obtain ⟨reply, u, asked, rest⟩ := bind_eq_ok run
    obtain ⟨_, v, accepted, -⟩ := bind_eq_ok rest
    cases asked
    exact ⟨w.moment, ofExcept_eq_ok accepted⟩
  | probe stimulus judge =>
    obtain ⟨outcome, u, -, rest⟩ := bind_eq_ok run
    obtain ⟨warning, v, judged, -⟩ := bind_eq_ok rest
    exact ⟨outcome, warning, ofExcept_eq_ok judged⟩

theorem possible_of_passes {plan : List (Step ε N C S O)} (passed : (run device plan w).1 = .ok ()) :
    ∀ step ∈ plan, step.Possible := by
  induction plan generalizing w with
  | nil => exact fun _ member => (nomatch member)
  | cons step plan ih =>
    have ran : run device (step :: plan) w = (.ok (), (run device (step :: plan) w).2) := Prod.ext passed rfl
    obtain ⟨_, u, first, rest⟩ := bind_eq_ok ran
    intro other member
    rcases List.mem_cons.mp member with here | later
    · rw [here]
      exact possible_of_run first
    · exact ih (congrArg Prod.fst rest) other later

/-- A sound plan passes if and only if its record is clean; it has then made all its probes and given the
warnings that were due. -/
theorem passes_iff (device : Nat → C → S → O) (plan : List (Step ε N C S O)) (conf : C)
    (sound : Sound allowed due plan conf) :
    let ran := run device plan (.start conf)
    (ran.1 = .ok () ↔ ran.2.Clean allowed) ∧
      (ran.1 = .ok () → probed ran.2 = trace plan conf ∧ Warned due ran.2) := by
  intro ran
  have spec : (run device plan).wp _ _ (.start conf) := run_wp plan sound (clean_start conf) rfl
  unfold Script.wp at spec
  split at spec
  next result after finished =>
    rw [show ran = (.ok result, after) from finished]
    exact ⟨iff_of_true rfl spec.1.1, fun _ => ⟨spec.2, spec.1.2⟩⟩
  next e after stopped =>
    rw [show ran = (.error e, after) from stopped]
    exact ⟨iff_of_false (by simp) spec, fun wrong => by simp at wrong⟩

end
end NetDrv.Probe

import Mathlib.Logic.Relation
import Mathlib.Data.Nat.Find

/-! Loops whose end is not known in advance. A loop is given by its turn: from a
state it goes on to the next one or leaves with a result. Running it takes fuel;
that it ends, and with what, does not mention fuel. -/

namespace NetDrv

inductive Turn (σ α : Type) where
  | again (next : σ)
  | leave (result : α)

namespace Loop
variable {σ α : Type} (turn : σ → Turn σ α)

/-- The result, if the loop leaves within `fuel` turns. -/
def run : Nat → σ → Option α
  | 0, _ => none
  | fuel + 1, s =>
    match turn s with
    | .again next => run fuel next
    | .leave result => some result

inductive Ends : σ → α → Prop where
  | leave {s : σ} {a : α} (left : turn s = .leave a) : Ends s a
  | again {s t : σ} {a : α} (onward : turn s = .again t) (rest : Ends t a) : Ends s a

def Reach : σ → σ → Prop := Relation.ReflTransGen (fun s t => turn s = .again t)

variable {turn}

theorem ends_of_run {fuel : Nat} {s : σ} {a : α} (result : run turn fuel s = some a) : Ends turn s a := by
  induction fuel generalizing s with
  | zero => exact absurd result (by simp [run])
  | succ fuel ih =>
    cases move : turn s with
    | again t =>
      simp only [run, move] at result
      exact .again move (ih result)
    | leave b =>
      simp only [run, move, Option.some.injEq] at result
      exact .leave (result ▸ move)

theorem run_of_ends {s : σ} {a : α} (ends : Ends turn s a) :
    ∃ least, ∀ fuel, least ≤ fuel → run turn fuel s = some a := by
  induction ends with
  | leave left =>
    refine ⟨1, fun fuel enough => ?_⟩
    obtain ⟨less, rfl⟩ := Nat.exists_eq_add_of_le' enough
    simp only [run, left]
  | again onward _ ih =>
    obtain ⟨least, rest⟩ := ih
    refine ⟨least + 1, fun fuel enough => ?_⟩
    obtain ⟨less, rfl⟩ := Nat.exists_eq_add_of_le' (Nat.le_trans (Nat.le_add_left 1 least) enough)
    simp only [run, onward]
    exact rest less (Nat.le_of_succ_le_succ enough)

theorem Ends.unique {s : σ} {a b : α} (first : Ends turn s a) (second : Ends turn s b) : a = b := by
  obtain ⟨least, runs⟩ := run_of_ends first
  obtain ⟨least', runs'⟩ := run_of_ends second
  have same : some a = some b :=
    (runs (least + least') (Nat.le_add_right _ _)).symm.trans (runs' (least + least') (Nat.le_add_left _ _))
  exact Option.some.inj same

theorem ends_again_iff {s t : σ} {a : α} (onward : turn s = .again t) : Ends turn s a ↔ Ends turn t a := by
  constructor
  · intro ends
    cases ends with
    | leave left => exact absurd (onward.symm.trans left) (by simp)
    | again move rest =>
      have same : t = _ := Turn.again.inj (onward.symm.trans move)
      exact same ▸ rest
  · exact .again onward

section Rules
variable (inv : σ → Prop)

theorem reach_inv {s t : σ} (keeps : ∀ u v, inv u → turn u = .again v → inv v) (initial : inv s)
    (reach : Reach turn s t) : inv t := by
  induction reach with
  | refl => exact initial
  | tail _ move ih => exact keeps _ _ ih move

theorem ends_post {post : α → Prop} {s : σ} {a : α} (keeps : ∀ u v, inv u → turn u = .again v → inv v)
    (exits : ∀ u b, inv u → turn u = .leave b → post b) (initial : inv s) (ends : Ends turn s a) : post a := by
  induction ends with
  | leave left => exact exits _ _ initial left
  | again onward _ ih => exact ih (keeps _ _ initial onward)

theorem ends_of_measure (measure : σ → Nat) {s : σ} (keeps : ∀ u v, inv u → turn u = .again v → inv v)
    (decreases : ∀ u v, inv u → turn u = .again v → measure v < measure u) (initial : inv s) :
    ∃ a, Ends turn s a := by
  induction bound : measure s using Nat.strong_induction_on generalizing s with
  | _ n ih =>
    cases move : turn s with
    | leave a => exact ⟨a, .leave move⟩
    | again t =>
      have less : measure t < n := bound ▸ decreases s t initial move
      obtain ⟨a, rest⟩ := ih (measure t) less (keeps s t initial move) rfl
      exact ⟨a, .again move rest⟩

theorem not_ends {s : σ} {a : α} (trapped : ∀ u, inv u → ∃ v, turn u = .again v ∧ inv v) (initial : inv s) :
    ¬Ends turn s a := by
  intro ends
  induction ends with
  | leave left =>
    obtain ⟨v, move, _⟩ := trapped _ initial
    exact absurd (move.symm.trans left) (by simp)
  | again onward _ ih =>
    obtain ⟨v, move, within⟩ := trapped _ initial
    have same : v = _ := Turn.again.inj (move.symm.trans onward)
    exact ih (same ▸ within)

end Rules

/-- A measure that goes down on every turn from `s` on. -/
def Decreasing (turn : σ → Turn σ α) (s : σ) (measure : σ → Nat) : Prop :=
  ∀ t u, Reach turn s t → turn t = .again u → measure u < measure t

theorem ends_of_decreasing {s : σ} {measure : σ → Nat} (decreasing : Decreasing turn s measure) :
    ∃ a, Ends turn s a := by
  apply ends_of_measure (Reach turn s) measure
  · intro u v reach move
    exact Relation.ReflTransGen.tail reach move
  · exact decreasing
  · exact Relation.ReflTransGen.refl

theorem ends_reach {s t : σ} {a : α} (ends : Ends turn s a) (reach : Reach turn s t) : Ends turn t a := by
  induction reach with
  | refl => exact ends
  | tail _ move ih => exact (ends_again_iff move).mp ih

theorem decreasing_of_ends {s : σ} {a : α} (ends : Ends turn s a) : ∃ measure, Decreasing turn s measure := by
  classical
  have halts : ∀ t, Reach turn s t → ∃ fuel, run turn fuel t = some a := by
    intro t reach
    obtain ⟨least, runs⟩ := run_of_ends (ends_reach ends reach)
    exact ⟨least, runs least (Nat.le_refl _)⟩
  refine ⟨fun t => if halt : ∃ fuel, run turn fuel t = some a then Nat.find halt else 0, ?_⟩
  intro t u reach move
  have here := halts t reach
  have there := halts u (Relation.ReflTransGen.tail reach move)
  simp only [dif_pos here, dif_pos there]
  have found := Nat.find_spec here
  cases turns : Nat.find here with
  | zero =>
    rw [turns] at found
    exact absurd found (by simp [run])
  | succ fuel =>
    rw [turns] at found
    simp only [run, move] at found
    exact Nat.lt_succ_of_le (Nat.find_min' there found)

end Loop
end NetDrv

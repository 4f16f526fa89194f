import Mathlib.Data.Int.Interval
import Mathlib.Order.Interval.Finset.Nat
import Mathlib.Tactic.Linarith

/-! Time cut into slots of a fixed positive length. Events whose slot numbers
strictly increase are strictly ordered in time, never share a slot, and there are
no more of them than there are slots. -/

namespace NetDrv.Slots

/-- The number `k` of the slot `[k * width, (k + 1) * width)` a moment falls into. -/
def slot (width time : Int) : Int := time / width

/-- Each event falls into a later slot than all events before it. -/
def Paced (width : Int) (times : List Int) : Prop :=
  times.Pairwise (fun earlier later => slot width earlier < slot width later)

instance (width : Int) (times : List Int) : Decidable (Paced width times) :=
  inferInstanceAs (Decidable (times.Pairwise _))

theorem slot_eq_iff {width time k : Int} (positive : 0 < width) :
    slot width time = k ↔ k * width ≤ time ∧ time < (k + 1) * width := by
  constructor
  · rintro rfl
    exact ⟨Int.ediv_mul_le time (by omega), Int.lt_ediv_add_one_mul_self time positive⟩
  · rintro ⟨low, high⟩
    have lower : k ≤ slot width time := Int.le_ediv_of_mul_le positive low
    have upper : slot width time < k + 1 := Int.ediv_lt_of_lt_mul positive high
    omega

theorem slot_mono {width earlier later : Int} (positive : 0 < width) (ordered : earlier ≤ later) :
    slot width earlier ≤ slot width later :=
  Int.ediv_le_ediv positive ordered

theorem Paced.increasing {width : Int} {times : List Int} (positive : 0 < width)
    (paced : Paced width times) : times.Pairwise (· < ·) := by
  apply paced.imp
  intro earlier later ordered
  by_contra reversed
  have := slot_mono positive (not_lt.mp reversed)
  omega

theorem Paced.one_per_slot {width : Int} {times : List Int} (positive : 0 < width)
    (paced : Paced width times) (k : Int) :
    (times.filter (fun time => k * width ≤ time ∧ time < (k + 1) * width)).length ≤ 1 := by
  have kept := paced.filter (fun time => decide (k * width ≤ time ∧ time < (k + 1) * width))
  have inside : ∀ time ∈ times.filter (fun time => decide (k * width ≤ time ∧ time < (k + 1) * width)),
      slot width time = k := by
    intro time member
    have bounds := (List.mem_filter.mp member).2
    exact (slot_eq_iff positive).mpr (of_decide_eq_true bounds)
  match found : times.filter (fun time => decide (k * width ≤ time ∧ time < (k + 1) * width)) with
  | [] => simp
  | [_] => simp
  | first :: second :: rest =>
    rw [found] at kept inside
    have ordered := (List.pairwise_cons.mp kept).1 second (by simp)
    have here := inside first (by simp)
    have there := inside second (by simp)
    omega

theorem Paced.length_le {width : Int} {times : List Int} {last : Nat} (paced : Paced width times)
    (first : ∀ time ∈ times, 1 ≤ slot width time) (bound : ∀ time ∈ times, slot width time ≤ last) :
    times.length ≤ last := by
  have distinct : (times.map (slot width)).Nodup := by
    have ordered : (times.map (slot width)).Pairwise (· < ·) := List.pairwise_map.mpr paced
    exact ordered.imp (fun less => ne_of_lt less)
  have covered : (times.map (slot width)).toFinset ⊆ Finset.Icc (1 : Int) last := by
    intro s member
    obtain ⟨time, present, rfl⟩ := List.mem_map.mp (List.mem_toFinset.mp member)
    exact Finset.mem_Icc.mpr ⟨first time present, bound time present⟩
  have count := Finset.card_le_card covered
  rw [List.toFinset_card_of_nodup distinct, List.length_map, Int.card_Icc] at count
  omega

theorem Paced.concat {width : Int} {times : List Int} {time : Int} (paced : Paced width times)
    (later : ∀ earlier ∈ times, slot width earlier < slot width time) : Paced width (times ++ [time]) := by
  apply List.pairwise_append.mpr
  refine ⟨paced, List.pairwise_singleton _ _, ?_⟩
  intro earlier member last same
  rw [List.mem_singleton.mp same]
  exact later earlier member

end NetDrv.Slots

import Mathlib.Data.List.Basic
import Mathlib.Logic.Function.Basic

/-! A store whose values are written at once, or staged and applied together later.
A later entry for a key overrides an earlier one, so staging a whole set of keys anew
makes what was staged for them before irrelevant. -/

namespace NetDrv

structure Staged (κ ν : Type) where
  committed : κ → ν
  staged : List (κ × ν)

namespace Staged
variable {κ ν : Type}

def stage (store : Staged κ ν) (key : κ) (value : ν) : Staged κ ν :=
  { store with staged := store.staged ++ [(key, value)] }

/-- The staged entries a commit of these keys is about. -/
def chosen (store : Staged κ ν) (selects : κ → Bool) : List (κ × ν) :=
  store.staged.filter (fun entry => selects entry.1)

/-- Forget what a commit of these keys would apply. -/
def discard (store : Staged κ ν) (selects : κ → Bool) : Staged κ ν :=
  { store with staged := store.staged.filter (fun entry => !selects entry.1) }

theorem chosen_eq_staged {store : Staged κ ν} {selects : κ → Bool}
    (all : ∀ entry ∈ store.staged, selects entry.1 = true) : store.chosen selects = store.staged :=
  List.filter_eq_self.mpr all

section
variable [DecidableEq κ]

/-- The values after the entries were written in order. -/
def write (values : κ → ν) (entries : List (κ × ν)) : κ → ν :=
  entries.foldl (fun values entry => Function.update values entry.1 entry.2) values

def set (store : Staged κ ν) (key : κ) (value : ν) : Staged κ ν :=
  { store with committed := Function.update store.committed key value }

def commit (store : Staged κ ν) (selects : κ → Bool) : Staged κ ν :=
  { store.discard selects with committed := write store.committed (store.chosen selects) }

theorem write_append (values : κ → ν) (front back : List (κ × ν)) :
    write values (front ++ back) = write (write values front) back := List.foldl_append

theorem write_other {entries : List (κ × ν)} {key : κ} (other : ∀ entry ∈ entries, entry.1 ≠ key)
    (values : κ → ν) : write values entries key = values key := by
  induction entries generalizing values with
  | nil => rfl
  | cons entry entries ih =>
    show write (Function.update values entry.1 entry.2) entries key = values key
    rw [ih (fun later member => other later (List.mem_cons_of_mem _ member))]
    exact Function.update_of_ne (other entry (by simp)).symm _ _

theorem write_aimed {target : κ → ν} {entries : List (κ × ν)} (aimed : ∀ entry ∈ entries, entry.2 = target entry.1)
    {values : κ → ν} (covered : ∀ key, values key ≠ target key → ∃ entry ∈ entries, entry.1 = key) :
    write values entries = target := by
  induction entries generalizing values with
  | nil =>
    funext key
    by_contra missed
    obtain ⟨entry, member, -⟩ := covered key missed
    cases member
  | cons entry entries ih =>
    apply ih (fun later member => aimed later (List.mem_cons_of_mem _ member))
    intro key missed
    change Function.update values entry.1 entry.2 key ≠ target key at missed
    by_cases here : key = entry.1
    · rw [here, Function.update_self] at missed
      exact absurd (aimed entry (by simp)) missed
    · rw [Function.update_of_ne here] at missed
      obtain ⟨later, member, same⟩ := covered key missed
      rcases List.mem_cons.mp member with rfl | member
      · exact absurd same.symm here
      · exact ⟨later, member, same⟩

/-- Values that miss a target only at certain keys are put back to it by staging the target for
these keys, whatever was staged for them before. -/
theorem write_restore (target : κ → ν) {keys : List κ} {earlier : List (κ × ν)} {values : κ → ν}
    (confined : ∀ entry ∈ earlier, entry.1 ∈ keys) (same : ∀ key ∉ keys, values key = target key) :
    write values (earlier ++ keys.map (fun key => (key, target key))) = target := by
  rw [write_append]
  apply write_aimed
  · intro entry member
    obtain ⟨key, -, rfl⟩ := List.mem_map.mp member
    rfl
  · intro key missed
    by_contra outside
    have absent : key ∉ keys := fun present =>
      outside ⟨(key, target key), List.mem_map.mpr ⟨key, present, rfl⟩, rfl⟩
    apply missed
    rw [write_other, same key absent]
    intro entry staged here
    exact absent (here ▸ confined entry staged)

end
end Staged
end NetDrv

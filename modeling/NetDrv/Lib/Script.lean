import Mathlib.Data.List.Basic

/-! Scripts over a world they cannot roll back. A step may fail, the script then
stops, and whatever its earlier steps did to the world stays done. `wp` is the
weakest precondition of a script for a postcondition of its regular end and one of
its failure. -/

namespace NetDrv

def Script (ε σ α : Type) : Type := σ → Except ε α × σ

namespace Script
variable {ε σ α β : Type}

instance : Monad (Script ε σ) where
  pure a := fun s => (.ok a, s)
  bind x f := fun s =>
    match x s with
    | (.ok a, t) => f a t
    | (.error e, t) => (.error e, t)

theorem map_id_run (x : Script ε σ α) : id <$> x = x := by
  funext s
  simp only [Functor.map]
  rcases x s with ⟨result, t⟩
  cases result <;> rfl

theorem bind_assoc_run {γ : Type} (x : Script ε σ α) (f : α → Script ε σ β) (g : β → Script ε σ γ) :
    x >>= f >>= g = x >>= fun a => f a >>= g := by
  funext s
  simp only [bind]
  rcases x s with ⟨result, t⟩
  cases result <;> rfl

instance : LawfulMonad (Script ε σ) :=
  LawfulMonad.mk' _ map_id_run (fun _ _ => rfl) bind_assoc_run

theorem bind_ok {x : Script ε σ β} {f : β → Script ε σ α} {s t : σ} {b : β} (run : x s = (.ok b, t)) :
    (x >>= f) s = f b t := by
  simp only [bind, run]

theorem bind_error {x : Script ε σ β} {f : β → Script ε σ α} {s t : σ} {e : ε} (run : x s = (.error e, t)) :
    (x >>= f) s = (.error e, t) := by
  simp only [bind, run]

theorem bind_eq_ok {x : Script ε σ β} {f : β → Script ε σ α} {s t : σ} {a : α} (run : (x >>= f) s = (.ok a, t)) :
    ∃ b u, x s = (.ok b, u) ∧ f b u = (.ok a, t) := by
  cases first : x s with
  | mk result u =>
    cases result with
    | ok b =>
      rw [bind_ok first] at run
      exact ⟨b, u, rfl, run⟩
    | error e =>
      rw [bind_error first] at run
      exact absurd run (by simp)

def fail (e : ε) : Script ε σ α := fun s => (.error e, s)

def gets (read : σ → α) : Script ε σ α := fun s => (.ok (read s), s)

def update (change : σ → σ) : Script ε σ Unit := fun s => (.ok (), change s)

/-- Run `body` on every item in order. -/
def forEach : List α → (α → Script ε σ Unit) → Script ε σ Unit
  | [], _ => pure ()
  | item :: items, body => do
      body item
      forEach items body

/-- Run `test` on the items in order until it answers `true`. -/
def findFirst : List α → (α → Script ε σ Bool) → Script ε σ Bool
  | [], _ => pure false
  | item :: items, test => do
      if ← test item then pure true else findFirst items test

/-- Run `x` only if the condition holds. -/
def when (condition : Bool) (x : Script ε σ Unit) : Script ε σ Unit := if condition then x else pure ()

/-- Run `x` and go on whatever it returned. -/
def ignore (x : Script ε σ α) : Script ε σ Unit := fun s => (.ok (), (x s).2)

/-- Run `x` and hand out how it ended. -/
def attempt {ε' : Type} (x : Script ε' σ α) : Script ε σ (Except ε' α) := fun s => (.ok (x s).1, (x s).2)

def ofExcept : Except ε α → Script ε σ α
  | .ok a => pure a
  | .error e => fail e

/-- Run `x` on a part of the world. -/
def zoom {τ : Type} (part : σ → τ) (replace : τ → σ → σ) (x : Script ε τ α) : Script ε σ α :=
  fun s => ((x (part s)).1, replace (x (part s)).2 s)

theorem forEach_append (front back : List α) (body : α → Script ε σ Unit) :
    forEach (front ++ back) body = (do forEach front body; forEach back body) := by
  induction front with
  | nil => simp [forEach]
  | cons item front ih => simp only [List.cons_append, forEach, ih, bind_assoc]

theorem forEach_map (items : List β) (f : β → α) (body : α → Script ε σ Unit) :
    forEach (items.map f) body = forEach items (fun item => body (f item)) := by
  induction items with
  | nil => rfl
  | cons item items ih => simp only [List.map_cons, forEach, ih]

theorem forEach_flatMap (items : List β) (f : β → List α) (body : α → Script ε σ Unit) :
    forEach (items.flatMap f) body = forEach items (fun item => forEach (f item) body) := by
  induction items with
  | nil => rfl
  | cons item items ih => simp only [List.flatMap_cons, forEach_append, forEach, ih]

def wp (x : Script ε σ α) (done : α → σ → Prop) (failed : ε → σ → Prop) (s : σ) : Prop :=
  match x s with
  | (.ok a, t) => done a t
  | (.error e, t) => failed e t

section Rules
variable {done : α → σ → Prop} {failed : ε → σ → Prop} {s : σ}

@[simp] theorem wp_pure (a : α) : (pure a : Script ε σ α).wp done failed s ↔ done a s := Iff.rfl

theorem wp_gets (read : σ → α) : (gets read : Script ε σ α).wp done failed s ↔ done (read s) s := Iff.rfl

theorem wp_update {done : Unit → σ → Prop} (change : σ → σ) :
    (update change : Script ε σ Unit).wp done failed s ↔ done () (change s) := Iff.rfl

@[simp] theorem wp_fail (e : ε) : (fail e : Script ε σ α).wp done failed s ↔ failed e s := Iff.rfl

theorem wp_bind (x : Script ε σ β) (f : β → Script ε σ α) :
    (x >>= f).wp done failed s ↔ x.wp (fun b => (f b).wp done failed) failed s := by
  simp only [wp, bind]
  cases run : x s with
  | mk result t => cases result <;> simp

theorem wp_mono {x : Script ε σ α} {done' : α → σ → Prop} {failed' : ε → σ → Prop}
    (holds : x.wp done failed s) (regular : ∀ a t, done a t → done' a t)
    (failure : ∀ e t, failed e t → failed' e t) : x.wp done' failed' s := by
  unfold wp at *
  split at holds
  · exact regular _ _ holds
  · exact failure _ _ holds

theorem wp_weaken {x : Script ε σ α} {done' : α → σ → Prop} (holds : x.wp done failed s)
    (regular : ∀ a t, done a t → done' a t) : x.wp done' failed s :=
  wp_mono holds regular (fun _ _ failure => failure)

theorem wp_and {x : Script ε σ α} {done' : α → σ → Prop} {failed' : ε → σ → Prop} (left : x.wp done failed s)
    (right : x.wp done' failed' s) :
    x.wp (fun a t => done a t ∧ done' a t) (fun e t => failed e t ∧ failed' e t) s := by
  unfold wp at *
  split at left
  next run =>
    rw [run] at right
    exact ⟨left, right⟩
  next run =>
    rw [run] at right
    exact ⟨left, right⟩

theorem wp_seq {x : Script ε σ β} {f : β → Script ε σ α} {middle : β → σ → Prop} {early : ε → σ → Prop}
    (first : x.wp middle early s) (rest : ∀ b t, middle b t → (f b).wp done failed t)
    (failure : ∀ e t, early e t → failed e t) : (x >>= f).wp done failed s :=
  (wp_bind x f).mpr (wp_mono first rest failure)

theorem wp_ok {x : Script ε σ α} {a : α} {t : σ} (holds : x.wp done failed s) (run : x s = (.ok a, t)) :
    done a t := by
  simpa only [wp, run] using holds

theorem wp_error {x : Script ε σ α} {e : ε} {t : σ} (holds : x.wp done failed s) (run : x s = (.error e, t)) :
    failed e t := by
  simpa only [wp, run] using holds

theorem wp_final {x : Script ε σ α} (post : σ → Prop) (holds : x.wp done failed s)
    (regular : ∀ a t, done a t → post t) (failure : ∀ e t, failed e t → post t) : post (x s).2 := by
  unfold wp at holds
  split at holds
  next run => simpa only [run] using regular _ _ holds
  next run => simpa only [run] using failure _ _ holds

theorem wp_attempt {ε' : Type} (x : Script ε' σ α) {done : Except ε' α → σ → Prop} :
    (attempt x).wp done failed s ↔ x.wp (fun a => done (.ok a)) (fun e => done (.error e)) s := by
  simp only [wp, attempt]
  cases x s with
  | mk result t => cases result <;> rfl

theorem wp_attempt_any {ε' : Type} {x : Script ε' σ α} {done : Except ε' α → σ → Prop}
    (any : ∀ result t, done result t) :
    (attempt x).wp done failed s := by
  refine (wp_attempt x).mpr ?_
  unfold wp
  split
  · exact any _ _
  · exact any _ _

theorem wp_ofExcept (answer : Except ε α) :
    (ofExcept answer).wp done failed s ↔
      match answer with
      | .ok a => done a s
      | .error e => failed e s := by
  cases answer <;> rfl

theorem wp_ofExcept_any {answer : Except ε α} (regular : ∀ a, done a s) (failure : ∀ e, failed e s) :
    (ofExcept answer).wp done failed s := by
  cases answer with
  | ok a => exact regular a
  | error e => exact failure e

theorem wp_zoom {τ : Type} {part : σ → τ} {replace : τ → σ → σ} (x : Script ε τ α) :
    (zoom part replace x).wp done failed s ↔
      x.wp (fun a t => done a (replace t s)) (fun e t => failed e (replace t s)) (part s) := by
  simp only [wp, zoom]
  cases x (part s) with
  | mk result t => cases result <;> rfl

theorem wp_when {x : Script ε σ Unit} {done : Unit → σ → Prop} {condition : Bool}
    (taken : condition = true → x.wp done failed s) (skipped : condition = false → done () s) :
    (when condition x).wp done failed s := by
  cases condition with
  | true => exact taken rfl
  | false => exact skipped rfl

theorem wp_forEach {body : α → Script ε σ Unit} {failed : ε → σ → Prop} (inv : List α → σ → Prop)
    (items : List α)
    (step : ∀ before item after t, items = before ++ item :: after → inv before t →
      (body item).wp (fun _ => inv (before ++ [item])) failed t)
    (initial : inv [] s) : (forEach items body).wp (fun _ => inv items) failed s := by
  suffices general : ∀ (after before : List α) (t : σ), items = before ++ after → inv before t →
      (forEach after body).wp (fun _ => inv items) failed t from general items [] s rfl initial
  intro after
  induction after with
  | nil =>
    intro before t whole here
    rw [List.append_nil] at whole
    exact whole ▸ here
  | cons item after ih =>
    intro before t whole here
    apply wp_seq (step before item after t whole here) _ (fun _ _ failure => failure)
    intro _ u next
    exact ih (before ++ [item]) u (by simp [whole]) next

theorem range_split {n item : Nat} {before after : List Nat} (whole : List.range n = before ++ item :: after) :
    item = before.length ∧ item < n := by
  have here : (List.range n)[before.length]? = some item := by
    rw [whole]
    simp
  obtain ⟨bound, value⟩ := List.getElem?_eq_some_iff.mp here
  rw [List.getElem_range] at value
  rw [List.length_range] at bound
  exact ⟨value.symm, by omega⟩

theorem wp_forRange {body : Nat → Script ε σ Unit} {failed : ε → σ → Prop} (inv : Nat → σ → Prop) (n : Nat)
    (step : ∀ i < n, ∀ t, inv i t → (body i).wp (fun _ => inv (i + 1)) failed t) (initial : inv 0 s) :
    (forEach (List.range n) body).wp (fun _ => inv n) failed s := by
  have loop : (forEach (List.range n) body).wp (fun _ => inv (List.range n).length) failed s := by
    refine wp_forEach (fun before => inv before.length) (List.range n) ?_ initial
    intro before item after t whole here
    obtain ⟨rfl, below⟩ := range_split whole
    rw [List.length_append, List.length_singleton]
    exact step before.length below t here
  rwa [List.length_range] at loop

/-- The rule of a search: `inv before` holds after the items of `before` were tested in vain, and `hit item`
once `item` was taken. -/
theorem wp_search {test : α → Script ε σ Bool} {failed : ε → σ → Prop} (inv : List α → σ → Prop)
    (hit : α → σ → Prop) (items : List α)
    (step : ∀ before item after t, items = before ++ item :: after → inv before t →
      (test item).wp (fun found u => if found then hit item u else inv (before ++ [item]) u) failed t)
    (initial : inv [] s) :
    (findFirst items test).wp (fun found u => if found then ∃ item ∈ items, hit item u else inv items u)
      failed s := by
  suffices general : ∀ (after before : List α) (t : σ), items = before ++ after → inv before t →
      (findFirst after test).wp (fun found u => if found then ∃ item ∈ items, hit item u else inv items u)
        failed t from general items [] s rfl initial
  intro after
  induction after with
  | nil =>
    intro before t whole here
    rw [List.append_nil] at whole
    simpa [findFirst, whole] using here
  | cons item after ih =>
    intro before t whole here
    apply wp_seq (step before item after t whole here) _ (fun _ _ failure => failure)
    intro found u tested
    cases found with
    | true => exact ⟨item, by simp [whole], tested⟩
    | false => exact ih (before ++ [item]) u (by simp [whole]) tested

theorem wp_findFirst {test : α → Script ε σ Bool} {failed : ε → σ → Prop} (inv : σ → Prop)
    (hit : α → Prop) (items : List α)
    (step : ∀ item ∈ items, ∀ t, inv t →
      (test item).wp (fun found u => inv u ∧ (found = true ↔ hit item)) failed t)
    (initial : inv s) :
    (findFirst items test).wp (fun found u => inv u ∧ (found = true ↔ ∃ item ∈ items, hit item))
      failed s := by
  refine wp_weaken (wp_search (fun before u => inv u ∧ ∀ item ∈ before, ¬hit item)
    (fun item u => inv u ∧ hit item) items ?_ ⟨initial, by simp⟩) ?_
  · rintro before item after t rfl ⟨here, missed⟩
    apply wp_weaken (step item (by simp) t here)
    rintro (_ | _) u ⟨there, tested⟩
    · refine ⟨there, fun other member => ?_⟩
      rcases List.mem_append.mp member with early | last
      · exact missed other early
      · rw [List.mem_singleton.mp last, ← tested]
        exact Bool.false_ne_true
    · exact ⟨there, tested.mp rfl⟩
  · rintro (_ | _) u result
    · obtain ⟨there, missed⟩ := result
      refine ⟨there, ⟨fun found => Bool.noConfusion found, ?_⟩⟩
      intro ⟨item, member, holds⟩
      exact absurd holds (missed item member)
    · obtain ⟨item, member, there, holds⟩ := result
      exact ⟨there, fun _ => ⟨item, member, holds⟩, fun _ => rfl⟩

end Rules

/-- An invariant a script keeps whether it fails or not. -/
def Keeps (inv : σ → Prop) (x : Script ε σ α) : Prop := ∀ s, inv s → inv (x s).2

section Invariants
variable {inv : σ → Prop}

theorem keeps_iff_wp {x : Script ε σ α} :
    x.Keeps inv ↔ ∀ s, inv s → x.wp (fun _ => inv) (fun _ => inv) s := by
  constructor
  · intro keeps s holds
    have after := keeps s holds
    unfold wp
    split <;> simp_all
  · intro keeps s holds
    exact wp_final inv (keeps s holds) (fun _ _ after => after) (fun _ _ after => after)

theorem wp_keeping {x : Script ε σ α} {done : α → σ → Prop} {failed : ε → σ → Prop} {s : σ}
    (spec : x.wp done failed s) (keeps : x.Keeps inv) (holds : inv s) :
    x.wp (fun a t => done a t ∧ inv t) failed s :=
  wp_mono (wp_and spec (keeps_iff_wp.mp keeps s holds)) (fun _ _ both => both) (fun _ _ both => both.1)

theorem keeps_pure (a : α) : (pure a : Script ε σ α).Keeps inv := fun _ holds => holds

theorem keeps_bind {x : Script ε σ β} {f : β → Script ε σ α} (first : x.Keeps inv)
    (rest : ∀ b, (f b).Keeps inv) : (x >>= f).Keeps inv := by
  refine keeps_iff_wp.mpr (fun s holds => ?_)
  exact wp_seq (keeps_iff_wp.mp first s holds) (fun b t here => keeps_iff_wp.mp (rest b) t here)
    (fun _ _ failure => failure)

theorem keeps_forEach {body : α → Script ε σ Unit} {items : List α}
    (each : ∀ item ∈ items, (body item).Keeps inv) : (forEach items body).Keeps inv := by
  induction items with
  | nil => exact keeps_pure ()
  | cons item items ih =>
    exact keeps_bind (each item (by simp))
      (fun _ => ih (fun other member => each other (List.mem_cons_of_mem _ member)))

theorem keeps_findFirst {test : α → Script ε σ Bool} {items : List α}
    (each : ∀ item ∈ items, (test item).Keeps inv) : (findFirst items test).Keeps inv := by
  induction items with
  | nil => exact keeps_pure false
  | cons item items ih =>
    refine keeps_bind (each item (by simp)) (fun found => ?_)
    cases found with
    | true => exact keeps_pure true
    | false => exact ih (fun other member => each other (List.mem_cons_of_mem _ member))

theorem keeps_when {condition : Bool} {x : Script ε σ Unit} (keeps : x.Keeps inv) : (when condition x).Keeps inv := by
  cases condition with
  | true => exact keeps
  | false => exact keeps_pure ()

theorem keeps_when_fail (condition : Bool) (e : ε) : (when condition (fail e) : Script ε σ Unit).Keeps inv :=
  keeps_when (fun _ holds => holds)

theorem keeps_ofExcept (answer : Except ε α) : (ofExcept answer : Script ε σ α).Keeps inv := by
  intro s holds
  cases answer <;> exact holds

end Invariants

/-- `x` runs as `y` does, or it ends in `bad`, which it never leaves. -/
structure Follows (bad : σ → Prop) (x y : Script ε σ α) : Prop where
  stays : x.Keeps bad
  same : ∀ s, ¬bad (x s).2 → x s = y s

section Following
variable {bad : σ → Prop}

theorem Keeps.follows {x : Script ε σ α} (stays : x.Keeps bad) : x.Follows bad x := ⟨stays, fun _ _ => rfl⟩

theorem Follows.bind {x y : Script ε σ β} {f g : β → Script ε σ α} (first : x.Follows bad y)
    (rest : ∀ b, (f b).Follows bad (g b)) : (x >>= f).Follows bad (y >>= g) where
  stays := keeps_bind first.stays (fun b => (rest b).stays)
  same s good := by
    rcases run : x s with ⟨e | b, t⟩
    · rw [bind_error run] at good ⊢
      have whole : x s = y s := first.same s (by rwa [run])
      rw [bind_error (whole ▸ run)]
    · rw [bind_ok run] at good ⊢
      -- what is bad after the first script is bad at the end
      have early : ¬bad t := fun spoilt => good ((rest b).stays t spoilt)
      have whole : x s = y s := first.same s (by rwa [run])
      rw [bind_ok (whole ▸ run)]
      exact (rest b).same t good

theorem follows_reached {x : Script ε σ β} {f g : β → Script ε σ α} (stays : x.Keeps bad)
    (rest : ∀ b, (f b).Keeps bad) (reached : ∀ s b t, x s = (.ok b, t) → ¬bad t → f b = g b) :
    (x >>= f).Follows bad (x >>= g) where
  stays := keeps_bind stays rest
  same s good := by
    rcases run : x s with ⟨e | b, t⟩
    · rw [bind_error run, bind_error run]
    · rw [bind_ok run] at good
      rw [bind_ok run, bind_ok run, reached s b t run (fun spoilt => good (rest b t spoilt))]

theorem Follows.attempt {ε' : Type} {x y : Script ε' σ α} (follows : x.Follows bad y) :
    (attempt x : Script ε σ _).Follows bad (attempt y) where
  stays := follows.stays
  same s good := by
    have whole := follows.same s good
    simp only [Script.attempt, whole]

theorem Follows.ignore {x y : Script ε σ α} (follows : x.Follows bad y) : (ignore x).Follows bad (ignore y) where
  stays := follows.stays
  same s good := by
    have whole := follows.same s good
    simp only [Script.ignore, whole]

theorem Follows.when {x y : Script ε σ Unit} (follows : x.Follows bad y) (condition : Bool) :
    (when condition x).Follows bad (when condition y) := by
  cases condition with
  | true => exact follows
  | false => exact (keeps_pure ()).follows

theorem follows_forEach {body body' : α → Script ε σ Unit} (each : ∀ item, (body item).Follows bad (body' item))
    (items : List α) : (forEach items body).Follows bad (forEach items body') := by
  induction items with
  | nil => exact (keeps_pure ()).follows
  | cons item items ih => exact (each item).bind (fun _ => ih)

/-- A specification of the script that is followed holds of every run that does not end in `bad`. -/
theorem Follows.wp {x y : Script ε σ α} {done : α → σ → Prop} {failed : ε → σ → Prop} {s : σ}
    (follows : x.Follows bad y) (spec : ¬bad s → y.wp done failed s) :
    x.wp (fun a t => ¬bad t → done a t) (fun e t => ¬bad t → failed e t) s := by
  by_cases spoilt : bad s
  · exact wp_mono (keeps_iff_wp.mp follows.stays s spoilt) (fun _ _ still good => absurd still good)
      (fun _ _ still good => absurd still good)
  · have specified := spec spoilt
    have same := follows.same s
    unfold Script.wp at *
    split
    next run =>
      intro good
      rw [← same (by rwa [run]), run] at specified
      exact specified
    next run =>
      intro good
      rw [← same (by rwa [run]), run] at specified
      exact specified

end Following

theorem bind_unchanged_iff {x : Script ε σ β} {f : β → Script ε σ α} {s : σ} {a : α}
    (never : ∀ b, (f b).Keeps (fun t => t ≠ s)) :
    (x >>= f) s = (.ok a, s) ↔ ∃ b, x s = (.ok b, s) ∧ f b s = (.ok a, s) := by
  constructor
  · intro run
    obtain ⟨b, t, first, rest⟩ := bind_eq_ok run
    by_cases same : t = s
    · subst same
      exact ⟨b, first, rest⟩
    · have left := never b t same
      rw [rest] at left
      exact absurd rfl left
  · rintro ⟨b, first, rest⟩
    rw [bind_ok first]
    exact rest

theorem seq_unchanged_iff {x : Script ε σ Unit} {y : Script ε σ α} {s : σ} {a : α} (never : y.Keeps (fun t => t ≠ s)) :
    (do x; y) s = (.ok a, s) ↔ x s = (.ok (), s) ∧ y s = (.ok a, s) := by
  rw [bind_unchanged_iff (fun _ => never)]
  exact ⟨fun ⟨_, both⟩ => both, fun both => ⟨(), both⟩⟩

section Counted
variable {body : Nat → Script ε σ Unit} {s u : σ} {e : ε} {n : Nat}

theorem forRange_succ (body : Nat → Script ε σ Unit) (n : Nat) :
    forEach (List.range (n + 1)) body = (do forEach (List.range n) body; body n) := by
  rw [List.range_succ, forEach_append]
  simp only [forEach, bind_pure_unit]

theorem forRange_error_iff :
    forEach (List.range n) body s = (.error e, u) ↔
      ∃ i < n, ∃ t, forEach (List.range i) body s = (.ok (), t) ∧ body i t = (.error e, u) := by
  induction n with
  | zero => simp [forEach, pure]
  | succ n ih =>
    rw [forRange_succ]
    cases run : forEach (List.range n) body s with
    | mk result t =>
      cases result with
      | ok _ =>
        rw [bind_ok run]
        constructor
        · exact fun failed => ⟨n, by omega, t, run, failed⟩
        · intro ⟨i, below, before, early, failed⟩
          rcases Nat.lt_succ_iff_lt_or_eq.mp below with less | rfl
          · have stopped := ih.mpr ⟨i, less, before, early, failed⟩
            exact absurd (run.symm.trans stopped) (by simp)
          · obtain rfl : t = before := (Prod.mk.inj (run.symm.trans early)).2
            exact failed
      | error e' =>
        rw [bind_error run]
        constructor
        · intro same
          rw [same] at run
          obtain ⟨i, below, before, early, failed⟩ := ih.mp run
          exact ⟨i, by omega, before, early, failed⟩
        · intro ⟨i, below, before, early, failed⟩
          rcases Nat.lt_succ_iff_lt_or_eq.mp below with less | rfl
          · exact run.symm.trans (ih.mpr ⟨i, less, before, early, failed⟩)
          · exact absurd (run.symm.trans early) (by simp)

end Counted

/-- A script that ends regularly exactly if `holds`, and then with `done`. -/
def Decides (x : Script ε σ α) (holds : Prop) (done : α → σ → Prop) (s : σ) : Prop :=
  x.wp (fun a t => holds ∧ done a t) (fun _ _ => ¬holds) s

section Decisions
variable {first second : Prop} {s : σ}

theorem Decides.seq {x : Script ε σ β} {f : β → Script ε σ α} {middle : β → σ → Prop} {done : α → σ → Prop}
    (before : x.Decides first middle s) (after : ∀ b t, middle b t → (f b).Decides second done t) :
    (x >>= f).Decides (first ∧ second) done s := by
  refine wp_seq before ?_ (fun _ _ missed both => missed both.1)
  intro b t ⟨here, reached⟩
  apply wp_mono (after b t reached)
  · exact fun _ _ ⟨there, finished⟩ => ⟨⟨here, there⟩, finished⟩
  · exact fun _ _ missed both => missed both.2

theorem decides_after {x : Script ε σ β} {f : β → Script ε σ α} {middle : β → σ → Prop} {done : α → σ → Prop}
    (before : x.wp middle (fun _ _ => False) s) (after : ∀ b t, middle b t → (f b).Decides first done t) :
    (x >>= f).Decides first done s :=
  wp_seq before after (fun _ _ never => never.elim)

theorem Decides.keeping {x : Script ε σ α} {done : α → σ → Prop} {inv : σ → Prop} (decides : x.Decides first done s)
    (keeps : x.Keeps inv) (holds : inv s) : x.Decides first (fun a t => done a t ∧ inv t) s :=
  wp_weaken (wp_keeping decides keeps holds) (fun _ _ ⟨⟨here, finished⟩, kept⟩ => ⟨here, finished, kept⟩)

theorem Decides.congr {x : Script ε σ α} {done : α → σ → Prop} (decides : x.Decides first done s)
    (same : first ↔ second) : x.Decides second done s := by
  rwa [propext same] at decides

theorem decides_when {x : Script ε σ Unit} {done : Unit → σ → Prop} {condition : Bool}
    (taken : condition = true → x.Decides first done s) (skipped : condition = false → done () s) :
    (when condition x).Decides (condition = true → first) done s := by
  cases condition with
  | true => exact (taken rfl).congr ⟨fun here _ => here, fun here => here rfl⟩
  | false => exact ⟨fun wrong => Bool.noConfusion wrong, skipped rfl⟩

theorem decides_when_fail {done : Unit → σ → Prop} (condition : Bool) (e : ε) (finished : done () s) :
    (when condition (fail e)).Decides (condition = false) done s := by
  cases condition with
  | true => exact fun wrong => Bool.noConfusion wrong
  | false => exact ⟨rfl, finished⟩

theorem Decides.ok_iff {x : Script ε σ Unit} {done : Unit → σ → Prop} (decides : x.Decides first done s) :
    ((x s).1 = .ok () ↔ first) ∧ ((x s).1 = .ok () → done () (x s).2) := by
  unfold Decides wp at decides
  split at decides
  next run =>
    rw [run]
    exact ⟨iff_of_true rfl decides.1, fun _ => decides.2⟩
  next run =>
    rw [run]
    exact ⟨iff_of_false (by simp) decides, fun wrong => absurd wrong (by simp)⟩

end Decisions

/-- A script that only checks something: it passes, and changes nothing, exactly if `holds`. -/
structure Guards (x : Script ε σ Unit) (holds : Prop) : Prop where
  pass : holds → ∀ s, x s = (.ok (), s)
  stop : ¬holds → ∀ s, ∃ e t, x s = (.error e, t)

section Checks
variable {x y : Script ε σ Unit} {first second : Prop}

theorem guards_pure : Guards (pure () : Script ε σ Unit) True := ⟨fun _ _ => rfl, fun wrong => absurd trivial wrong⟩

theorem guards_when_fail (condition : Bool) (e : ε) :
    Guards (when condition (fail e) : Script ε σ Unit) (condition = false) := by
  cases condition with
  | false => exact ⟨fun _ _ => rfl, fun wrong => absurd rfl wrong⟩
  | true => exact ⟨fun wrong => Bool.noConfusion wrong, fun _ s => ⟨e, s, rfl⟩⟩

theorem Guards.seq (before : x.Guards first) (after : y.Guards second) :
    Guards (do x; y) (first ∧ second) where
  pass holds s := by
    rw [bind_ok (before.pass holds.1 s)]
    exact after.pass holds.2 s
  stop missed s := by
    by_cases here : first
    · rw [bind_ok (before.pass here s)]
      exact after.stop (fun there => missed ⟨here, there⟩) s
    · obtain ⟨e, t, run⟩ := before.stop here s
      exact ⟨e, t, bind_error run⟩

theorem Guards.congr (guards : x.Guards first) (same : first ↔ second) : x.Guards second where
  pass holds := guards.pass (same.mpr holds)
  stop missed := guards.stop (fun holds => missed (same.mp holds))

theorem Guards.ok_iff (guards : x.Guards first) (s : σ) : (x s).1 = .ok () ↔ first := by
  constructor
  · intro passed
    by_contra missed
    obtain ⟨e, t, run⟩ := guards.stop missed s
    rw [run] at passed
    exact absurd passed (by simp)
  · intro holds
    rw [guards.pass holds s]

end Checks
end Script
end NetDrv

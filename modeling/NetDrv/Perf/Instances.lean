import Mathlib.Algebra.Group.Nat.Defs
import NetDrv.Lib.Script
import NetDrv.Te

/-! The arrays of `perf/tcp_udp_perf`. The test runs `n_perf_insts` pairs of a server and a
client on each link and keeps them, their ports and their reports in arrays of a fixed
size, indexed from zero to the product of the two numbers. The product is a 32-bit
number; it bounds the loops of the test and the loop of its cleanup, which is also run
when the product was found to be too large. -/

namespace NetDrv.Perf.Instances
open Script

def maxPerfInsts : Nat := 32

def testMaxLinks : Nat := 4

/-- The arrays of `MAX_PERF_INSTS` items. -/
inductive Slots where
  | serverPorts
  | perfServers
  | perfClients
  | perfServersReport
  | perfClientsReport
  deriving DecidableEq, Repr

/-- A use of an array; `link` is that of an array with an item for each link. -/
inductive Access where
  | slot (array : Slots) (i : Nat)
  | link (i : Nat)
  deriving DecidableEq, Repr

/-- Calls that the test does not go on after if they fail, by the place they are made from. -/
inductive Call where
  | params
  | clientIf (i : Nat)
  | serverAddr (i : Nat)
  | clientAddr (i : Nat)
  | allocatePort (i : Nat)
  | configureIut (i : Nat)
  | configureLink (i : Nat)
  | allocatePortRange
  | serverFactory
  | clientFactory
  | serverCpuGrab (i : Nat)
  | serverExecParam (i : Nat)
  | serverStart (i : Nat)
  | clientCpuGrab (i : Nat)
  | clientExecParam (i : Nat)
  | statsGather
  | clientStart (i : Nat)
  | clientWait (i : Nat)
  | serverReport (i : Nat)
  | clientReport (i : Nat)
  | serverMiLog (i : Nat)
  | clientMiLog (i : Nat)
  deriving DecidableEq, Repr

structure Env where
  nPerfInsts : BitVec 32
  /-- The number of `server_if` interfaces in the environment. -/
  links : Nat
  fits : links ≤ testMaxLinks
  nIutPorts : Nat
  /-- Why the test stops after a call, if it does. -/
  stops : Call → Option Jump

structure World where
  nPorts : BitVec 32
  trace : List Access
  /-- The links that servers and clients were created for. -/
  serverLinks : List Nat
  clientLinks : List Nat
  /-- All servers and clients were created. -/
  created : Bool
  deriving DecidableEq, Repr

def World.start : World := ⟨0, [], [], [], false⟩

abbrev Test := Script Jump World

def access (use : Access) : Test Unit := update (fun w => { w with trace := w.trace ++ [use] })

section
variable (env : Env)

def check (call : Call) : Test Unit :=
  match env.stops call with
  | none => pure ()
  | some jump => fail jump

/-- `n_perf_insts * n_ports` -/
def total (nPorts : BitVec 32) : Nat := (env.nPerfInsts * nPorts).toNat

/-- The link of an instance, `i / n_perf_insts`. -/
def linkOf (i : Nat) : Nat := i / env.nPerfInsts.toNat

def initPerfInsts : Test Unit :=
  forEach (List.range maxPerfInsts) (fun i => do
    access (.slot .perfServers i)
    access (.slot .perfClients i))

def destroyPerfInsts (n : Nat) : Test Unit :=
  forEach (List.range n) (fun i => do
    access (.slot .perfServers i)
    access (.slot .perfClients i))

def countPort (i : Nat) : Test Unit := do
  check env (.clientIf i)
  check env (.serverAddr i)
  check env (.clientAddr i)
  check env (.allocatePort i)
  update (fun w => { w with nPorts := w.nPorts + 1 })

def countPorts : Test Unit := forEach (List.range env.links) (countPort env)

def checkCapacity : Test Unit := do
  let nPorts ← gets World.nPorts
  when (env.nIutPorts < nPorts.toNat)
    (fail (.fail "Number of IUT interfaces is less than client/server interfaces pairs."))
  when (¬total env nPorts < maxPerfInsts) (fail (.checkRc TeError.einval))

/-- The interfaces are set up, and a port is allocated for each server. -/
def configure : Test Unit := do
  forEach (List.range env.nIutPorts) (fun i => check env (.configureIut i))
  let nPorts ← gets World.nPorts
  forEach (List.range nPorts.toNat) (fun i => check env (.configureLink i))
  forEach (List.range (total env nPorts)) (fun i => access (.slot .serverPorts i))
  check env .allocatePortRange
  check env .serverFactory
  check env .clientFactory

def createInstance (i : Nat) : Test Unit := do
  access (.link (linkOf env i))
  check env (.serverCpuGrab i)
  access (.slot .serverPorts i)
  access (.slot .perfServers i)
  update (fun w => { w with serverLinks := w.serverLinks ++ [linkOf env i] })
  check env (.serverExecParam i)
  check env (.serverStart i)
  check env (.clientCpuGrab i)
  access (.slot .perfClients i)
  update (fun w => { w with clientLinks := w.clientLinks ++ [linkOf env i] })
  check env (.clientExecParam i)

def createInstances : Test Unit := do
  let nPorts ← gets World.nPorts
  forEach (List.range (total env nPorts)) (createInstance env)
  update (fun w => { w with created := true })

def runClients : Test Unit := do
  check env .statsGather
  let nPorts ← gets World.nPorts
  forEach (List.range (total env nPorts)) (fun i => do
    access (.slot .perfClients i)
    check env (.clientStart i))
  forEach (List.range (total env nPorts)) (fun i => do
    access (.slot .perfClients i)
    check env (.clientWait i))

def getReports (i : Nat) : Test Unit := do
  access (.slot .perfServers i)
  access (.slot .perfServersReport i)
  check env (.serverReport i)
  access (.slot .perfClients i)
  access (.slot .perfClientsReport i)
  check env (.clientReport i)
  check env (.serverMiLog i)
  check env (.clientMiLog i)
  access (.link (linkOf env i))

def readReports : Test Unit := do
  let nPorts ← gets World.nPorts
  forEach (List.range (total env nPorts)) (getReports env)

def body : Test Unit := do
  check env .params
  countPorts env
  checkCapacity env
  configure env
  createInstances env
  runClients env
  readReports env

def cleanup : Test Unit := do
  let nPorts ← gets World.nPorts
  destroyPerfInsts (total env nPorts)

def main : World :=
  let test : Test Unit := do
    initPerfInsts
    let _ ← attempt (body env)
    cleanup env
  (test World.start).2

end

/-- Every index into the arrays is below their size, and every link is one of those there are. -/
def Inside (w : World) : Prop :=
  (∀ array i, Access.slot array i ∈ w.trace → i < maxPerfInsts) ∧ ∀ l, Access.link l ∈ w.trace → l < w.nPorts.toNat

/-- Once all instances were created, each link has as many as it should. -/
def Shared (env : Env) (w : World) : Prop :=
  w.created = true → ∀ l < w.nPorts.toNat,
    w.serverLinks.count l = env.nPerfInsts.toNat ∧ w.clientLinks.count l = env.nPerfInsts.toNat

/-- The links of the instances in the order of their indices, for a number of links. -/
def plan (env : Env) (k : Nat) : List Nat := (List.range (env.nPerfInsts.toNat * k)).map (linkOf env)

theorem count_plan (env : Env) {k l : Nat} (there : l < k) : (plan env k).count l = env.nPerfInsts.toNat := by
  rw [plan]
  rcases Nat.eq_zero_or_pos env.nPerfInsts.toNat with none | some
  · simp [none]
  · induction k with
    | zero => cases there
    | succ k ih =>
      -- the instances of the last link come last
      have last : (List.range env.nPerfInsts.toNat).map (fun j => linkOf env (env.nPerfInsts.toNat * k + j)) =
          List.replicate env.nPerfInsts.toNat k := by
        rw [List.eq_replicate_iff]
        refine ⟨by simp, ?_⟩
        intro link mem
        obtain ⟨j, inRange, rfl⟩ := List.mem_map.1 mem
        rw [linkOf, Nat.mul_add_div some, Nat.div_eq_of_lt (List.mem_range.1 inRange), Nat.add_zero]
      rw [Nat.mul_succ, List.range_add, List.map_append, List.map_map, List.count_append]
      change _ + ((List.range env.nPerfInsts.toNat).map (fun j => linkOf env (env.nPerfInsts.toNat * k + j))).count l = _
      rw [last, List.count_replicate]
      by_cases final : l = k
      · have absent : l ∉ (List.range (env.nPerfInsts.toNat * k)).map (linkOf env) := by
          intro mem
          obtain ⟨i, inRange, here⟩ := List.mem_map.1 mem
          have below : linkOf env i < k := Nat.div_lt_of_lt_mul (List.mem_range.1 inRange)
          omega
        rw [List.count_eq_zero.2 absent, if_pos (by simp [final]), Nat.zero_add]
      · rw [ih (by omega), if_neg (by simpa using Ne.symm final), Nat.add_zero]

/-- The world once `k` links were counted. -/
structure Sound (env : Env) (k : Nat) (w : World) : Prop where
  ports : w.nPorts.toNat = k
  slots : ∀ array i, Access.slot array i ∈ w.trace → i < maxPerfInsts
  links : ∀ l, Access.link l ∈ w.trace → l < k
  shared : w.created = true → w.serverLinks = plan env k ∧ w.clientLinks = plan env k

structure Fresh (w : World) : Prop where
  servers : w.serverLinks = []
  clients : w.clientLinks = []
  created : w.created = false

section
variable {env : Env} {k : Nat} {w : World}

theorem check_keeps (inv : World → Prop) (call : Call) : (check env call).Keeps inv := by
  intro w here
  unfold check
  cases env.stops call with
  | none => exact here
  | some jump => exact here

theorem wp_check {call : Call} {done : Unit → World → Prop} {failed : Jump → World → Prop} (regular : done () w)
    (failure : ∀ jump, failed jump w) : (check env call).wp done failed w := by
  unfold check
  cases env.stops call with
  | none => exact regular
  | some jump => exact failure jump

theorem Sound.slot (sound : Sound env k w) (array : Slots) {i : Nat} (inside : i < maxPerfInsts) :
    Sound env k { w with trace := w.trace ++ [.slot array i] } where
  ports := sound.ports
  slots other j mem := by
    rcases List.mem_append.1 mem with old | new
    · exact sound.slots other j old
    · simp only [List.mem_singleton, Access.slot.injEq] at new
      omega
  links l mem := by
    rcases List.mem_append.1 mem with old | new
    · exact sound.links l old
    · simp at new
  shared := sound.shared

theorem Sound.link (sound : Sound env k w) {l : Nat} (there : l < k) :
    Sound env k { w with trace := w.trace ++ [.link l] } where
  ports := sound.ports
  slots other j mem := by
    rcases List.mem_append.1 mem with old | new
    · exact sound.slots other j old
    · simp at new
  links other mem := by
    rcases List.mem_append.1 mem with old | new
    · exact sound.links other old
    · simp only [List.mem_singleton, Access.link.injEq] at new
      omega
  shared := sound.shared

theorem access_slot_keeps (array : Slots) {i : Nat} (inside : i < maxPerfInsts) :
    (access (.slot array i)).Keeps (Sound env k) := fun _ sound => sound.slot array inside

theorem check_then {inv : World → Prop} {call : Call} {f : Unit → Test Unit} (rest : (f ()).Keeps inv) :
    (check env call >>= f).Keeps inv := keeps_bind (check_keeps inv call) (fun _ => rest)

theorem slot_then {array : Slots} {i : Nat} {f : Unit → Test Unit} (inside : i < maxPerfInsts)
    (rest : (f ()).Keeps (Sound env k)) : (access (.slot array i) >>= f).Keeps (Sound env k) :=
  keeps_bind (access_slot_keeps array inside) (fun _ => rest)

theorem Sound.total (sound : Sound env k w) (fits : env.nPerfInsts.toNat * k ≤ maxPerfInsts) :
    total env w.nPorts = env.nPerfInsts.toNat * k := by
  have small : maxPerfInsts < 2 ^ 32 := by decide
  rw [Instances.total, BitVec.toNat_mul, sound.ports, Nat.mod_eq_of_lt (by omega)]

theorem destroyPerfInsts_keeps {n : Nat} (fits : n ≤ maxPerfInsts) : (destroyPerfInsts n).Keeps (Sound env k) := by
  apply keeps_forEach
  intro i mem
  have inside : i < maxPerfInsts := Nat.lt_of_lt_of_le (List.mem_range.1 mem) fits
  apply slot_then inside
  exact access_slot_keeps _ inside

theorem Sound.count (sound : Sound env k w) (fresh : Fresh w) (small : k < testMaxLinks) :
    Sound env (k + 1) { w with nPorts := w.nPorts + 1 } where
  ports := by
    have bound : testMaxLinks < 2 ^ 32 := by decide
    have one : (1 : BitVec 32).toNat = 1 := rfl
    rw [BitVec.toNat_add, sound.ports, one, Nat.mod_eq_of_lt (by omega)]
  slots := sound.slots
  links l mem := by
    have old := sound.links l mem
    omega
  shared created := by simp [fresh.created] at created

theorem countPorts_wp (sound : Sound env 0 w) (fresh : Fresh w) :
    (countPorts env).wp (fun _ after => Sound env env.links after ∧ Fresh after)
      (fun _ after => ∃ k ≤ env.links, Sound env k after) w := by
  apply wp_forRange (fun i after => Sound env i after ∧ Fresh after)
  · intro i below after here
    have stop : ∀ _ : Jump, ∃ k ≤ env.links, Sound env k after := fun _ => ⟨i, Nat.le_of_lt below, here.1⟩
    have fits := env.fits
    rw [countPort, wp_bind]
    apply wp_check _ stop
    rw [wp_bind]
    apply wp_check _ stop
    rw [wp_bind]
    apply wp_check _ stop
    rw [wp_bind]
    apply wp_check _ stop
    exact ⟨here.1.count here.2 (by omega), ⟨here.2.servers, here.2.clients, here.2.created⟩⟩
  · exact ⟨sound, fresh⟩

theorem checkCapacity_keeps (inv : World → Prop) : (checkCapacity env).Keeps inv := by
  intro w here
  rw [checkCapacity, bind_ok (show gets World.nPorts w = (.ok w.nPorts, w) from rfl)]
  apply keeps_bind _ _ w here
  · intro t holds
    unfold when
    split <;> exact holds
  · intro _ t holds
    unfold when
    split <;> exact holds

theorem keeps_ports {f : BitVec 32 → Test Unit} (fits : env.nPerfInsts.toNat * k ≤ maxPerfInsts)
    (rest : ∀ nPorts, total env nPorts = env.nPerfInsts.toNat * k → (f nPorts).Keeps (Sound env k)) :
    (gets World.nPorts >>= f).Keeps (Sound env k) := by
  intro w sound
  exact rest w.nPorts (sound.total fits) w sound

theorem keeps_instances {f : Nat → Test Unit} {n : Nat} (product : n = env.nPerfInsts.toNat * k)
    (fits : env.nPerfInsts.toNat * k ≤ maxPerfInsts)
    (each : ∀ i < maxPerfInsts, linkOf env i < k → (f i).Keeps (Sound env k)) :
    (forEach (List.range n) f).Keeps (Sound env k) := by
  apply keeps_forEach
  intro i mem
  have below : i < env.nPerfInsts.toNat * k := product ▸ List.mem_range.1 mem
  exact each i (Nat.lt_of_lt_of_le below fits) (Nat.div_lt_of_lt_mul below)

theorem configure_keeps (fits : env.nPerfInsts.toNat * k ≤ maxPerfInsts) : (configure env).Keeps (Sound env k) := by
  apply keeps_bind
  · apply keeps_forEach
    intro i _
    exact check_keeps _ _
  · intro _
    apply keeps_ports fits
    intro nPorts product
    apply keeps_bind
    · apply keeps_forEach
      intro i _
      exact check_keeps _ _
    · intro _
      apply keeps_bind
      · apply keeps_instances product fits
        intro i inside _
        exact access_slot_keeps _ inside
      · intro _
        apply check_then
        apply check_then
        exact check_keeps _ _

theorem runClients_keeps (fits : env.nPerfInsts.toNat * k ≤ maxPerfInsts) : (runClients env).Keeps (Sound env k) := by
  apply check_then
  apply keeps_ports fits
  intro nPorts product
  apply keeps_bind
  · apply keeps_instances product fits
    intro i inside _
    apply slot_then inside
    exact check_keeps _ _
  · intro _
    apply keeps_instances product fits
    intro i inside _
    apply slot_then inside
    exact check_keeps _ _

theorem readReports_keeps (fits : env.nPerfInsts.toNat * k ≤ maxPerfInsts) : (readReports env).Keeps (Sound env k) := by
  apply keeps_ports fits
  intro nPorts product
  apply keeps_instances product fits
  intro i inside there
  apply slot_then inside
  apply slot_then inside
  apply check_then
  apply slot_then inside
  apply slot_then inside
  apply check_then
  apply check_then
  apply check_then
  intro w sound
  exact sound.link there

/-- The world after a number of servers and a number of clients were created. -/
structure Creating (env : Env) (k servers clients : Nat) (w : World) : Prop extends Sound env k w where
  serverLinks : w.serverLinks = (List.range servers).map (linkOf env)
  clientLinks : w.clientLinks = (List.range clients).map (linkOf env)
  unfinished : w.created = false

section
variable {i j : Nat}

theorem Creating.slot (creating : Creating env k i j w) (array : Slots) {n : Nat} (inside : n < maxPerfInsts) :
    Creating env k i j { w with trace := w.trace ++ [.slot array n] } :=
  ⟨creating.toSound.slot array inside, creating.serverLinks, creating.clientLinks, creating.unfinished⟩

theorem Creating.link (creating : Creating env k i j w) {l : Nat} (there : l < k) :
    Creating env k i j { w with trace := w.trace ++ [.link l] } :=
  ⟨creating.toSound.link there, creating.serverLinks, creating.clientLinks, creating.unfinished⟩

theorem map_range_succ (env : Env) (i : Nat) :
    (List.range (i + 1)).map (linkOf env) = (List.range i).map (linkOf env) ++ [linkOf env i] := by
  rw [List.range_succ, List.map_append]
  rfl

theorem Creating.server (creating : Creating env k i j w) :
    Creating env k (i + 1) j { w with serverLinks := w.serverLinks ++ [linkOf env i] } where
  ports := creating.ports
  slots := creating.slots
  links := creating.links
  shared created := by simp [creating.unfinished] at created
  serverLinks := by rw [map_range_succ, creating.serverLinks]
  clientLinks := creating.clientLinks
  unfinished := creating.unfinished

theorem Creating.client (creating : Creating env k i j w) :
    Creating env k i (j + 1) { w with clientLinks := w.clientLinks ++ [linkOf env j] } where
  ports := creating.ports
  slots := creating.slots
  links := creating.links
  shared created := by simp [creating.unfinished] at created
  serverLinks := creating.serverLinks
  clientLinks := by rw [map_range_succ, creating.clientLinks]
  unfinished := creating.unfinished

end

theorem createInstance_wp {i : Nat} (creating : Creating env k i i w) (inside : i < maxPerfInsts)
    (there : linkOf env i < k) :
    (createInstance env i).wp (fun _ => Creating env k (i + 1) (i + 1)) (fun _ => Sound env k) w := by
  have linked := creating.link there
  have served := ((linked.slot .serverPorts inside).slot .perfServers inside).server
  have both := (served.slot .perfClients inside).client
  rw [createInstance, wp_bind, access, wp_update, wp_bind]
  apply wp_check _ (fun _ => linked.toSound)
  rw [wp_bind, access, wp_update, wp_bind, access, wp_update, wp_bind, wp_update, wp_bind]
  apply wp_check _ (fun _ => served.toSound)
  rw [wp_bind]
  apply wp_check _ (fun _ => served.toSound)
  rw [wp_bind]
  apply wp_check _ (fun _ => served.toSound)
  rw [wp_bind, access, wp_update, wp_bind, wp_update]
  exact wp_check both (fun _ => both.toSound)

theorem createInstances_wp (fits : env.nPerfInsts.toNat * k ≤ maxPerfInsts) (sound : Sound env k w) (fresh : Fresh w) :
    (createInstances env).wp (fun _ => Sound env k) (fun _ => Sound env k) w := by
  have loop : (forEach (List.range (env.nPerfInsts.toNat * k)) (createInstance env)).wp
      (fun _ => Creating env k (env.nPerfInsts.toNat * k) (env.nPerfInsts.toNat * k)) (fun _ => Sound env k) w := by
    apply wp_forRange (fun i => Creating env k i i)
    · intro i below t creating
      exact createInstance_wp creating (Nat.lt_of_lt_of_le below fits) (Nat.div_lt_of_lt_mul below)
    · exact ⟨sound, fresh.servers, fresh.clients, fresh.created⟩
  rw [createInstances, wp_bind, wp_gets, sound.total fits]
  apply wp_seq loop _ (fun _ _ stopped => stopped)
  intro _ t creating
  rw [wp_update]
  exact ⟨creating.ports, creating.slots, creating.links, fun _ => ⟨creating.serverLinks, creating.clientLinks⟩⟩

theorem access_fresh (use : Access) : (access use).Keeps Fresh :=
  fun _ fresh => ⟨fresh.servers, fresh.clients, fresh.created⟩

theorem configure_fresh : (configure env).Keeps Fresh := by
  apply keeps_bind
  · apply keeps_forEach
    intro i _
    exact check_keeps _ _
  · intro _
    apply keeps_bind (show (gets World.nPorts : Test (BitVec 32)).Keeps Fresh from fun _ fresh => fresh)
    intro nPorts
    apply keeps_bind
    · apply keeps_forEach
      intro i _
      exact check_keeps _ _
    · intro _
      apply keeps_bind
      · apply keeps_forEach
        intro i _
        exact access_fresh _
      · intro _
        apply check_then
        apply check_then
        exact check_keeps _ _

theorem body_wp (fits : env.nPerfInsts.toNat * env.links ≤ maxPerfInsts) (sound : Sound env 0 w) (fresh : Fresh w) :
    (body env).wp (fun _ => Sound env env.links) (fun _ after => ∃ k ≤ env.links, Sound env k after) w := by
  have stopped : ∀ (_ : Jump) (after : World), Sound env env.links after → ∃ k ≤ env.links, Sound env k after :=
    fun _ after here => ⟨env.links, Nat.le_refl _, here⟩
  rw [body, wp_bind]
  apply wp_check _ (fun _ => ⟨0, Nat.zero_le _, sound⟩)
  apply wp_seq (countPorts_wp sound fresh) _ (fun _ _ here => here)
  intro _ counted here
  have capacity : (checkCapacity env).Keeps (fun w => Sound env env.links w ∧ Fresh w) := checkCapacity_keeps _
  apply wp_seq (keeps_iff_wp.1 capacity counted here) _ (fun jump after both => stopped jump after both.1)
  intro _ passed both
  have configured : (configure env).Keeps (fun w => Sound env env.links w ∧ Fresh w) :=
    fun w both => ⟨configure_keeps fits w both.1, configure_fresh w both.2⟩
  apply wp_seq (keeps_iff_wp.1 configured passed both) _ (fun jump after both => stopped jump after both.1)
  intro _ ready both
  apply wp_seq (createInstances_wp fits both.1 both.2) _ stopped
  intro _ created sound
  apply wp_seq (keeps_iff_wp.1 (runClients_keeps fits) created sound) _ stopped
  intro _ ran sound
  exact wp_mono (keeps_iff_wp.1 (readReports_keeps fits) ran sound) (fun _ _ here => here) stopped

theorem main_sound (env : Env) (fits : env.nPerfInsts.toNat * env.links ≤ maxPerfInsts) :
    ∃ k ≤ env.links, Sound env k (main env) := by
  have start : Sound env 0 World.start := ⟨rfl, by simp [World.start], by simp [World.start], by simp [World.start]⟩
  have sound : Sound env 0 (initPerfInsts World.start).2 :=
    destroyPerfInsts_keeps (Nat.le_refl maxPerfInsts) World.start start
  have fresh : Fresh (initPerfInsts World.start).2 := by
    apply keeps_forEach _ World.start ⟨rfl, rfl, rfl⟩
    intro i _
    exact keeps_bind (access_fresh _) (fun _ => access_fresh _)
  obtain ⟨k, le, after⟩ : ∃ k ≤ env.links, Sound env k (body env (initPerfInsts World.start).2).2 :=
    wp_final (fun after => ∃ k ≤ env.links, Sound env k after) (body_wp fits sound fresh)
      (fun _ _ here => ⟨env.links, Nat.le_refl _, here⟩) (fun _ _ here => here)
  have smaller : env.nPerfInsts.toNat * k ≤ maxPerfInsts := Nat.le_trans (Nat.mul_le_mul_left _ le) fits
  have cleaned : (cleanup env).Keeps (Sound env k) := by
    apply keeps_ports smaller
    intro nPorts product
    exact destroyPerfInsts_keeps (by omega)
  exact ⟨k, le, cleaned _ after⟩

theorem Sound.inside (sound : Sound env k w) : Inside w :=
  ⟨sound.slots, fun l mem => sound.ports.symm ▸ sound.links l mem⟩

theorem Sound.sharedOut (sound : Sound env k w) : Shared env w := by
  intro created l there
  obtain ⟨servers, clients⟩ := sound.shared created
  rw [servers, clients, count_plan env (sound.ports ▸ there)]
  exact ⟨rfl, rfl⟩

theorem mem_destroyPerfInsts (n i : Nat) (below : i < n) (w : World) :
    Access.slot .perfServers i ∈ (destroyPerfInsts n w).2.trace := by
  have loop : (destroyPerfInsts n).wp (fun _ after => ∀ j < n, Access.slot .perfServers j ∈ after.trace)
      (fun _ _ => False) w := by
    apply wp_forRange (fun i (after : World) => ∀ j < i, Access.slot .perfServers j ∈ after.trace)
    · intro i _ t here
      rw [wp_bind, access, wp_update, access, wp_update]
      intro j small
      by_cases last : j = i
      · simp [last]
      · simp [here j (by omega)]
    · intro j small
      cases small
  exact wp_final (fun after => Access.slot .perfServers i ∈ after.trace) loop (fun _ _ all => all i below)
    (fun _ _ impossible => impossible.elim)

theorem not_inside_of_total {after : World} (left : (body env (initPerfInsts World.start).2).2 = after)
    (large : maxPerfInsts < total env after.nPorts) : ¬Inside (main env) := by
  have run : main env = (destroyPerfInsts (total env after.nPorts) after).2 := by
    rw [← left]
    rfl
  rw [run]
  intro inside
  have last := inside.1 .perfServers maxPerfInsts (mem_destroyPerfInsts _ _ large after)
  omega

end

def quiet (nPerfInsts : BitVec 32) (links : Nat) (fits : links ≤ testMaxLinks) : Env :=
  ⟨nPerfInsts, links, fits, links, fun _ => none⟩

/-- A run in which no port can be allocated for the second link. -/
def oneLink (nPerfInsts : BitVec 32) (links : Nat) (fits : links ≤ testMaxLinks) : Env :=
  ⟨nPerfInsts, links, fits, links, fun call => if call = .allocatePort 1 then some .stop else none⟩

section
variable (nPerfInsts : BitVec 32) {links : Nat} (fits : links ≤ testMaxLinks)

theorem countPorts_quiet (w : World) :
    countPorts (quiet nPerfInsts links fits) w = (.ok (), { w with nPorts := w.nPorts + BitVec.ofNat 32 links }) := by
  have loop : ∀ n : Nat, forEach (List.range n) (countPort (quiet nPerfInsts links fits)) w =
      (.ok (), { w with nPorts := w.nPorts + BitVec.ofNat 32 n }) := by
    intro n
    induction n with
    | zero => simp [forEach, pure]
    | succ n ih =>
      rw [List.range_succ, forEach_append, bind_ok ih, BitVec.ofNat_add, ← BitVec.add_assoc]
      rfl
  exact loop links

theorem body_quiet (w : World) (zero : w.nPorts = 0)
    (large : ¬total (quiet nPerfInsts links fits) (BitVec.ofNat 32 links) < maxPerfInsts) :
    (body (quiet nPerfInsts links fits) w).2 = { w with nPorts := BitVec.ofNat 32 links } := by
  have few : links < 2 ^ 32 := Nat.lt_of_le_of_lt fits (by decide)
  have counted : countPorts (quiet nPerfInsts links fits) w = (.ok (), { w with nPorts := BitVec.ofNat 32 links }) := by
    rw [countPorts_quiet nPerfInsts fits w, zero]
    simp
  have enough : ¬links < (BitVec.ofNat 32 links).toNat := by
    rw [BitVec.toNat_ofNat, Nat.mod_eq_of_lt few]
    omega
  have stop : checkCapacity (quiet nPerfInsts links fits) { w with nPorts := BitVec.ofNat 32 links } =
      (.error (.checkRc TeError.einval), { w with nPorts := BitVec.ofNat 32 links }) := by
    rw [checkCapacity, bind_ok (show gets World.nPorts _ = (.ok _, _) from rfl)]
    have iut : (quiet nPerfInsts links fits).nIutPorts = links := rfl
    simp only [iut, enough, large, not_false_eq_true, decide_true, decide_false, when, if_true]
    rfl
  rw [body, bind_ok (show check (quiet nPerfInsts links fits) .params w = (.ok (), w) from rfl), bind_ok counted,
    bind_error stop]

theorem body_oneLink (w : World) (zero : w.nPorts = 0) (two : 2 ≤ links) :
    (body (oneLink nPerfInsts links fits) w).2 = { w with nPorts := 1 } := by
  obtain ⟨more, rfl⟩ : ∃ more, links = more + 1 + 1 := ⟨links - 2, by omega⟩
  have range : (List.range (more + 1 + 1)) = 0 :: 1 :: (List.range more).map (fun i => i + 1 + 1) := by
    rw [List.range_succ_eq_map, List.range_succ_eq_map, List.map_cons, List.map_map]
    rfl
  have first : countPort (oneLink nPerfInsts (more + 1 + 1) fits) 0 w = (.ok (), { w with nPorts := 1 }) := by
    have one : w.nPorts + 1 = 1 := by simp [zero]
    rw [← one]
    rfl
  have second : countPort (oneLink nPerfInsts (more + 1 + 1) fits) 1 { w with nPorts := 1 } =
    (.error .stop, { w with nPorts := 1 }) := rfl
  have counted : countPorts (oneLink nPerfInsts (more + 1 + 1) fits) w = (.error .stop, { w with nPorts := 1 }) := by
    show forEach (List.range (more + 1 + 1)) _ w = _
    rw [range, forEach, bind_ok first, forEach, bind_error second]
  rw [body, bind_ok (show check (oneLink nPerfInsts (more + 1 + 1) fits) .params w = (.ok (), w) from rfl),
    bind_error counted]

end

/-- All indices are inside and all links get their share, on every path of the test. -/
def Safe (nPerfInsts : BitVec 32) (links : Nat) : Prop :=
  ∀ env : Env, env.nPerfInsts = nPerfInsts → env.links = links → Inside (main env) ∧ Shared env (main env)

/-- The arrays are large enough exactly if the true product of the two numbers is. -/
theorem safe_iff_fits (nPerfInsts : BitVec 32) (links : Nat) (some : 1 ≤ links) (fits : links ≤ testMaxLinks) :
    Safe nPerfInsts links ↔ nPerfInsts.toNat * links ≤ maxPerfInsts := by
  have start : (initPerfInsts World.start).2.nPorts = 0 := by rfl
  constructor
  · intro safe
    by_contra large
    have word := nPerfInsts.isLt
    have four : testMaxLinks = 4 := rfl
    have size : maxPerfInsts = 32 := rfl
    by_cases wide : maxPerfInsts < nPerfInsts.toNat ∧ 2 ≤ links
    · -- a failure at the second link leaves a product that needs no second factor
      have left := body_oneLink nPerfInsts fits _ start wide.2
      apply not_inside_of_total left _ (safe (oneLink nPerfInsts links fits) rfl rfl).1
      show maxPerfInsts < (nPerfInsts * 1).toNat
      simpa using wide.1
    · -- otherwise the product does not wrap
      have small : nPerfInsts.toNat * links < 2 ^ 32 := by
        by_cases single : links = 1
        · rw [single]
          omega
        · have few : nPerfInsts.toNat ≤ 32 := by omega
          calc nPerfInsts.toNat * links ≤ 32 * 4 := Nat.mul_le_mul few (by omega)
            _ < 2 ^ 32 := by decide
      have product : total (quiet nPerfInsts links fits) (BitVec.ofNat 32 links) = nPerfInsts.toNat * links := by
        show (nPerfInsts * BitVec.ofNat 32 links).toNat = _
        rw [BitVec.toNat_mul, BitVec.toNat_ofNat, Nat.mod_eq_of_lt (show links < 2 ^ 32 by omega), Nat.mod_eq_of_lt small]
      have left := body_quiet nPerfInsts fits _ start (by omega)
      apply not_inside_of_total left _ (safe (quiet nPerfInsts links fits) rfl rfl).1
      show maxPerfInsts < total (quiet nPerfInsts links fits) (BitVec.ofNat 32 links)
      omega
  · intro small env insts count
    subst insts count
    obtain ⟨k, -, sound⟩ := main_sound env small
    exact ⟨sound.inside, sound.sharedOut⟩

/-- Eight pairs on each of four links fill the arrays. -/
theorem safe_eight_on_four : Safe 8 4 := by
  rw [safe_iff_fits 8 4 (by decide) (by decide)]
  decide

/-- Thirty-three pairs are rejected, and the cleanup then goes past the end of the arrays; a product that wraps is
accepted, and leaves a link without any pair. -/
theorem unsafe_thirty_three :
    ¬Inside (main (quiet 33 1 (by decide))) ∧
    (main (quiet 0x80000008 2 (by decide))).created = true ∧
    (main (quiet 0x80000008 2 (by decide))).serverLinks.count 1 = 0 ∧
    ¬Safe 33 1 := by
  have outside : ¬Inside (main (quiet 33 1 (by decide))) := by
    have left := body_quiet 33 (show 1 ≤ testMaxLinks by decide) (initPerfInsts World.start).2 rfl (by decide)
    exact not_inside_of_total left (by decide)
  refine ⟨outside, by decide +kernel, by decide +kernel, ?_⟩
  intro safe
  exact outside (safe (quiet 33 1 (by decide)) rfl rfl).1

end NetDrv.Perf.Instances

import NetDrv.Rss.HashKeySet

/-! The test that reads the RSS hash key. For each entry of the indirection table it
draws ports until the hash of the connection points to the entry and the ports are
free on both hosts. Whether the search succeeded is judged by the index of its last
attempt, which tells nothing about the ports. -/

namespace NetDrv.Rss.HashKeyGet
open Script

@[irreducible] def maxChangePortAttempts : Nat := 100000

theorem maxChangePortAttempts_pos : 0 < maxChangePortAttempts := by
  unfold maxChangePortAttempts
  decide

/-- A connection the test is about to create for an entry of the table. -/
structure Connection where
  entry : Nat
  iut : SockAddr
  tst : SockAddr
  deriving DecidableEq, Repr

/-- The variables of the test, and the connections it came to. -/
structure World where
  newIutAddr : SockAddr
  newTstAddr : SockAddr
  out : Outputs
  connections : List Connection

/-- What the test gets for an entry of the table, from chance and from the calls it makes. -/
structure Env where
  /-- The ports drawn for an entry in an attempt. -/
  port : Nat → Nat → Side → BitVec 16
  /-- What `rpc_check_port_is_free()` answers for an entry in an attempt. -/
  portIsFree : Nat → Nat → Side → Except TeErrno Bool
  genConnection : Nat → Except TeErrno Unit
  sendCheckStats : Nat → Except Jump (Except TeErrno Unit)
  close : Nat → Side → Except TeErrno Unit

section
variable {κ : Type} (toeplitz : Toeplitz κ) (iface : Place → Iface) (ctx : Ctx κ) (iutAddr tstAddr : SockAddr)
  (env : Env)

/-- One attempt to choose ports; `true` leaves the loop. -/
def tryPorts (j i : Nat) : Script Jump World Bool := do
  let iutPort := env.port j i .iut
  let tstPort := env.port j i .tst
  update (fun w => { w with newIutAddr := w.newIutAddr.setPort iutPort })
  update (fun w => { w with newTstAddr := w.newTstAddr.setPort tstPort })
  let src ← gets World.newTstAddr
  let dst ← gets World.newIutAddr
  checked (zoom World.out (fun out w => { w with out := out })
    (rssPredict toeplitz iface ctx src dst ⟨true, true, false⟩))
  let idx ← gets (fun w => w.out.idx)
  if idx = UInt32.ofNat j then
    if ← checkRc (env.portIsFree j i .iut) then checkRc (env.portIsFree j i .tst) else pure false
  else pure false

def couldNotChoose (j : Nat) : Jump :=
  .fail ("Could not choose free ports on IUT and Tester such that RSS hash points to indirection table entry " ++
    toString j)

/-- The connection is noted before `GEN_CONNECTION()` can fail. -/
def genConnection (j : Nat) : Script Jump World Unit := do
  update (fun w => { w with connections := w.connections ++ [⟨j, w.newIutAddr, w.newTstAddr⟩] })
  checkRc (env.genConnection j)

def useConnection (j : Nat) : Script Jump World Unit := do
  genConnection env j
  checkRc (← ofExcept (env.sendCheckStats j))
  checkRc (env.close j .iut)
  checkRc (env.close j .tst)

def testEntry (j : Nat) : Script Jump World Unit := do
  let _ ← checkRc ((iface ctx.place).indirGet (UInt32.ofNat j))
  let _ ← findFirst (List.range maxChangePortAttempts) (tryPorts toeplitz iface ctx env j)
  let idx ← gets (fun w => w.out.idx)
  when (idx != UInt32.ofNat j) (fail (couldNotChoose j))
  useConnection env j

def testEntries (n : Nat) : Script Jump World Unit := forEach (List.range n) (testEntry toeplitz iface ctx env)

def hashKeyGet : Script Jump World Unit := testEntries toeplitz iface ctx env ctx.indirTableSize.toNat

def World.start (stale : Outputs) : World := ⟨iutAddr, tstAddr, stale, []⟩

/-- The entry of the table that the hash of the ports of an attempt points to. -/
def entryOf (j i : Nat) : Except TeErrno UInt32 := do
  let hash ← toeplitz.hashSa ctx.cache (tstAddr.setPort (env.port j i .tst)) (iutAddr.setPort (env.port j i .iut))
    ctx.hashVariant
  pure (hash % ctx.indirTableSize)

/-- The ports of an attempt point to the entry and are free on both hosts. -/
structure Usable (j i : Nat) : Prop where
  entry : entryOf toeplitz ctx iutAddr tstAddr env j i = .ok (UInt32.ofNat j)
  iut : env.portIsFree j i .iut = .ok true
  tst : env.portIsFree j i .tst = .ok true

/-- The ports of an attempt do not point to the entry, or are not free on one of the hosts. -/
def Unusable (j i : Nat) : Prop :=
  ∃ idx, entryOf toeplitz ctx iutAddr tstAddr env j i = .ok idx ∧
    (idx = UInt32.ofNat j → env.portIsFree j i .iut = .ok false ∨
      env.portIsFree j i .iut = .ok true ∧ env.portIsFree j i .tst = .ok false)

/-- The search for an entry is made, and none of its attempts finds a pair of ports. -/
structure Exhausted (j : Nat) : Prop where
  indir : ∃ indir, (iface ctx.place).indirGet (UInt32.ofNat j) = .ok indir
  unusable : ∀ i < maxChangePortAttempts, Unusable toeplitz ctx iutAddr tstAddr env j i

/-- The ports of the last attempt for an entry point to it. -/
def LastPointsTo (j : Nat) : Prop :=
  entryOf toeplitz ctx iutAddr tstAddr env j (maxChangePortAttempts - 1) = .ok (UInt32.ofNat j)

/-- A connection between a pair of ports that some attempt found to be usable for its entry. -/
def Found (connection : Connection) : Prop :=
  ∃ i < maxChangePortAttempts, Usable toeplitz ctx iutAddr tstAddr env connection.entry i ∧
    connection.iut = iutAddr.setPort (env.port connection.entry i .iut) ∧
    connection.tst = tstAddr.setPort (env.port connection.entry i .tst)

/-- The test comes to an entry of the table: those before it were tested without a failure. -/
def ComesTo (stale : Outputs) (j : Nat) : Prop :=
  j < ctx.indirTableSize.toNat ∧
    ∃ w, testEntries toeplitz iface ctx env j (World.start iutAddr tstAddr stale) = (.ok (), w)

/-- Every connection the test comes to was found by the search, and a search that finds none stops
the test. -/
def TestsUsable (stale : Outputs) : Prop :=
  let run := hashKeyGet toeplitz iface ctx env (World.start iutAddr tstAddr stale)
  (∀ connection ∈ run.2.connections, Found toeplitz ctx iutAddr tstAddr env connection) ∧
    ∀ j, ComesTo toeplitz iface ctx iutAddr tstAddr env stale j →
      Exhausted toeplitz iface ctx iutAddr tstAddr env j → run.1 = .error (couldNotChoose j)

end
section
variable {κ : Type} {toeplitz : Toeplitz κ} {iface : Place → Iface} {ctx : Ctx κ} {iutAddr tstAddr : SockAddr}
  {env : Env} {j i : Nat} {t w : World}

theorem not_unusable (entry : entryOf toeplitz ctx iutAddr tstAddr env j i = .ok (UInt32.ofNat j))
    (iut : env.portIsFree j i .iut ≠ .ok false)
    (tst : env.portIsFree j i .iut = .ok true → env.portIsFree j i .tst ≠ .ok false) :
    ¬Unusable toeplitz ctx iutAddr tstAddr env j i := by
  intro ⟨idx, other, busy⟩
  have same : UInt32.ofNat j = idx := Except.ok.inj (entry.symm.trans other)
  rcases busy same.symm with iutBusy | ⟨iutFree, tstBusy⟩
  · exact iut iutBusy
  · exact tst iutFree tstBusy

theorem Usable.not_unusable (usable : Usable toeplitz ctx iutAddr tstAddr env j i) :
    ¬Unusable toeplitz ctx iutAddr tstAddr env j i := by
  apply HashKeyGet.not_unusable usable.entry
  · simp [usable.iut]
  · simp [usable.tst]

/-- The new addresses differ from the given ones in their ports at most, and no connection is added. -/
structure Based (iutAddr tstAddr : SockAddr) (known : List Connection) (w : World) : Prop where
  iut : w.newIutAddr.netaddr = iutAddr.netaddr
  tst : w.newTstAddr.netaddr = tstAddr.netaddr
  connections : w.connections = known

theorem setPort_congr {addr other : SockAddr} (same : addr.netaddr = other.netaddr) (port : BitVec 16) :
    addr.setPort port = other.setPort port := by
  unfold SockAddr.setPort
  rw [same]

/-- The new addresses and the index are those of an attempt. -/
structure Tried (toeplitz : Toeplitz κ) (ctx : Ctx κ) (iutAddr tstAddr : SockAddr) (env : Env) (j i : Nat)
    (known : List Connection) (w : World) : Prop where
  iut : w.newIutAddr = iutAddr.setPort (env.port j i .iut)
  tst : w.newTstAddr = tstAddr.setPort (env.port j i .tst)
  entry : entryOf toeplitz ctx iutAddr tstAddr env j i = .ok w.out.idx
  connections : w.connections = known

theorem Tried.based {known : List Connection} (tried : Tried toeplitz ctx iutAddr tstAddr env j i known w) :
    Based iutAddr tstAddr known w := by
  refine ⟨?_, ?_, tried.connections⟩
  · rw [tried.iut]
    rfl
  · rw [tried.tst]
    rfl

theorem predict_wp (src dst : SockAddr) :
    (checked (zoom World.out (fun out w => { w with out := out })
      (rssPredict toeplitz iface ctx src dst ⟨true, true, false⟩))).wp
      (fun _ u => ∃ out hash, u = { t with out := out } ∧
        toeplitz.hashSa ctx.cache src dst ctx.hashVariant = .ok hash ∧ out.idx = hash % ctx.indirTableSize)
      (fun _ u => (∃ out, u = { t with out := out }) ∧
        ∃ rc, toeplitz.hashSa ctx.cache src dst ctx.hashVariant = .error rc) t := by
  rw [wp_checked, wp_zoom]
  apply wp_mono (rssPredict_wp src dst ⟨true, true, false⟩ t.out)
  · intro _ out ⟨hash, hashed, _, idx, _⟩
    exact ⟨out, hash, rfl, hashed, idx rfl⟩
  · intro rc out fails
    rcases fails with hashed | ⟨asked, -⟩
    · exact ⟨⟨out, rfl⟩, rc, hashed⟩
    · cases asked

theorem tryPorts_wp {known : List Connection} (based : Based iutAddr tstAddr known t) (j i : Nat) :
    (tryPorts toeplitz iface ctx env j i).wp
      (fun found u => Tried toeplitz ctx iutAddr tstAddr env j i known u ∧
        if found then Usable toeplitz ctx iutAddr tstAddr env j i else Unusable toeplitz ctx iutAddr tstAddr env j i)
      (fun _ u => Based iutAddr tstAddr known u ∧ ¬Unusable toeplitz ctx iutAddr tstAddr env j i) t := by
  unfold tryPorts
  rw [wp_bind, wp_update, wp_bind, wp_update, wp_bind, wp_gets, wp_bind, wp_gets]
  apply wp_seq (predict_wp _ _)
  · rintro _ u ⟨out, hash, rfl, hashed, idx⟩
    have iut := setPort_congr based.iut (env.port j i .iut)
    have tst := setPort_congr based.tst (env.port j i .tst)
    have entry : entryOf toeplitz ctx iutAddr tstAddr env j i = .ok out.idx := by
      simp only [entryOf, ← iut, ← tst, hashed, idx]
      rfl
    have tried : ∀ w : World, w = { t with
        newIutAddr := t.newIutAddr.setPort (env.port j i .iut)
        newTstAddr := t.newTstAddr.setPort (env.port j i .tst)
        out := out } → Tried toeplitz ctx iutAddr tstAddr env j i known w := by
      rintro w rfl
      exact ⟨iut, tst, entry, based.connections⟩
    rw [wp_bind, wp_gets]
    by_cases here : out.idx = UInt32.ofNat j
    · rw [if_pos here, wp_bind, wp_checkRc]
      rw [here] at entry
      cases iutFree : env.portIsFree j i .iut with
      | error rc => exact ⟨(tried _ rfl).based, not_unusable entry (by simp [iutFree]) (by simp [iutFree])⟩
      | ok free =>
        cases free with
        | false => exact ⟨tried _ rfl, _, entry, fun _ => .inl iutFree⟩
        | true =>
          simp only [if_true, wp_checkRc]
          cases tstFree : env.portIsFree j i .tst with
          | error rc => exact ⟨(tried _ rfl).based, not_unusable entry (by simp [iutFree]) (by simp [tstFree])⟩
          | ok free =>
            cases free with
            | false => exact ⟨tried _ rfl, _, entry, fun _ => .inr ⟨iutFree, tstFree⟩⟩
            | true => exact ⟨tried _ rfl, entry, iutFree, tstFree⟩
    · rw [if_neg here]
      exact ⟨tried _ rfl, _, entry, fun same => absurd same here⟩
  · rintro _ u ⟨⟨out, rfl⟩, rc, hashed⟩
    refine ⟨⟨based.iut, based.tst, based.connections⟩, ?_⟩
    rintro ⟨idx, entry, -⟩
    rw [setPort_congr based.iut, setPort_congr based.tst] at hashed
    simp [entryOf, hashed, bind, Except.bind] at entry

theorem search_wp {known : List Connection} (based : Based iutAddr tstAddr known t) (j : Nat) :
    (findFirst (List.range maxChangePortAttempts) (tryPorts toeplitz iface ctx env j)).wp
      (fun found u =>
        if found then ∃ i < maxChangePortAttempts, Usable toeplitz ctx iutAddr tstAddr env j i ∧
          Tried toeplitz ctx iutAddr tstAddr env j i known u
        else (∀ i < maxChangePortAttempts, Unusable toeplitz ctx iutAddr tstAddr env j i) ∧
          Tried toeplitz ctx iutAddr tstAddr env j (maxChangePortAttempts - 1) known u)
      (fun _ u => Based iutAddr tstAddr known u ∧
        ¬∀ i < maxChangePortAttempts, Unusable toeplitz ctx iutAddr tstAddr env j i) t := by
  -- the attempts made so far were in vain, and the addresses are those of the last of them
  let inv (before : List Nat) (u : World) : Prop := Based iutAddr tstAddr known u ∧
    (∀ i < before.length, Unusable toeplitz ctx iutAddr tstAddr env j i) ∧
    (before ≠ [] → Tried toeplitz ctx iutAddr tstAddr env j (before.length - 1) known u)
  let hit (i : Nat) (u : World) : Prop := Usable toeplitz ctx iutAddr tstAddr env j i ∧
    Tried toeplitz ctx iutAddr tstAddr env j i known u
  apply wp_weaken (wp_search inv hit (List.range maxChangePortAttempts) _ ⟨based, by simp, by simp⟩)
  · intro found u after
    cases found with
    | true =>
      obtain ⟨i, member, usable, tried⟩ := after
      exact ⟨i, List.mem_range.mp member, usable, tried⟩
    | false =>
      obtain ⟨-, missed, last⟩ := after
      rw [List.length_range] at missed last
      refine ⟨missed, last ?_⟩
      rw [ne_eq, List.range_eq_nil]
      exact Nat.pos_iff_ne_zero.mp maxChangePortAttempts_pos
  · intro before i after u whole here
    obtain ⟨position, below⟩ := range_split whole
    apply wp_mono (tryPorts_wp here.1 j i)
    · intro found v result
      cases found with
      | true => exact ⟨result.2, result.1⟩
      | false =>
        refine ⟨result.1.based, fun k earlier => ?_, fun _ => ?_⟩
        · rw [List.length_append, List.length_singleton] at earlier
          rcases Nat.lt_succ_iff_lt_or_eq.mp earlier with less | last
          · exact here.2.1 k less
          · rw [last, ← position]
            exact result.2
        · simpa [← position] using result.1
    · intro _ v ⟨there, stopped⟩
      exact ⟨there, fun all => stopped (all i below)⟩

/-- The test came to a connection for the entry, which was found unless the search was in vain. -/
def Noted (toeplitz : Toeplitz κ) (iface : Place → Iface) (ctx : Ctx κ) (iutAddr tstAddr : SockAddr) (env : Env) (j : Nat)
    (known : List Connection) (w : World) : Prop :=
  ∃ connection, connection.entry = j ∧ Based iutAddr tstAddr (known ++ [connection]) w ∧
    (Found toeplitz ctx iutAddr tstAddr env connection ∨
      Exhausted toeplitz iface ctx iutAddr tstAddr env j ∧ LastPointsTo toeplitz ctx iutAddr tstAddr env j)

theorem useConnection_wp {known : List Connection} (based : Based iutAddr tstAddr known w) (j : Nat) :
    (useConnection env j).wp
      (fun _ => Based iutAddr tstAddr (known ++ [⟨j, w.newIutAddr, w.newTstAddr⟩]))
      (fun _ => Based iutAddr tstAddr (known ++ [⟨j, w.newIutAddr, w.newTstAddr⟩])) w := by
  let after : World := { w with connections := w.connections ++ [⟨j, w.newIutAddr, w.newTstAddr⟩] }
  have noted : Based iutAddr tstAddr (known ++ [⟨j, w.newIutAddr, w.newTstAddr⟩]) after :=
    ⟨based.iut, based.tst, by rw [← based.connections]⟩
  rw [useConnection, wp_bind, genConnection, wp_bind, wp_update]
  refine wp_checkRc_any (fun _ => ?_) (fun _ => noted)
  rw [wp_bind]
  refine wp_ofExcept_any (fun _ => ?_) (fun _ => noted)
  rw [wp_bind]
  refine wp_checkRc_any (fun _ => ?_) (fun _ => noted)
  rw [wp_bind]
  refine wp_checkRc_any (fun _ => ?_) (fun _ => noted)
  exact wp_checkRc_any (fun _ => noted) (fun _ => noted)

theorem testEntry_wp {known : List Connection} (based : Based iutAddr tstAddr known t) (j : Nat) :
    (testEntry toeplitz iface ctx env j).wp
      (fun _ => Noted toeplitz iface ctx iutAddr tstAddr env j known)
      (fun jump u => Noted toeplitz iface ctx iutAddr tstAddr env j known u ∨
        u.connections = known ∧ (Exhausted toeplitz iface ctx iutAddr tstAddr env j →
          jump = couldNotChoose j ∧ ¬LastPointsTo toeplitz ctx iutAddr tstAddr env j)) t := by
  unfold testEntry
  rw [wp_bind, wp_checkRc]
  cases indir : (iface ctx.place).indirGet (UInt32.ofNat j) with
  | error rc =>
    refine .inr ⟨based.connections, fun exhausted => ?_⟩
    obtain ⟨queue, known⟩ := exhausted.indir
    exact absurd (indir.symm.trans known) (by simp)
  | ok queue =>
    apply wp_seq (search_wp based j)
    · intro found u after
      rw [wp_bind, wp_gets, wp_bind]
      cases found with
      | true =>
        obtain ⟨i, below, usable, tried⟩ := after
        have idx : u.out.idx = UInt32.ofNat j := Except.ok.inj (tried.entry.symm.trans usable.entry)
        refine wp_when (fun other => absurd idx (by simpa using other)) (fun _ => ?_)
        have noted : ∀ v, Based iutAddr tstAddr (known ++ [⟨j, u.newIutAddr, u.newTstAddr⟩]) v →
            Noted toeplitz iface ctx iutAddr tstAddr env j known v :=
          fun v based => ⟨_, rfl, based, .inl ⟨i, below, usable, tried.iut, tried.tst⟩⟩
        exact wp_mono (useConnection_wp tried.based j) (fun _ => noted) (fun _ v based => .inl (noted v based))
      | false =>
        obtain ⟨missed, tried⟩ := after
        apply wp_when
        · intro other
          have different : u.out.idx ≠ UInt32.ofNat j := by simpa using other
          refine .inr ⟨tried.connections, fun _ => ⟨rfl, fun last => ?_⟩⟩
          exact different (Except.ok.inj (tried.entry.symm.trans last))
        · intro same
          have idx : u.out.idx = UInt32.ofNat j := by simpa using same
          have last : LastPointsTo toeplitz ctx iutAddr tstAddr env j :=
            tried.entry.trans (congrArg Except.ok idx)
          have noted : ∀ v, Based iutAddr tstAddr (known ++ [⟨j, u.newIutAddr, u.newTstAddr⟩]) v →
              Noted toeplitz iface ctx iutAddr tstAddr env j known v :=
            fun v based => ⟨_, rfl, based, .inr ⟨⟨⟨queue, indir⟩, missed⟩, last⟩⟩
          exact wp_mono (useConnection_wp tried.based j) (fun _ => noted) (fun _ v based => .inl (noted v based))
    · intro _ u ⟨based, stopped⟩
      exact .inr ⟨based.connections, fun exhausted => absurd exhausted.unusable stopped⟩

def HasEntry (j : Nat) (w : World) : Prop := ∃ connection ∈ w.connections, connection.entry = j

theorem testEntry_keeps (toeplitz : Toeplitz κ) (iface : Place → Iface) (ctx : Ctx κ) (env : Env) (n j : Nat) :
    (testEntry toeplitz iface ctx env n).Keeps (HasEntry j) := by
  intro w ⟨connection, member, entry⟩
  have based : Based w.newIutAddr w.newTstAddr w.connections w := ⟨rfl, rfl, rfl⟩
  apply wp_final (HasEntry j) (testEntry_wp based n)
  · rintro _ u ⟨added, -, after, -⟩
    exact ⟨connection, by simp [after.connections, member], entry⟩
  · rintro _ u (⟨added, -, after, -⟩ | ⟨same, -⟩)
    · exact ⟨connection, by simp [after.connections, member], entry⟩
    · exact ⟨connection, same ▸ member, entry⟩

variable {stale : Outputs}

theorem testEntries_succ (toeplitz : Toeplitz κ) (iface : Place → Iface) (ctx : Ctx κ) (env : Env) (n : Nat) :
    testEntries toeplitz iface ctx env (n + 1) =
      (do testEntries toeplitz iface ctx env n; testEntry toeplitz iface ctx env n) := forRange_succ _ n

theorem testEntries_hasEntry (run : testEntries toeplitz iface ctx env j (World.start iutAddr tstAddr stale) = (.ok (), w))
    (here : HasEntry j (testEntry toeplitz iface ctx env j w).2) (more : Nat) :
    HasEntry j (testEntries toeplitz iface ctx env (j + 1 + more) (World.start iutAddr tstAddr stale)).2 := by
  induction more with
  | zero =>
    rw [Nat.add_zero, testEntries_succ, bind_ok run]
    exact here
  | succ more ih =>
    rw [← Nat.add_assoc, testEntries_succ]
    cases before : testEntries toeplitz iface ctx env (j + 1 + more) (World.start iutAddr tstAddr stale) with
    | mk result u =>
      rw [before] at ih
      cases result with
      | ok _ =>
        rw [bind_ok before]
        exact testEntry_keeps toeplitz iface ctx env _ j u ih
      | error jump =>
        rw [bind_error before]
        exact ih

/-- No entry the test comes to has a search that is in vain and ends with ports that point to the entry. -/
def NoneHidden (toeplitz : Toeplitz κ) (iface : Place → Iface) (ctx : Ctx κ) (iutAddr tstAddr : SockAddr) (env : Env)
    (stale : Outputs) : Prop :=
  ∀ j, ComesTo toeplitz iface ctx iutAddr tstAddr env stale j → Exhausted toeplitz iface ctx iutAddr tstAddr env j →
    ¬LastPointsTo toeplitz ctx iutAddr tstAddr env j

theorem testEntries_based {n : Nat}
    (run : testEntries toeplitz iface ctx env n (World.start iutAddr tstAddr stale) = (.ok (), t)) :
    Based iutAddr tstAddr t.connections t := by
  induction n generalizing t with
  | zero =>
    obtain rfl : World.start iutAddr tstAddr stale = t := (Prod.mk.inj run).2
    exact ⟨rfl, rfl, rfl⟩
  | succ n ih =>
    rw [testEntries_succ] at run
    obtain ⟨_, u, before, last⟩ := bind_eq_ok run
    obtain ⟨connection, -, after, -⟩ := wp_ok (testEntry_wp (ih before) n) last
    exact ⟨after.iut, after.tst, rfl⟩

theorem Noted.found {known : List Connection} (noted : Noted toeplitz iface ctx iutAddr tstAddr env j known w)
    (visible : Exhausted toeplitz iface ctx iutAddr tstAddr env j → ¬LastPointsTo toeplitz ctx iutAddr tstAddr env j)
    (earlier : ∀ connection ∈ known, Found toeplitz ctx iutAddr tstAddr env connection) :
    ∀ connection ∈ w.connections, Found toeplitz ctx iutAddr tstAddr env connection := by
  obtain ⟨added, -, after, cause⟩ := noted
  rw [after.connections]
  simp only [List.forall_mem_append, List.forall_mem_singleton]
  rcases cause with here | ⟨exhausted, last⟩
  · exact ⟨earlier, here⟩
  · exact absurd last (visible exhausted)

theorem testEntries_found (none : NoneHidden toeplitz iface ctx iutAddr tstAddr env stale) {n : Nat}
    (below : n ≤ ctx.indirTableSize.toNat)
    (run : testEntries toeplitz iface ctx env n (World.start iutAddr tstAddr stale) = (.ok (), t)) :
    ∀ connection ∈ t.connections, Found toeplitz ctx iutAddr tstAddr env connection := by
  induction n generalizing t with
  | zero =>
    obtain rfl : World.start iutAddr tstAddr stale = t := (Prod.mk.inj run).2
    simp [World.start]
  | succ n ih =>
    rw [testEntries_succ] at run
    obtain ⟨_, u, before, last⟩ := bind_eq_ok run
    have noted := wp_ok (testEntry_wp (testEntries_based before) n) last
    exact noted.found (none n ⟨by omega, u, before⟩) (ih (by omega) before)

end

section
variable {κ : Type} (toeplitz : Toeplitz κ) (iface : Place → Iface) (ctx : Ctx κ) (iutAddr tstAddr : SockAddr)
  (env : Env) (stale : Outputs)

theorem hidden_connection {j : Nat} (comes : ComesTo toeplitz iface ctx iutAddr tstAddr env stale j)
    (exhausted : Exhausted toeplitz iface ctx iutAddr tstAddr env j)
    (last : LastPointsTo toeplitz ctx iutAddr tstAddr env j) :
    HasEntry j (hashKeyGet toeplitz iface ctx env (World.start iutAddr tstAddr stale)).2 := by
  obtain ⟨below, w, run⟩ := comes
  obtain ⟨more, size⟩ := Nat.exists_eq_add_of_le (Nat.succ_le_of_lt below)
  have here : HasEntry j (testEntry toeplitz iface ctx env j w).2 := by
    apply wp_final (HasEntry j) (testEntry_wp (testEntries_based run) j)
    · rintro _ u ⟨added, entry, after, -⟩
      exact ⟨added, by simp [after.connections], entry⟩
    · rintro _ u (⟨added, entry, after, -⟩ | ⟨-, stopped⟩)
      · exact ⟨added, by simp [after.connections], entry⟩
      · exact absurd last (stopped exhausted).2
  rw [hashKeyGet, size]
  exact testEntries_hasEntry run here more

theorem noticed_failure {j : Nat} (comes : ComesTo toeplitz iface ctx iutAddr tstAddr env stale j)
    (exhausted : Exhausted toeplitz iface ctx iutAddr tstAddr env j)
    (visible : ¬LastPointsTo toeplitz ctx iutAddr tstAddr env j) :
    (hashKeyGet toeplitz iface ctx env (World.start iutAddr tstAddr stale)).1 = .error (couldNotChoose j) := by
  obtain ⟨below, w, run⟩ := comes
  have unfound : ∀ u, ¬Noted toeplitz iface ctx iutAddr tstAddr env j w.connections u := by
    rintro u ⟨connection, rfl, -, ⟨i, here, usable, -⟩ | ⟨-, last⟩⟩
    · exact usable.not_unusable (exhausted.unusable i here)
    · exact visible last
  have stops : (testEntry toeplitz iface ctx env j).wp (fun _ _ => False) (fun jump _ => jump = couldNotChoose j) w := by
    apply wp_mono (testEntry_wp (testEntries_based run) j)
    · exact fun _ u noted => unfound u noted
    · rintro jump u (noted | ⟨-, stopped⟩)
      · exact absurd noted (unfound u)
      · exact (stopped exhausted).1
  unfold Script.wp at stops
  split at stops
  next => exact stops.elim
  next jump u failed =>
    have whole : hashKeyGet toeplitz iface ctx env (World.start iutAddr tstAddr stale) = (.error jump, u) :=
      forRange_error_iff.mpr ⟨j, below, w, run, failed⟩
    rw [whole, stops]

/-- The test uses the connections it found and no others, and stops if it finds none, exactly if no search
in vain ends with ports that point to its entry. -/
theorem testsUsable_iff :
    TestsUsable toeplitz iface ctx iutAddr tstAddr env stale ↔ NoneHidden toeplitz iface ctx iutAddr tstAddr env stale := by
  constructor
  · intro ⟨found, _⟩ j comes exhausted last
    obtain ⟨connection, member, rfl⟩ := hidden_connection toeplitz iface ctx iutAddr tstAddr env stale comes exhausted last
    obtain ⟨i, below, usable, -⟩ := found connection member
    exact usable.not_unusable (exhausted.unusable i below)
  · intro none
    refine ⟨?_, fun j comes exhausted =>
      noticed_failure toeplitz iface ctx iutAddr tstAddr env stale comes exhausted (none j comes exhausted)⟩
    cases run : hashKeyGet toeplitz iface ctx env (World.start iutAddr tstAddr stale) with
    | mk result t =>
      cases result with
      | ok _ => exact testEntries_found none (Nat.le_refl _) run
      | error jump =>
        obtain ⟨j, below, u, before, failed⟩ := forRange_error_iff.mp run
        have earlier := testEntries_found none (Nat.le_of_lt below) before
        rcases wp_error (testEntry_wp (testEntries_based before) j) failed with noted | ⟨same, -⟩
        · exact noted.found (none j ⟨below, u, before⟩) earlier
        · exact same ▸ earlier

end

/-- A context for the all-zero key, under which every hash is zero. -/
def zeroCtx : Ctx (List (BitVec 8)) :=
  ⟨⟨"Agt_A", "eth0", 0⟩, 2, 2, some (List.replicate 16 0), 16, some (List.replicate 16 0), .standard⟩

def busyHosts : Env where
  port _ _ _ := 20000
  portIsFree _ _ _ := .ok false
  genConnection _ := .ok ()
  sendCheckStats _ := .ok (.ok ())
  close _ _ := .ok ()

/-- The test comes to a connection for the first entry though no attempt found a free port. -/
theorem busyHosts_hidden :
    HasEntry 0 (hashKeyGet plainToeplitz (fun _ => twoEntries) zeroCtx busyHosts
        (World.start ⟨[10, 0, 0, 1], 0⟩ ⟨[10, 0, 0, 2], 0⟩ ⟨0, 0, 0⟩)).2 ∧
      ¬TestsUsable plainToeplitz (fun _ => twoEntries) zeroCtx ⟨[10, 0, 0, 1], 0⟩ ⟨[10, 0, 0, 2], 0⟩ busyHosts
        ⟨0, 0, 0⟩ := by
  have entry : ∀ i, entryOf plainToeplitz zeroCtx ⟨[10, 0, 0, 1], 0⟩ ⟨[10, 0, 0, 2], 0⟩ busyHosts 0 i = .ok 0 := by
    intro i
    show entryOf plainToeplitz zeroCtx ⟨[10, 0, 0, 1], 0⟩ ⟨[10, 0, 0, 2], 0⟩ busyHosts 0 0 = .ok 0
    decide +kernel
  have exhausted : Exhausted plainToeplitz (fun _ => twoEntries) zeroCtx ⟨[10, 0, 0, 1], 0⟩ ⟨[10, 0, 0, 2], 0⟩
      busyHosts 0 := ⟨⟨0, rfl⟩, fun i _ => ⟨0, entry i, fun _ => .inl rfl⟩⟩
  have hidden := hidden_connection plainToeplitz (fun _ => twoEntries) zeroCtx ⟨[10, 0, 0, 1], 0⟩ ⟨[10, 0, 0, 2], 0⟩
    busyHosts ⟨0, 0, 0⟩ ⟨by decide, _, rfl⟩ exhausted (entry _)
  refine ⟨hidden, fun ⟨found, _⟩ => ?_⟩
  obtain ⟨connection, member, -⟩ := hidden
  obtain ⟨i, -, usable, -⟩ := found connection member
  exact absurd usable.iut (by simp [busyHosts])

end NetDrv.Rss.HashKeyGet

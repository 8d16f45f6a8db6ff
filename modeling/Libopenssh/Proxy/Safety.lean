import Libopenssh.Proxy.Loop

/-! What every reachable state of the proxy satisfies: consistent session bookkeeping, no
callback on freed memory, descriptors accounted for, and nothing left waiting. -/
namespace Libopenssh.SshProxy

variable {base : List Int} {st : Proxy} {p : Nat} {s : Session} {o : Oracle}

/-! ### No callback runs on freed memory -/

theorem accept_cb_ne_fault : accept_cb o st ≠ .fault := by
  unfold accept_cb
  simp only
  split_ifs <;> simp

theorem connect_cb_ne_fault : connect_cb p s o st ≠ .fault := by
  unfold connect_cb
  simp only
  split_ifs <;> simp

theorem input_cb_ne_fault {T : Transport} {x : SideName} (hne : s.client.fd ≠ s.server.fd)
    (he : ((s.side x).ssh).isSome) : input_cb T (s.side x).fd p s o st ≠ .fault := by
  obtain ⟨e, he⟩ := Option.isSome_iff_exists.1 he
  unfold input_cb
  simp only [sideOf_fd hne]
  cases o.read <;> simp [he]

theorem output_cb_ne_fault {cfg : Config} {x : SideName} (hne : s.client.fd ≠ s.server.fd)
    (he : ((s.side x).ssh).isSome) : output_cb cfg (s.side x).fd p s o st ≠ .fault := by
  obtain ⟨e, he⟩ := Option.isSome_iff_exists.1 he
  unfold output_cb
  simp only [sideOf_fd hne, he]
  split_ifs
  · cases o.write
    · simp only
      split_ifs <;> simp
    · simp
    · simp
  · simp

/-- A registered event always finds its session alive and its callback set. -/
theorem Inv.dispatch_ne_fault {cfg : Config} {r : Ref} (hi : Inv base st) (hr : st.pending r = true) :
    dispatch cfg o st r ≠ .fault := by
  cases r with
  | listener => exact accept_cb_ne_fault
  | ev p x d =>
    cases hm : st.mem p with
    | none => simp [hi.dangling p x d hm] at hr
    | some s =>
      simp only [dispatch, hm]
      rcases hi.live p s hm with hc | hc
      · obtain ⟨rfl, rfl⟩ := (hc.pending x d).1 hr
        simp only [Session.side, Side.event, hc.connect]
        exact connect_cb_ne_fault
      · cases d
        · simp only [hc.event x .input, Dir.cb]
          exact input_cb_ne_fault (hi.client_ne_server hm) (hc.engine x)
        · simp only [hc.event x .output, Dir.cb]
          exact output_cb_ne_fault (hi.client_ne_server hm) (hc.engine x)

/-! ### Session bookkeeping and descriptors -/

/-- (a) the list holds exactly the connected sessions, which are those with both engines;
(b) registered events belong to live sessions, none is left for a closed one, none runs on
freed memory, and each session is closed at most once; (c) the open descriptors are exactly
those open at the start and the two held by each live session, each once, and no `close`
ever hit a descriptor that was not open. -/
def SessionsConsistent (cfg : Config) (base : List Int) (st : Proxy) : Prop :=
  ((∀ p, p ∈ st.sessions ↔ ∃ s, st.mem p = some s ∧ s.connected = 1) ∧
    ∀ p s, st.mem p = some s → (s.connected = 1 ↔ (s.client.ssh.isSome ∧ s.server.ssh.isSome))) ∧
  ((∀ p x d, st.pending (.ev p x d) = true → (st.mem p).isSome) ∧
    (∀ p, Act.close p ∈ st.trace → st.mem p = none ∧ ∀ x d, st.pending (.ev p x d) = false) ∧
    (∀ r o, st.pending r = true → dispatch cfg o st r ≠ .fault) ∧
    ∀ p, st.trace.count (.close p) ≤ 1) ∧
  (st.fds.Nodup ∧ st.badCloses = 0 ∧ List.Perm st.fds (base ++ held st))

theorem Inv.connected_iff (hi : Inv base st) (hs : st.mem p = some s) :
    s.connected = 1 ↔ (s.client.ssh.isSome ∧ s.server.ssh.isSome) := by
  rcases hi.live p s hs with hc | hc <;>
  · have h1 := hc.engine .client
    have h2 := hc.engine .server
    simp only [Session.side] at h1 h2
    simp [hc.connected, h1, h2]

theorem Inv.sessionsConsistent {cfg : Config} (hi : Inv base st) : SessionsConsistent cfg base st := by
  refine ⟨⟨fun p => ⟨hi.listed p, ?_⟩, fun p s hs => hi.connected_iff hs⟩,
    ⟨fun p x d hr => ?_, fun p hp => ⟨(hi.closed p hp).1, fun x d => hi.dangling p x d (hi.closed p hp).1⟩,
      fun r o hr => hi.dispatch_ne_fault hr, hi.closes_once⟩,
    ⟨hi.fds_nodup, hi.no_bad_close, hi.fds_held⟩⟩
  · rintro ⟨s, hs, hc⟩
    rcases hi.live p s hs with h | h
    · simp [h.connected] at hc
    · exact h.listed
  · cases hm : st.mem p with
    | none => simp [hi.dangling p x d hm] at hr
    | some s => rfl

theorem proxy_sessions_consistent (cfg : Config) (fds : List Int) (st : Proxy)
    (h : Reachable cfg fds st) : SessionsConsistent cfg fds.dedup st :=
  (Inv.reachable h).sessionsConsistent

theorem proxy_sessions_consistent_example :
    Reachable exampleCfg [0, 1, 2, 3] exampleRun ∧
      SessionsConsistent exampleCfg [0, 1, 2, 3].dedup exampleRun :=
  ⟨exampleRun_reachable, proxy_sessions_consistent _ _ _ exampleRun_reachable⟩

/-! ### Nothing queued is left without an event -/

/-- For a connected session: both readable events registered; every side with queued
output has its writable event registered; and a packet decoded on one side and not yet
taken leaves output queued, with its writable event registered, on the other side. -/
def NothingStalls (st : Proxy) : Prop :=
  ∀ p s, st.mem p = some s → s.connected = 1 →
    (∀ x, st.pending (.ev p x .input) = true) ∧
    (∀ x e, (s.side x).ssh = some e → e.out ≠ [] → st.pending (.ev p x .output) = true) ∧
    (∀ x e, (s.side x).ssh = some e → e.inbox ≠ [] →
      ∃ e', (s.side x.other).ssh = some e' ∧ e'.out ≠ [] ∧ st.pending (.ev p x.other .output) = true)

theorem Inv.nothingStalls (hi : Inv base st) : NothingStalls st := by
  intro p s hs hc
  rcases hi.live p s hs with h | h
  · simp [h.connected] at hc
  · refine ⟨h.input, h.covered.output, fun x e he hin => ?_⟩
    obtain ⟨e', he', hout⟩ := h.covered.inbox x e he hin
    exact ⟨e', he', hout, h.covered.output _ _ he' hout⟩

theorem proxy_nothing_stalls (cfg : Config) (fds : List Int) (st : Proxy)
    (h : Reachable cfg fds st) : NothingStalls st :=
  (Inv.reachable h).nothingStalls

theorem proxy_nothing_stalls_example :
    Reachable exampleCfg [0, 1, 2, 3] exampleRun ∧ NothingStalls exampleRun :=
  ⟨exampleRun_reachable, proxy_nothing_stalls _ _ _ exampleRun_reachable⟩

/-- `accept_cb` calls `fatal()` when `accept` fails (the `goto fail` after it is never
reached): the process ends, and with it the listener and every live session. -/
theorem accept_failure_exits (cfg : Config) (st : Proxy) (o : Oracle) (h : o.accept_ok = false) :
    dispatch cfg o st .listener = .exit "accept: %s" := by
  simp [dispatch, accept_cb, h]

theorem accept_failure_exits_example :
    Reachable exampleCfg [0, 1, 2, 3] exampleRun ∧ exampleRun.pending .listener = true ∧
      exampleRun.mem 0 = some exampleSession ∧
      dispatch exampleCfg { exampleOracle with accept_ok := false } exampleRun .listener =
        .exit "accept: %s" :=
  ⟨exampleRun_reachable, rfl, rfl, accept_failure_exits _ _ _ rfl⟩

end Libopenssh.SshProxy

import Libopenssh.Proxy.Invariant

/-! Each callback keeps the invariant, so every reachable state satisfies it. -/
namespace Libopenssh.SshProxy

variable {base : List Int} {st st' : Proxy} {p : Nat} {s : Session} {o : Oracle}

/-- A callback that allocated the session at `st.next`: it is left connecting, or freed
again, and nothing else changed. -/
theorem Inv.alloc (hi : Inv base st) {v : Option Session}
    (hmem : ∀ q, st'.mem q = Function.update st.mem st.next v q) (hnext : st'.next = st.next + 1)
    (hpend : ∀ r, (∀ x d, r ≠ .ev st.next x d) → st'.pending r = st.pending r)
    (hnone : v = none → ∀ x d, st'.pending (.ev st.next x d) = false)
    (hlive : ∀ s, v = some s → Connecting st' st.next s)
    (hsess : st'.sessions = st.sessions) (hfds : st'.fds = st.fds ++ (v.map Session.fds).getD [])
    (hnd : st'.fds.Nodup) (hbad : st'.badCloses = st.badCloses) (htr : st'.trace = st.trace) :
    Inv base st' := by
  have hp0 : st.mem st.next = none := hi.fresh _ le_rfl
  have hmem' : ∀ q, q ≠ st.next → st'.mem q = st.mem q := fun q hq => by simp [hmem, hq]
  refine ⟨?_, ?_, ?_, ?_, ?_, ?_, hnd, ?_, ?_, ?_, ?_⟩
  · rw [hpend _ (by simp)]; exact hi.listener
  · intro q hq
    rw [hmem' q (by omega)]
    exact hi.fresh q (by omega)
  · intro q x d hq
    by_cases hqp : q = st.next
    · subst hqp
      cases v with
      | none => exact hnone rfl x d
      | some t => simp [hmem] at hq
    · rw [hpend _ (by simp [hqp])]
      exact hi.dangling q x d (by rwa [← hmem' q hqp])
  · intro q t hq
    by_cases hqp : q = st.next
    · subst hqp
      simp only [hmem, Function.update_same] at hq
      exact .inl (hlive t hq)
    · have hfr : ∀ x d, st'.pending (.ev q x d) = st.pending (.ev q x d) :=
        fun x d => hpend _ (by simp [hqp])
      have hl : q ∈ st'.sessions ↔ q ∈ st.sessions := by rw [hsess]
      exact (hi.live q t (by rwa [← hmem' q hqp])).imp (·.frame hfr hl) (·.frame hfr hl)
  · intro q hq
    rw [hsess] at hq
    obtain ⟨t, ht, hc⟩ := hi.listed q hq
    have hqp : q ≠ st.next := by rintro rfl; simp [hp0] at ht
    exact ⟨t, by rw [hmem' q hqp]; exact ht, hc⟩
  · rw [hsess]; exact hi.sessions_nodup
  · have hv : heldBy st'.mem st.next = (v.map Session.fds).getD [] := by simp [heldBy, hmem]
    rw [hfds, held_succ hnext hmem', hv, ← List.append_assoc]
    exact hi.fds_held.append_right _
  · rw [hbad]; exact hi.no_bad_close
  · intro q hq
    rw [htr] at hq
    obtain ⟨h1, h2⟩ := hi.closed q hq
    exact ⟨by rw [hmem' q (by omega)]; exact h1, by omega⟩
  · intro q
    rw [htr]
    exact hi.closes_once q

theorem Inv.accept (hi : Inv base st) (h : accept_cb o (st.event_del .listener) = .run st') :
    Inv base st' := by
  have hL := hi.listener
  have hp0 : st.mem st.next = none := hi.fresh _ le_rfl
  have hfree : ∀ x d, st.pending (.ev st.next x d) = false := fun x d => hi.dangling _ x d hp0
  -- both failure branches free the new session again
  have freed : Inv base ((((({ st.event_del .listener with next := st.next + 1 } : Proxy).store
      st.next (some {})).event_add .listener).store st.next none)) := by
    refine hi.alloc (v := none) (fun q => ?_) (by simp) (fun r hr => ?_) (fun _ x d => by simp [hfree])
      (by simp) (by simp) (by simp) (by simpa using hi.fds_nodup) (by simp) (by simp)
    · by_cases hq : q = st.next <;> simp [Function.update_apply, hq]
    · by_cases hrl : r = .listener <;> simp [Function.update_apply, hrl, hL, hr]
  unfold accept_cb at h
  simp only at h
  split_ifs at h with h1 h2 h3
  · cases h
    rwa [accept_fail_openFd _ _ _ rfl]
  · rw [do_connect_neg h3] at h
    cases h
    rwa [accept_fail_openFd _ _ _ rfl]
  · obtain ⟨hn, hst⟩ := do_connect_nonneg h3
    rw [hst] at h
    cases h
    generalize (do_connect o.addrs _).1 = sfd at h3 hn ⊢
    have hc := lowestFree_not_mem st.fds
    have hc0 := lowestFree_nonneg st.fds
    have hunl : st.next ∉ st.sessions := fun hp => by
      obtain ⟨t, ht, -⟩ := hi.listed _ hp
      simp [hp0] at ht
    let sf : Session :=
      { client := { fd := lowestFree st.fds }, server := { fd := sfd, output := ⟨sfd, some .connect⟩ } }
    refine hi.alloc (v := some sf) (fun q => ?_) (by simp) (fun r hr => ?_) (fun h => absurd h (by simp)) (fun t ht => ?_)
      (by simp) (by simp [Proxy.openFd, Session.fds]) ?_ (by simp) (by simp)
    · by_cases hq : q = st.next <;> simp [Function.update_apply, hq, Proxy.openFd]
    · by_cases hrl : r = .listener <;> simp [Function.update_apply, hrl, hL, hr]
    · cases ht
      refine ⟨rfl, fun x => by cases x <;> rfl, fun x => ?_, rfl, fun x d => ?_, by simpa using hunl⟩
      · cases x <;> simp [Session.side] <;> omega
      · cases x <;> cases d <;> simp [Function.update_apply, hfree]
    · simp only [Proxy.event_add_fds, Proxy.store_fds, Proxy.openFd, Proxy.event_del_fds] at hn ⊢
      simp only [List.nodup_append, List.nodup_cons, List.not_mem_nil, List.nodup_nil,
        List.disjoint_singleton, List.mem_append, List.mem_singleton] at hn ⊢
      exact ⟨⟨hi.fds_nodup, by simp, hc⟩, by simp, hn⟩

theorem Inv.connect (hi : Inv base st) (hs : st.mem p = some s) (hc : Connecting st p s)
    (h : connect_cb p s o (st.event_del (.ev p .server .output)) = .run st') : Inv base st' := by
  have hsc := hc.fd .client
  have hss := hc.fd .server
  simp only [Session.side] at hsc hss
  unfold connect_cb at h
  simp only at h
  split_ifs at h with h1 h2 h3
  · cases h
    obtain ⟨hsm, hcm, hperm⟩ := perm_erase_pair ((hi.perm_free hs).trans
      ((List.Perm.swap s.server.fd s.client.fd []).append_left _)) hi.fds_nodup
    have hsm' : s.server.fd ∈ ((st.event_del (.ev p .server .output)).event_del
        (.ev p .server .output)).fds := by simpa using hsm
    have hcl := Proxy.close_of_mem hsm'
    have hcm' : s.client.fd ∈ ((((st.event_del (.ev p .server .output)).event_del
        (.ev p .server .output))).close s.server.fd).fds := by rw [hcl]; simpa using hcm
    have hfds := session_close_fds_client (p := p) (s := { s with server.fd := -1 }) hcm' (by simp; omega) rfl
    refine hi.free hs (fun q => ?_) (by simp) (fun r hr => ?_) (fun x d => ?_) ?_ ?_ ?_ ?_
      ⟨[], by simp, by simp⟩
    · by_cases hq : q = p <;> simp [Function.update_apply, hq]
    · rw [session_close_pending_of_ne (by simp [hc.connected])]
      simp [Function.update_apply, hr]
    · rw [session_close_pending_of_ne (by simp [hc.connected])]
      have := hc.pending x d
      by_cases hx : x = .server ∧ d = .output
      · obtain ⟨rfl, rfl⟩ := hx; simp
      · simp only [Proxy.close_pending, Proxy.event_del_pending, Function.update_apply]
        simp_all
    · rw [session_close_sessions, if_neg (by simp [hc.connected]), List.erase_of_not_mem hc.unlisted]
      simp
    · rw [hfds.1, hcl]; simpa using hperm
    · rw [hfds.1, hcl]; simpa using (hi.fds_nodup.erase _).erase _
    · rw [hfds.2, hcl]; simp
  · cases h
    refine hi.update hs (fun q hq => by simp [hq]) (Function.update_same _ _ _) rfl ⟨rfl, fun x => by cases x <;> rfl,
      fun x => by cases x <;> simpa [Session.side], fun x d => by cases x <;> cases d <;> rfl,
      fun x => by cases x <;> simp [Function.update_apply], ⟨fun x e he ho => ?_, fun x e he hi => ?_⟩,
      by simp⟩ (by simp) (fun r hr => ?_) (fun q hq => by simp [hq]) ?_ (by simp) (by simp)
      ⟨[], by simp, by simp⟩
    · cases x <;> simp [Session.side] at he <;> subst he <;> simp [ssh_init] at ho
    · cases x <;> simp [Session.side] at he <;> subst he <;> simp [ssh_init] at hi
    · simp only [Proxy.event_add_pending, Proxy.event_del_pending, Function.update_apply]
      simp [hr]
    · simpa [List.nodup_append] using ⟨hi.sessions_nodup, hc.unlisted⟩

/-- `input_cb` and `output_cb` find the side an event belongs to by its descriptor. -/
theorem sideOf_fd (hne : s.client.fd ≠ s.server.fd) (x : SideName) :
    (if (s.side x).fd = s.client.fd then SideName.client else .server) = x := by
  cases x
  · simp [Session.side]
  · simp [Session.side, Ne.symm hne]

theorem Inv.input {T : Transport} {x : SideName} (hi : Inv base st) (hs : st.mem p = some s)
    (hc : Connected st p s)
    (h : input_cb T (s.side x).fd p s o (st.event_del (.ev p x .input)) = .run st') : Inv base st' := by
  have ht : Touches p st ((st.event_del (.ev p x .input)).event_add (.ev p x .input)) :=
    (Touches.event_del x .input).trans (Touches.event_add x .input)
  have hin : ∀ y, ((st.event_del (.ev p x .input)).event_add (.ev p x .input)).pending
      (.ev p y .input) = true := fun y => by
    by_cases hy : y = x <;> simp [Function.update_apply, hy, hc.input]
  unfold input_cb at h
  simp only [sideOf_fd (hi.client_ne_server hs)] at h
  cases hread : o.read with
  | data decoded own =>
    obtain ⟨e, he⟩ := Option.isSome_iff_exists.1 (hc.engine x)
    simp only [hread, he] at h
    cases h
    exact hi.forward hs hc (ht.trans (Touches.log (by simp))) (by simpa using hin)
      ((Refit.self hc).setSsh x _) T x
  | again =>
    simp only [hread] at h
    cases h
    exact hi.forward hs hc ht hin (Refit.self hc) T x
  | eof | error =>
    simp only [hread] at h
    cases h
    exact hi.close (Touches.event_del x .input) hs hc

theorem Inv.output {cfg : Config} {x : SideName} (hi : Inv base st) (hs : st.mem p = some s)
    (hc : Connected st p s)
    (h : output_cb cfg (s.side x).fd p s o (st.event_del (.ev p x .output)) = .run st') :
    Inv base st' := by
  have hin : ∀ y, (st.event_del (.ev p x .output)).pending (.ev p y .input) = true := fun y => by
    simp [Function.update_apply, hc.input]
  have hfwd : ∀ {st₀ : Proxy} {s₀ : Session}, Touches p st st₀ →
      (∀ y, st₀.pending (.ev p y .input) = true) → Refit s s₀ →
      Inv base (forwardBoth cfg.T p x.other x s₀ st₀) := fun ht hin' hr => by
    simpa using hi.forward hs hc ht hin' hr cfg.T x.other
  have hdel : Touches p st (st.event_del (.ev p x .output)) := Touches.event_del x .output
  obtain ⟨e, he⟩ := Option.isSome_iff_exists.1 (hc.engine x)
  unfold output_cb at h
  simp only [sideOf_fd (hi.client_ne_server hs), he] at h
  split_ifs at h with holen
  · cases hw : o.write with
    | room k =>
      simp only [hw] at h
      split_ifs at h with hk
      · cases h
        exact hi.close (hdel.trans (Touches.log (by simp))) hs hc
      · cases h
        exact hfwd (hdel.trans (Touches.log (by simp))) (by simpa using hin)
          ((Refit.self hc).setSsh x _)
    | again =>
      simp only [hw] at h
      cases h
      exact hfwd ((hdel.trans (Touches.log (by simp))).trans (Touches.event_add x .output))
        (fun y => by simp [Function.update_apply, hc.input]) (Refit.self hc)
    | error =>
      simp only [hw] at h
      cases h
      exact hi.close (hdel.trans (Touches.log (by simp))) hs hc
  · cases h
    exact hfwd hdel hin (Refit.self hc)

/-- What one turn of the loop can be on a state with the invariant: `accept_cb`, or
`connect_cb` on a connecting session, or `input_cb` or `output_cb` on a connected one. -/
theorem Inv.step_cases {cfg : Config} (hi : Inv base st) (h : Step cfg st st') :
    (∃ o, accept_cb o (st.event_del .listener) = .run st') ∨
    (∃ p s o, st.mem p = some s ∧ Connecting st p s ∧
      connect_cb p s o (st.event_del (.ev p .server .output)) = .run st') ∨
    (∃ p s o x, st.mem p = some s ∧ Connected st p s ∧
      input_cb cfg.T (s.side x).fd p s o (st.event_del (.ev p x .input)) = .run st') ∨
    (∃ p s o x, st.mem p = some s ∧ Connected st p s ∧
      output_cb cfg (s.side x).fd p s o (st.event_del (.ev p x .output)) = .run st') := by
  obtain ⟨r, o, hr, hd⟩ := h
  cases r with
  | listener => exact .inl ⟨o, hd⟩
  | ev p x d =>
    cases hm : st.mem p with
    | none => simp [hi.dangling p x d hm] at hr
    | some s =>
      simp only [dispatch, hm] at hd
      rcases hi.live p s hm with hc | hc
      · obtain ⟨rfl, rfl⟩ := (hc.pending x d).1 hr
        simp only [Session.side, Side.event, hc.connect] at hd
        exact .inr (.inl ⟨p, s, o, hm, hc, hd⟩)
      · cases d
        · simp only [hc.event x .input, Dir.cb] at hd
          exact .inr (.inr (.inl ⟨p, s, o, x, hm, hc, hd⟩))
        · simp only [hc.event x .output, Dir.cb] at hd
          exact .inr (.inr (.inr ⟨p, s, o, x, hm, hc, hd⟩))

/-- One turn of the event loop keeps the invariant. -/
theorem Inv.step {cfg : Config} (hi : Inv base st) (h : Step cfg st st') : Inv base st' := by
  rcases hi.step_cases h with ⟨o, h⟩ | ⟨p, s, o, hs, hc, h⟩ | ⟨p, s, o, x, hs, hc, h⟩ |
    ⟨p, s, o, x, hs, hc, h⟩
  exacts [hi.accept h, hi.connect hs hc h, hi.input hs hc h, hi.output hs hc h]

theorem Inv.initial (fds : List Int) : Inv fds.dedup (init fds) where
  listener := by simp [init]
  fresh _ _ := rfl
  dangling _ _ _ _ := by simp [init]
  live _ _ h := by simp [init] at h
  listed _ h := by simp [init] at h
  sessions_nodup := List.nodup_nil
  fds_nodup := List.nodup_dedup fds
  fds_held := by simp [init, held]
  no_bad_close := rfl
  closed _ h := by simp [init] at h
  closes_once _ := by simp [init]

/-- Every reachable state satisfies the invariant. -/
theorem Inv.reachable {cfg : Config} {fds : List Int} (h : Reachable cfg fds st) : Inv fds.dedup st := by
  induction h with
  | refl => exact Inv.initial fds
  | tail _ hstep ih => exact ih.step hstep

/-! ### An example run -/

/-- A transport that frames a packet as its type byte followed by its payload, on a
little-endian machine. -/
def exampleCfg : Config := ⟨⟨fun pkt => pkt.type :: pkt.payload, fun _ => List.cons_ne_nil _ _⟩, .little⟩

/-- Every call succeeds; a read makes the engine queue one byte of its own; the stack left
1 in the high half of `olen`; the socket takes two bytes. -/
def exampleOracle : Oracle where
  accept_ok := true
  fcntl_ok := true
  addrs := some [.socket true true]
  soerr := 0
  hostkey_ok := true
  known_hostkey_ok := true
  read := .data [] [7]
  olen := 2 ^ 32
  write := .room 2
  beyond := fun _ => 0

/-- The state the callback of `r` leaves, or `st` if it does not return. -/
def fire (cfg : Config) (o : Oracle) (r : Ref) (st : Proxy) : Proxy :=
  match dispatch cfg o st r with
  | .run st' => st'
  | _ => st

/-- Descriptors 0 to 3 open; a client connects on 4, the proxy reaches the server on 5,
and the client's engine queues one byte of its own. -/
def exampleRun : Proxy :=
  fire exampleCfg exampleOracle (.ev 0 .client .input) <|
    fire exampleCfg exampleOracle (.ev 0 .server .output) <|
      fire exampleCfg exampleOracle .listener (init [0, 1, 2, 3])

/-- The session of `exampleRun`. -/
def exampleSession : Session where
  client := { fd := 4, input := ⟨4, some .input⟩, output := ⟨4, some .output⟩, ssh := some ⟨[], [7]⟩ }
  server := { fd := 5, input := ⟨5, some .input⟩, output := ⟨5, some .output⟩, ssh := some ⟨[], []⟩ }
  connected := 1

/-- Firing a registered event whose callback returns is a step. -/
theorem Reachable.tail_fire {cfg : Config} {fds : List Int} {st : Proxy} (h : Reachable cfg fds st) (o : Oracle)
    (r : Ref) (hr : st.pending r = true) (hd : ∃ st', dispatch cfg o st r = .run st') :
    Reachable cfg fds (fire cfg o r st) := by
  obtain ⟨st', hd⟩ := hd
  exact .tail h ⟨r, o, hr, by simp [SshProxy.fire, hd]⟩

theorem exampleRun_reachable : Reachable exampleCfg [0, 1, 2, 3] exampleRun :=
  have h₀ : Reachable exampleCfg [0, 1, 2, 3] (init [0, 1, 2, 3]) := .refl
  ((h₀.tail_fire exampleOracle .listener rfl ⟨_, rfl⟩).tail_fire exampleOracle
    (.ev 0 .server .output) rfl ⟨_, rfl⟩).tail_fire exampleOracle (.ev 0 .client .input) rfl ⟨_, rfl⟩

end Libopenssh.SshProxy

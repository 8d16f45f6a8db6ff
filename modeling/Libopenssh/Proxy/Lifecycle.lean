import Libopenssh.Proxy.Isolation
import Libopenssh.Proxy.Delivery

/-! The life of a session in `ssh-proxy`: made by `accept_cb`, connected by `connect_cb`,
freed by `session_close`. The model names a session by its allocation number, so `phase`
below is the life of one session, not of a reusable heap address; while a session is
allocated it keeps its two descriptors and, once connected, stays connected. From every
reachable state the next session can still be taken through that life. -/
namespace Libopenssh.SshProxy

/-- Where a session is in its life. -/
inductive Phase where
  /-- Not made yet. -/
  | fresh
  /-- Between `accept_cb` and `connect_cb`. -/
  | connecting
  | connected
  /-- Freed by `accept_cb`'s `fail:` label or by `session_close`. -/
  | closed
  deriving DecidableEq

def phase (st : Proxy) (p : Nat) : Phase :=
  if st.next ≤ p then .fresh else
  match st.mem p with
  | none => .closed
  | some s => if s.connected = 1 then .connected else .connecting

/-- The session at `p` is freed, or still holds the descriptors of `s` and is connected if
`s` was. -/
def Kept (p : Nat) (s : Session) (st : Proxy) : Prop :=
  st.mem p = none ∨ ∃ s', st.mem p = some s' ∧ s'.fds = s.fds ∧ (s.connected = 1 → s'.connected = 1)

section Phases

variable {st : Proxy} {p : Nat} {s : Session}

theorem phase_of_some (hn : p < st.next) (hs : st.mem p = some s) :
    phase st p = if s.connected = 1 then .connected else .connecting := by
  simp [phase, hs, Nat.not_le.2 hn]

theorem Kept.of_mem (h : st.mem p = some s) : Kept p s st := .inr ⟨s, h, rfl, id⟩

end Phases

/-! ### What a callback does to its own session -/

section Callbacks

variable {T : Transport} {cfg : Config} {p : Nat} {s : Session} {o : Oracle} {st st' : Proxy}
  {fd : Int}

@[simp] theorem forwardBoth_next (a b : SideName) : (forwardBoth T p a b s st).next = st.next :=
  (forwardBoth_touches a b).next

theorem ssh_packet_fwd_session (a b : SideName) :
    (ssh_packet_fwd T p a b s st).1.fds = s.fds ∧
      (ssh_packet_fwd T p a b s st).1.connected = s.connected := by
  unfold ssh_packet_fwd
  split
  · simp
  · exact ⟨rfl, rfl⟩

theorem forwardBoth_kept (a b : SideName) : Kept p s (forwardBoth T p a b s st) := by
  have h1 := @ssh_packet_fwd_session T p s st a b
  have h2 := @ssh_packet_fwd_session T p (ssh_packet_fwd T p a b s st).1
    (ssh_packet_fwd T p a b s st).2 b a
  exact .inr ⟨_, by simp [forwardBoth], h2.1.trans h1.1, fun h => (h2.2.trans h1.2).trans h⟩

theorem session_close_kept : Kept p s (session_close p s' st) := .inl (by simp)

theorem connect_cb_step (h : connect_cb p s o st = .run st') :
    st'.next = st.next ∧ Kept p s st' := by
  unfold connect_cb at h
  simp only at h
  split_ifs at h
  · cases h
    exact ⟨by simp, .inl (by simp)⟩
  · cases h
    exact ⟨by simp, .inr ⟨_, Function.update_same _ _ _, rfl, fun _ => rfl⟩⟩

theorem input_cb_step (h : input_cb T fd p s o st = .run st') :
    st'.next = st.next ∧ Kept p s st' := by
  unfold input_cb at h
  generalize (if fd = s.client.fd then SideName.client else .server) = r at h
  split at h
  · cases h
    exact ⟨by simp, forwardBoth_kept _ _⟩
  · cases h
    exact ⟨by simp, session_close_kept⟩
  · cases h
    exact ⟨by simp, session_close_kept⟩
  · dsimp only at h
    split at h
    · cases h
    · cases h
      refine ⟨by simp, ?_⟩
      rcases @forwardBoth_kept T p (s.setSsh r _)
        ((st.event_add (.ev p r .input)).log [.append p r _ _]) r r.other with h | ⟨s', h, hf, hc⟩
      · exact .inl h
      · exact .inr ⟨s', h, by simpa using hf, by simpa using hc⟩

theorem output_cb_step (h : output_cb cfg fd p s o st = .run st') :
    st'.next = st.next ∧ Kept p s st' := by
  unfold output_cb at h
  generalize (if fd = s.client.fd then SideName.client else .server) = w at h
  cases he : (s.side w).ssh with
  | none => simp only [he] at h; cases h
  | some e =>
    simp only [he] at h
    split_ifs at h
    · cases hw : o.write <;> simp only [hw] at h
      · split_ifs at h
        · cases h
          exact ⟨by simp, session_close_kept⟩
        · cases h
          refine ⟨by simp, ?_⟩
          rcases @forwardBoth_kept cfg.T p (s.setSsh w _) (st.log _) w.other w with
            h | ⟨s', h, hf, hc⟩
          · exact .inl h
          · exact .inr ⟨s', h, by simpa using hf, by simpa using hc⟩
      · cases h
        exact ⟨by simp, forwardBoth_kept _ _⟩
      · cases h
        exact ⟨by simp, session_close_kept⟩
    · cases h
      exact ⟨by simp, forwardBoth_kept _ _⟩

end Callbacks

/-! ### Along the event loop -/

section Steps

variable {base : List Int} {cfg : Config} {st st' : Proxy}

/-- Every turn runs for one address: it moves `next` forward, leaves every other address
alone, and at its own either hands out a fresh address or keeps the session there. -/
theorem Inv.step_actor (hi : Inv base st) (h : Step cfg st st') :
    ∃ p, st.next ≤ st'.next ∧ (∀ q, q ≠ p → st'.mem q = st.mem q) ∧
      (st.next ≤ p ∨ ∃ s, st.mem p = some s ∧ Kept p s st') := by
  rcases hi.step_cases h with ⟨o, h⟩ | ⟨p, s, o, hs, -, h⟩ | ⟨p, s, o, x, hs, -, h⟩ |
    ⟨p, s, o, x, hs, -, h⟩
  · obtain ⟨-, hn, hm, -⟩ := accept_cb_run h
    exact ⟨st.next, by simp [hn], hm, .inl le_rfl⟩
  · obtain ⟨hn, hk⟩ := connect_cb_step h
    exact ⟨p, hn.ge, (connect_cb_isolated h).mem, .inr ⟨s, hs, hk⟩⟩
  · obtain ⟨hn, hk⟩ := input_cb_step h
    exact ⟨p, hn.ge, (input_cb_isolated h).mem, .inr ⟨s, hs, hk⟩⟩
  · obtain ⟨hn, hk⟩ := output_cb_step h
    exact ⟨p, hn.ge, (output_cb_isolated h).mem, .inr ⟨s, hs, hk⟩⟩

/-- A session alive before a turn is freed by it or keeps its descriptors. -/
theorem Inv.step_kept (hi : Inv base st) (h : Step cfg st st') (q : Nat) (s : Session)
    (hs : st.mem q = some s) : Kept q s st' := by
  obtain ⟨p, -, hm, hp⟩ := hi.step_actor h
  by_cases hq : q = p
  · subst hq
    rcases hp with hp | ⟨s', hs', hk⟩
    · simp [hi.fresh q hp] at hs
    · exact Option.some.inj (hs'.symm.trans hs) ▸ hk
  · exact Kept.of_mem ((hm q hq).trans hs)

end Steps

/-- Along every stretch of a run from a reachable state in which the session at `p` stays
allocated, it keeps its two descriptors, and once connected it stays connected. -/
theorem session_lifecycle (cfg : Config) (fds : List Int) (p : Nat) (st st' : Proxy)
    (hr : Reachable cfg fds st)
    (h : Relation.ReflTransGen (fun a b => Step cfg a b ∧ (b.mem p).isSome) st st')
    (s : Session) (hs : st.mem p = some s) :
    ∃ s', st'.mem p = some s' ∧ s'.fds = s.fds ∧ (s.connected = 1 → s'.connected = 1) := by
  induction h with
  | refl => exact ⟨s, hs, rfl, id⟩
  | tail hrun hstep ih =>
    obtain ⟨s₁, h₁, hf₁, hc₁⟩ := ih
    have hi := Inv.reachable (hr.trans (hrun.mono fun _ _ h => h.1))
    rcases hi.step_kept hstep.1 p s₁ h₁ with hn | ⟨s₂, h₂, hf₂, hc₂⟩
    · simp [hn] at hstep
    · exact ⟨s₂, h₂, hf₂.trans hf₁, hc₂ ∘ hc₁⟩

theorem session_lifecycle_exampleRun :
    ∃ s s', (fire exampleCfg exampleOracle .listener (init [0, 1, 2, 3])).mem 0 = some s ∧
      exampleRun.mem 0 = some s' ∧ s'.fds = s.fds ∧ (s.connected = 1 → s'.connected = 1) := by
  have hr : Reachable exampleCfg [0, 1, 2, 3]
      (fire exampleCfg exampleOracle .listener (init [0, 1, 2, 3])) :=
    Reachable.tail_fire .refl exampleOracle .listener rfl ⟨_, rfl⟩
  have hrun : Relation.ReflTransGen (fun a b => Step exampleCfg a b ∧ (b.mem 0).isSome)
      (fire exampleCfg exampleOracle .listener (init [0, 1, 2, 3])) exampleRun :=
    .tail (.single ⟨⟨.ev 0 .server .output, exampleOracle, rfl, rfl⟩, rfl⟩)
      ⟨⟨.ev 0 .client .input, exampleOracle, rfl, rfl⟩, rfl⟩
  obtain ⟨s', h₁, h₂, h₃⟩ := session_lifecycle exampleCfg [0, 1, 2, 3] 0 _ _ hr hrun _ rfl
  exact ⟨_, s', rfl, h₁, h₂, h₃⟩

/-! ### Serving one more client -/

/-- `accept_cb` when `accept`, `fcntl` and the connection to the server succeed: the next
address holds a session waiting on `connect_cb`. -/
theorem accept_cb_serves (st : Proxy) :
    ∃ st' s, accept_cb exampleOracle st = .run st' ∧ st'.next = st.next + 1 ∧
      st'.mem st.next = some s ∧ st'.pending (.ev st.next .server .output) = true ∧
      s.server.output.cb = some .connect := by
  unfold accept_cb
  simp [exampleOracle, do_connect, do_connect_loop, not_lt.2 (lowestFree_nonneg _)]

/-- `connect_cb` when the connection succeeded and both host keys load: the session is
connected. -/
theorem connect_cb_serves (p : Nat) (s : Session) (st : Proxy) :
    ∃ st' s', connect_cb p s exampleOracle st = .run st' ∧ st'.next = st.next ∧
      st'.mem p = some s' ∧ s'.connected = 1 := by
  unfold connect_cb
  simp [exampleOracle]

/-- The loop never loses the listener: from every reachable state two turns, `accept_cb`
and then `connect_cb` on the socket it opened, leave the next address connected. -/
theorem new_client_connects (cfg : Config) (fds : List Int) (st : Proxy)
    (hr : Reachable cfg fds st) :
    ∃ st', Relation.ReflTransGen (Step cfg) st st' ∧ phase st' st.next = .connected := by
  obtain ⟨st₁, s, h₁, hn₁, hs, hp, hcb⟩ := accept_cb_serves (st.event_del .listener)
  simp only [Proxy.event_del_next] at hn₁ hs hp
  obtain ⟨st₂, s', h₂, hn₂, hs', hc'⟩ :=
    connect_cb_serves st.next s (st₁.event_del (.ev st.next .server .output))
  have hd : dispatch cfg exampleOracle st₁ (.ev st.next .server .output) = .run st₂ := by
    simpa [dispatch, hs, Session.side, Side.event, hcb] using h₂
  refine ⟨st₂, .tail (.single ⟨.listener, exampleOracle, (Inv.reachable hr).listener, h₁⟩)
    ⟨_, exampleOracle, hp, hd⟩, ?_⟩
  rw [phase_of_some (by simp [hn₂, hn₁]) hs', if_pos hc']

theorem new_client_connects_init :
    ∃ st', Relation.ReflTransGen (Step exampleCfg) (init [0, 1, 2, 3]) st' ∧
      phase st' (init [0, 1, 2, 3]).next = .connected :=
  new_client_connects exampleCfg [0, 1, 2, 3] _ .refl

end Libopenssh.SshProxy

import Libopenssh.Proxy.Loop

/-! Sessions are isolated: a callback changes only the session it runs for, so a session no
callback runs for keeps its engines, its events, its place on the list and its sockets. -/
namespace Libopenssh.SshProxy

/-- The session a callback runs for: the event's own, or the one `accept_cb` allocates. -/
def Ref.actor (st : Proxy) : Ref → Nat
  | .listener => st.next
  | .ev p _ _ => p

/-- `st'` agrees with `st` on every session but `p`: its memory, its events and its place
on the list. -/
structure Isolated (p : Nat) (st st' : Proxy) : Prop where
  mem : ∀ q, q ≠ p → st'.mem q = st.mem q
  pending : ∀ q, q ≠ p → ∀ x d, st'.pending (.ev q x d) = st.pending (.ev q x d)
  listed : ∀ q, q ≠ p → (q ∈ st'.sessions ↔ q ∈ st.sessions)

namespace Isolated

variable {p : Nat} {st st' st'' : Proxy}

theorem refl (p : Nat) (st : Proxy) : Isolated p st st :=
  ⟨fun _ _ => rfl, fun _ _ _ _ => rfl, fun _ _ => Iff.rfl⟩

theorem trans (h : Isolated p st st') (h' : Isolated p st' st'') : Isolated p st st'' :=
  ⟨fun q hq => (h'.mem q hq).trans (h.mem q hq),
    fun q hq x d => (h'.pending q hq x d).trans (h.pending q hq x d),
    fun q hq => (h'.listed q hq).trans (h.listed q hq)⟩

/-- A change to the descriptors, the counters or the calls alone. -/
theorem of_eq (hm : st'.mem = st.mem) (hp : st'.pending = st.pending)
    (hs : st'.sessions = st.sessions) : Isolated p st st' :=
  ⟨fun _ _ => by rw [hm], fun _ _ _ _ => by rw [hp], fun _ _ => by rw [hs]⟩

theorem of_touches (h : Touches p st st') : Isolated p st st' :=
  ⟨h.mem, fun _ hq _ _ => h.pending _ fun _ _ he => hq (Ref.ev.inj he).1,
    fun _ _ => by rw [h.sessions]⟩

theorem close (fd : Int) : Isolated p st (st.close fd) :=
  ⟨fun _ _ => by simp, fun _ _ _ _ => by simp, fun _ _ => by simp⟩

theorem event_listener (b : Bool) :
    Isolated p st { st with pending := Function.update st.pending .listener b } :=
  ⟨fun _ _ => rfl, fun _ _ _ _ => by simp [Function.update_apply], fun _ _ => Iff.rfl⟩

theorem session_close (s : Session) : Isolated p st (session_close p s st) := by
  refine ⟨fun q hq => by simp [hq], fun q hq x d => session_close_pending_other (by simp [hq]),
    fun q hq => ?_⟩
  rw [session_close_sessions]
  split_ifs
  · exact List.mem_erase_of_ne hq
  · exact Iff.rfl

end Isolated

/-! ### Each callback -/

section Callbacks

variable {T : Transport} {cfg : Config} {p : Nat} {s : Session} {o : Oracle} {st st' : Proxy}
  {fd : Int}

theorem ssh_packet_fwd_touches (a b : SideName) : Touches p st (ssh_packet_fwd T p a b s st).2 := by
  unfold ssh_packet_fwd
  split
  · dsimp only
    split
    · exact ((Touches.log (by simp)).trans (Touches.armOutput _ _)).trans (Touches.armOutput _ _)
    · exact (Touches.armOutput _ _).trans (Touches.armOutput _ _)
  · exact Touches.refl p st

theorem forwardBoth_touches (a b : SideName) : Touches p st (forwardBoth T p a b s st) :=
  (ssh_packet_fwd_touches a b).trans ((ssh_packet_fwd_touches b a).trans (Touches.store _))

theorem connect_cb_isolated (h : connect_cb p s o st = .run st') : Isolated p st st' := by
  have hdel : Isolated p st (st.event_del (.ev p .server .output)) :=
    Isolated.of_touches (Touches.event_del _ _)
  unfold connect_cb at h
  simp only at h
  split_ifs at h
  · cases h
    exact hdel.trans ((Isolated.close _).trans (Isolated.session_close _))
  · cases h
    exact hdel.trans ⟨fun q hq => by simp [hq],
      fun q hq x d => by simp [Function.update_apply, hq], fun q hq => by simp [hq]⟩

theorem input_cb_isolated (h : input_cb T fd p s o st = .run st') : Isolated p st st' := by
  unfold input_cb at h
  generalize (if fd = s.client.fd then SideName.client else .server) = r at h
  split at h
  · cases h
    exact Isolated.of_touches ((Touches.event_add _ _).trans (forwardBoth_touches _ _))
  · cases h
    exact Isolated.session_close s
  · cases h
    exact Isolated.session_close s
  · dsimp only at h
    split at h
    · cases h
    · cases h
      exact Isolated.of_touches (((Touches.event_add _ _).trans (Touches.log (by simp))).trans
        (forwardBoth_touches _ _))

theorem output_cb_isolated (h : output_cb cfg fd p s o st = .run st') : Isolated p st st' := by
  have hlog : ∀ {acts : List Act}, (∀ q, Act.close q ∉ acts) →
      Isolated p st (st.log acts) :=
    fun h => Isolated.of_touches (Touches.log h)
  unfold output_cb at h
  generalize (if fd = s.client.fd then SideName.client else .server) = w at h
  cases he : (s.side w).ssh with
  | none => simp only [he] at h; cases h
  | some e =>
    simp only [he] at h
    split_ifs at h
    · cases hw : o.write <;> simp only [hw] at h
      · split_ifs at h
        · cases h
          exact (hlog (by simp)).trans (Isolated.session_close s)
        · cases h
          exact Isolated.of_touches ((Touches.log (by simp)).trans (forwardBoth_touches _ _))
      · cases h
        exact Isolated.of_touches (((Touches.log (by simp)).trans (Touches.event_add _ _)).trans
          (forwardBoth_touches _ _))
      · cases h
        exact (hlog (by simp)).trans (Isolated.session_close s)
    · cases h
      exact Isolated.of_touches (forwardBoth_touches _ _)

theorem accept_cb_isolated (h : accept_cb o st = .run st') : Isolated st.next st st' := by
  -- allocating the session, re-adding the listener and opening the client socket
  have halloc : Isolated st.next st
      ((({ st with next := st.next + 1 } : Proxy).store st.next (some {})).event_add
        .listener).openFd.2 :=
    ((Isolated.of_eq rfl rfl rfl).trans (Isolated.of_touches (Touches.store _))).trans
      ((Isolated.event_listener true).trans (Isolated.of_eq rfl rfl rfl))
  have hfail : ∀ {st₀ : Proxy} (s : Session), Isolated st.next st st₀ →
      Isolated st.next st (accept_fail st.next s st₀) := fun s h₀ => by
    unfold accept_fail
    split_ifs
    · exact (h₀.trans (Isolated.close _)).trans (Isolated.of_touches (Touches.store _))
    · exact h₀.trans (Isolated.of_touches (Touches.store _))
  unfold accept_cb at h
  simp only at h
  split_ifs at h with h1 h2 h3
  · cases h
    exact hfail _ halloc
  · cases h
    rcases do_connect_eq o.addrs _ with hd | ⟨sock, -, -, hd⟩ <;> rw [hd] <;>
      exact hfail _ (halloc.trans (Isolated.of_eq rfl rfl rfl))
  · cases h
    have hdone : ∀ {st₀ : Proxy} (v : Option Session), Isolated st.next st st₀ →
        Isolated st.next st ((st₀.store st.next v).event_add (.ev st.next .server .output)) :=
      fun _ h₀ =>
        h₀.trans (Isolated.of_touches ((Touches.store _).trans (Touches.event_add _ _)))
    rcases do_connect_eq o.addrs _ with hd | ⟨sock, -, -, hd⟩ <;> rw [hd] <;>
      exact hdone _ (halloc.trans (Isolated.of_eq rfl rfl rfl))

/-- One turn of the loop changes no session but the one its callback runs for. -/
theorem dispatch_isolated {r : Ref} (h : dispatch cfg o st r = .run st') :
    Isolated (r.actor st) st st' := by
  cases r with
  | listener => exact (Isolated.event_listener false).trans (accept_cb_isolated h)
  | ev p x d =>
    simp only [dispatch] at h
    split at h
    · cases h
    · have hdel : Isolated p st (st.event_del (.ev p x d)) :=
        Isolated.of_touches (Touches.event_del _ _)
      split at h
      · exact hdel.trans (connect_cb_isolated h)
      · exact hdel.trans (input_cb_isolated h)
      · exact hdel.trans (output_cb_isolated h)
      · cases h

end Callbacks

/-! ### Runs that leave a session alone -/

/-- A turn of the loop whose callback runs for a session other than `q`. -/
def StepAvoiding (cfg : Config) (q : Nat) (st st' : Proxy) : Prop :=
  ∃ r o, st.pending r = true ∧ r.actor st ≠ q ∧ dispatch cfg o st r = .run st'

section Runs

variable {cfg : Config} {q : Nat} {st st' : Proxy}

theorem StepAvoiding.step (h : StepAvoiding cfg q st st') : Step cfg st st' :=
  let ⟨r, o, hr, _, hd⟩ := h
  ⟨r, o, hr, hd⟩

/-- Turns of the loop that do not run for `q` leave its memory, its events and its list entry
as they were. -/
theorem StepAvoiding.run (h : Relation.ReflTransGen (StepAvoiding cfg q) st st') :
    st'.mem q = st.mem q ∧ (∀ x d, st'.pending (.ev q x d) = st.pending (.ev q x d)) ∧
      (q ∈ st'.sessions ↔ q ∈ st.sessions) := by
  induction h with
  | refl => exact ⟨rfl, fun _ _ => rfl, Iff.rfl⟩
  | tail _ hstep ih =>
    obtain ⟨r, o, -, hq, hd⟩ := hstep
    have hi := dispatch_isolated hd
    exact ⟨(hi.mem q (Ne.symm hq)).trans ih.1,
      fun x d => (hi.pending q (Ne.symm hq) x d).trans (ih.2.1 x d),
      (hi.listed q (Ne.symm hq)).trans ih.2.2⟩

end Runs

/-- Session isolation over any stretch of the proxy's event loop from a reachable state: while
no callback runs for session `q` (none of its four events fires, and `accept_cb` allocates
another address), its memory (engines, descriptors, events, state) stays as it was, so do its
registered events and its place on the `sessions` list, and both its sockets stay open. -/
theorem session_untouched (cfg : Config) (fds : List Int) (q : Nat) (st st' : Proxy)
    (hr : Reachable cfg fds st) (h : Relation.ReflTransGen (StepAvoiding cfg q) st st') :
    st'.mem q = st.mem q ∧ (∀ x d, st'.pending (.ev q x d) = st.pending (.ev q x d)) ∧
      (q ∈ st'.sessions ↔ q ∈ st.sessions) ∧
      ∀ s, st.mem q = some s → ∀ fd ∈ s.fds, fd ∈ st'.fds := by
  obtain ⟨hm, hp, hl⟩ := StepAvoiding.run h
  refine ⟨hm, hp, hl, fun s hs fd hfd => ?_⟩
  have hi := Inv.reachable (hr.trans (h.mono fun _ _ => StepAvoiding.step))
  rw [← hm] at hs
  have hheld := (fds_sublist_held (hi.lt_next hs) hs).subset hfd
  exact hi.fds_held.mem_iff.2 (List.mem_append_right _ hheld)

/-- A second client connecting leaves the sockets of the first session open. -/
theorem session_untouched_second_client :
    4 ∈ (fire exampleCfg exampleOracle .listener exampleRun).fds ∧
      5 ∈ (fire exampleCfg exampleOracle .listener exampleRun).fds :=
  have h := (session_untouched exampleCfg [0, 1, 2, 3] 0 exampleRun _ exampleRun_reachable
    (.single ⟨.listener, exampleOracle, rfl, by decide, rfl⟩)).2.2.2 exampleSession rfl
  ⟨h 4 (by simp [Session.fds, exampleSession]), h 5 (by simp [Session.fds, exampleSession])⟩

end Libopenssh.SshProxy

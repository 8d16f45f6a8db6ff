import Libopenssh.Proxy.Ops

/-! The invariant of the session machine, kept by every turn of the event loop. -/
namespace Libopenssh.SshProxy

variable {base : List Int} {st st' st₀ : Proxy} {p : Nat} {s s' : Session}

/-- A session between `accept_cb` and `connect_cb`: both sockets open, no engines, and
only the writable event that runs `connect_cb` registered. -/
structure Connecting (st : Proxy) (p : Nat) (s : Session) : Prop where
  connected : s.connected = 0
  engine : ∀ x, (s.side x).ssh = none
  fd : ∀ x, 0 ≤ (s.side x).fd
  connect : s.server.output = ⟨s.server.fd, some .connect⟩
  pending : ∀ x d, st.pending (.ev p x d) = true ↔ x = .server ∧ d = .output
  unlisted : p ∉ st.sessions

/-- A connected session: both engines up, its four events set on its own descriptors,
both readable events registered, everything queued covered, and on the list. -/
structure Connected (st : Proxy) (p : Nat) (s : Session) : Prop where
  connected : s.connected = 1
  engine : ∀ x, ((s.side x).ssh).isSome
  fd : ∀ x, 0 ≤ (s.side x).fd
  event : ∀ x d, (s.side x).event d = ⟨(s.side x).fd, some d.cb⟩
  input : ∀ x, st.pending (.ev p x .input) = true
  covered : Covered st p s
  listed : p ∈ st.sessions

/-- The invariant; `base` is what was open when the loop started. -/
structure Inv (base : List Int) (st : Proxy) : Prop where
  listener : st.pending .listener = true
  fresh : ∀ p, st.next ≤ p → st.mem p = none
  dangling : ∀ p x d, st.mem p = none → st.pending (.ev p x d) = false
  live : ∀ p s, st.mem p = some s → Connecting st p s ∨ Connected st p s
  listed : ∀ p ∈ st.sessions, ∃ s, st.mem p = some s ∧ s.connected = 1
  sessions_nodup : st.sessions.Nodup
  fds_nodup : st.fds.Nodup
  fds_held : List.Perm st.fds (base ++ held st)
  no_bad_close : st.badCloses = 0
  closed : ∀ p, Act.close p ∈ st.trace → st.mem p = none ∧ p < st.next
  closes_once : ∀ p, st.trace.count (.close p) ≤ 1

/-! ### Frames -/

section Frame

variable (hq : ∀ x d, st'.pending (.ev p x d) = st.pending (.ev p x d))
  (hl : p ∈ st'.sessions ↔ p ∈ st.sessions)
include hq hl

theorem Connecting.frame (h : Connecting st p s) : Connecting st' p s :=
  { h with
    pending := fun x d => by rw [hq]; exact h.pending x d
    unlisted := by rw [hl]; exact h.unlisted }

theorem Connected.frame (h : Connected st p s) : Connected st' p s :=
  { h with
    input := fun x => by rw [hq]; exact h.input x
    covered := ⟨fun x e he ho => by rw [hq]; exact h.covered.output x e he ho, h.covered.inbox⟩
    listed := hl.2 h.listed }

end Frame

theorem Refit.self (h : Connected st p s) : Refit s s :=
  ⟨fun _ => rfl, fun _ => rfl, rfl, h.engine⟩

theorem Refit.setSsh {s₀ : Session} (h : Refit s s₀) (x : SideName) (e : Engine) :
    Refit s (s₀.setSsh x (some e)) :=
  ⟨fun y => by simp [h.fd], fun y => by simp [h.event], by simp [h.connected], fun y => by
    by_cases hy : y = x <;> simp [hy, h.engine]⟩

/-! ### Facts the invariant gives -/

namespace Inv

variable (hi : Inv base st)
include hi

theorem lt_next (hs : st.mem p = some s) : p < st.next := by
  by_contra h
  simp [hi.fresh p (by omega)] at hs

theorem ne_of_closed {q : Nat} (hq : Act.close q ∈ st.trace) (hs : st.mem p = some s) : q ≠ p := by
  rintro rfl
  simp [(hi.closed q hq).1] at hs

/-- A live session's descriptors, with the rest of what is open. -/
theorem perm_free (hs : st.mem p = some s) :
    List.Perm st.fds (base ++ held (st.store p none) ++ s.fds) :=
  hi.fds_held.trans (by rw [List.append_assoc]; exact (held_free (hi.lt_next hs) hs).append_left base)

theorem client_ne_server (hs : st.mem p = some s) : s.client.fd ≠ s.server.fd := by
  have h := ((hi.perm_free hs).nodup_iff.1 hi.fds_nodup).sublist (List.sublist_append_right _ _)
  simpa [Session.fds] using h

end Inv

/-- Two descriptors closed in turn, when both are open and distinct. -/
theorem perm_erase_pair {l m : List Int} {a b : Int} (h : List.Perm l (m ++ [a, b])) (hn : l.Nodup) :
    a ∈ l ∧ b ∈ l.erase a ∧ List.Perm ((l.erase a).erase b) m := by
  have hn' := h.nodup_iff.1 hn
  simp only [List.nodup_append, List.nodup_cons, List.mem_singleton, List.not_mem_nil,
    List.nodup_nil, List.disjoint_cons_right, List.disjoint_singleton] at hn'
  have h1 : List.Perm (l.erase a) (m ++ [b]) := by
    simpa [List.erase_append_right _ hn'.2.2.1] using h.erase a
  have h2 : List.Perm ((l.erase a).erase b) m := by
    simpa [List.erase_append_right _ hn'.2.2.2.1] using h1.erase b
  exact ⟨h.mem_iff.2 (by simp), h1.mem_iff.2 (by simp), h2⟩

/-! ### Preservation -/

/-- Session `p` updated and connected afterwards, with its descriptors, and nothing else
changed but its queue entries, its list entry and calls that close no session. -/
theorem Inv.update (hi : Inv base st) (hs : st.mem p = some s)
    (hmem : ∀ q, q ≠ p → st'.mem q = st.mem q) (hs' : st'.mem p = some s') (hfds : s'.fds = s.fds)
    (hc : Connected st' p s') (hnext : st'.next = st.next)
    (hpend : ∀ r, (∀ x d, r ≠ .ev p x d) → st'.pending r = st.pending r)
    (hsess : ∀ q, q ≠ p → (q ∈ st'.sessions ↔ q ∈ st.sessions)) (hnd : st'.sessions.Nodup)
    (hf : st'.fds = st.fds) (hbad : st'.badCloses = st.badCloses)
    (htr : ∃ acts, st'.trace = st.trace ++ acts ∧ ∀ q, Act.close q ∉ acts) : Inv base st' := by
  have hp := hi.lt_next hs
  obtain ⟨acts, htr, hacts⟩ := htr
  refine ⟨?_, ?_, ?_, ?_, ?_, hnd, ?_, ?_, ?_, ?_, ?_⟩
  · rw [hpend _ (by simp)]; exact hi.listener
  · intro q hq
    rw [hmem q (by omega)]
    exact hi.fresh q (by omega)
  · intro q x d hq
    have hqp : q ≠ p := by rintro rfl; simp [hs'] at hq
    rw [hpend _ (by simp [hqp])]
    exact hi.dangling q x d (by rwa [← hmem q hqp])
  · intro q t hq
    by_cases hqp : q = p
    · subst hqp
      rw [hs'] at hq
      cases hq
      exact .inr hc
    · have hfr : ∀ x d, st'.pending (.ev q x d) = st.pending (.ev q x d) :=
        fun x d => hpend _ (by simp [hqp])
      exact (hi.live q t (by rwa [← hmem q hqp])).imp (·.frame hfr (hsess q hqp))
        (·.frame hfr (hsess q hqp))
  · intro q hq
    by_cases hqp : q = p
    · subst hqp
      exact ⟨s', hs', hc.connected⟩
    · rw [hmem q hqp]
      exact hi.listed q ((hsess q hqp).1 hq)
  · rw [hf]; exact hi.fds_nodup
  · have : held st' = held st := by
      rw [← held_store hs hfds]
      apply held_congr (by simp [hnext])
      funext q
      by_cases hqp : q = p
      · subst hqp; simp [hs']
      · simp [hqp, hmem q hqp]
    rw [hf, this]
    exact hi.fds_held
  · rw [hbad]; exact hi.no_bad_close
  · intro q hq
    rw [htr] at hq
    have hq' := (List.mem_append.1 hq).resolve_right (hacts q)
    rw [hmem q (hi.ne_of_closed hq' hs), hnext]
    exact hi.closed q hq'
  · intro q
    rw [htr, List.count_append, List.count_eq_zero.2 (hacts q)]
    exact hi.closes_once q

/-- A callback that only touched session `p`, which stays connected with its descriptors. -/
theorem Inv.touch (hi : Inv base st) (ht : Touches p st st') (hs : st.mem p = some s)
    (hs' : st'.mem p = some s') (hfds : s'.fds = s.fds) (hc : Connected st' p s') : Inv base st' :=
  hi.update hs ht.mem hs' hfds hc ht.next ht.pending (fun q _ => by rw [ht.sessions])
    (by rw [ht.sessions]; exact hi.sessions_nodup) ht.fds ht.badCloses ht.trace

/-- Session `p` freed: its queue entries and list entry gone, its two descriptors closed,
and one `session_close` recorded. -/
theorem Inv.free (hi : Inv base st) (hs : st.mem p = some s)
    (hmem : ∀ q, st'.mem q = Function.update st.mem p none q) (hnext : st'.next = st.next)
    (hpend : ∀ r, (∀ x d, r ≠ .ev p x d) → st'.pending r = st.pending r)
    (hgone : ∀ x d, st'.pending (.ev p x d) = false) (hsess : st'.sessions = st.sessions.erase p)
    (hfds : List.Perm st'.fds (base ++ held (st.store p none))) (hnd : st'.fds.Nodup)
    (hbad : st'.badCloses = st.badCloses)
    (htr : ∃ acts, st'.trace = st.trace ++ acts ++ [.close p] ∧ ∀ q, Act.close q ∉ acts) :
    Inv base st' := by
  have hp := hi.lt_next hs
  obtain ⟨acts, htr, hacts⟩ := htr
  have hmem' : ∀ q, q ≠ p → st'.mem q = st.mem q := fun q hq => by simp [hmem, hq]
  have hfr : ∀ q x d, q ≠ p → st'.pending (.ev q x d) = st.pending (.ev q x d) :=
    fun q x d hq => hpend _ (by simp [hq])
  refine ⟨?_, ?_, ?_, ?_, ?_, ?_, hnd, ?_, ?_, ?_, ?_⟩
  · rw [hpend _ (by simp)]; exact hi.listener
  · intro q hq
    rw [hmem' q (by omega)]
    exact hi.fresh q (by omega)
  · intro q x d hq
    by_cases hqp : q = p
    · subst hqp; exact hgone x d
    · rw [hfr q x d hqp]; exact hi.dangling q x d (by rwa [← hmem' q hqp])
  · intro q t hq
    have hqp : q ≠ p := by rintro rfl; simp [hmem] at hq
    have hl : q ∈ st'.sessions ↔ q ∈ st.sessions := by rw [hsess, List.mem_erase_of_ne hqp]
    exact (hi.live q t (by rwa [← hmem' q hqp])).imp (·.frame (hfr q · · hqp) hl)
      (·.frame (hfr q · · hqp) hl)
  · intro q hq
    rw [hsess, hi.sessions_nodup.mem_erase_iff] at hq
    rw [hmem' q hq.1]
    exact hi.listed q hq.2
  · rw [hsess]; exact hi.sessions_nodup.erase p
  · rwa [(held_congr hnext (funext hmem) : held st' = held (st.store p none))]
  · rw [hbad]; exact hi.no_bad_close
  · intro q hq
    simp only [htr, List.mem_append, List.mem_singleton, Act.close.injEq] at hq
    rcases hq with (hq | hq) | rfl
    · rw [hmem' q (hi.ne_of_closed hq hs), hnext]
      exact hi.closed q hq
    · exact absurd hq (hacts q)
    · simpa [hmem, hnext] using hp
  · intro q
    have hp0 : st.trace.count (.close p) = 0 :=
      List.count_eq_zero.2 fun h => hi.ne_of_closed h hs rfl
    rw [htr, List.count_append, List.count_append, List.count_eq_zero.2 (hacts q)]
    by_cases hqp : q = p
    · subst hqp; simp [hp0]
    · simpa [List.count_singleton, Ne.symm hqp] using hi.closes_once q

/-- `session_close` on a connected session, after changes confined to it. -/
theorem Inv.close (hi : Inv base st) (ht : Touches p st st₀) (hs : st.mem p = some s)
    (hc : Connected st p s) : Inv base (session_close p s st₀) := by
  obtain ⟨acts, htr, hacts⟩ := ht.trace
  obtain ⟨hcm, hsm, hperm⟩ := perm_erase_pair (hi.perm_free hs) hi.fds_nodup
  have hfds := session_close_fds (p := p) (by rw [ht.fds]; exact hcm)
    (by rw [ht.fds]; exact hsm) (by have := hc.fd .client; simp [Session.side] at this; omega)
    (by have := hc.fd .server; simp [Session.side] at this; omega)
  refine hi.free hs (fun q => ?_) (by simp [ht.next]) (fun r hr => ?_)
    (session_close_pending_self hc.connected) (by rw [session_close_sessions, if_pos hc.connected,
      ht.sessions]) (by rw [hfds.1, ht.fds]; exact hperm)
    (by rw [hfds.1, ht.fds]; exact (hi.fds_nodup.erase _).erase _) (by rw [hfds.2, ht.badCloses])
    ⟨acts, by simp [htr], hacts⟩
  · by_cases hq : q = p
    · subst hq; simp
    · simp [Function.update_apply, hq, ht.mem q hq]
  · rw [session_close_pending_other hr, ht.pending r hr]

theorem Refit.trans {s₀ : Session} (h : Refit s s₀) (h' : Refit s₀ s') : Refit s s' :=
  ⟨fun y => (h'.fd y).trans (h.fd y), fun y => (h'.event y).trans (h.event y),
    h'.connected.trans h.connected, h'.engine⟩

/-- `forwardBoth` on a connected session, after changes confined to it that leave both
readable events registered. -/
theorem Inv.forward (hi : Inv base st) (hs : st.mem p = some s) (hc : Connected st p s)
    (ht : Touches p st st₀) (hin : ∀ y, st₀.pending (.ev p y .input) = true) {s₀ : Session}
    (hr : Refit s s₀) (T : Transport) (a : SideName) : Inv base (forwardBoth T p a a.other s₀ st₀) := by
  obtain ⟨ea, hea⟩ := Option.isSome_iff_exists.1 (hr.engine a)
  obtain ⟨eb, heb⟩ := Option.isSome_iff_exists.1 (hr.engine a.other)
  have hf := forwardBoth_spec T p a s₀ st₀ hea heb
  obtain ⟨s', hs', hr', hcov⟩ := hf.session
  have hr2 := hr.trans hr'
  refine hi.touch (ht.trans hf.touches) hs hs' hr2.fds
    ⟨hr2.connected.trans hc.connected, hr2.engine, fun y => ?_, fun y d => ?_,
      fun y => hf.keeps _ (hin y), hcov, ?_⟩
  · rw [hr2.fd]; exact hc.fd y
  · rw [hr2.event, hr2.fd]; exact hc.event y d
  · rw [hf.touches.sessions, ht.sessions]; exact hc.listed

end Libopenssh.SshProxy

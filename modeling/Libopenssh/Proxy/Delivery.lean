import Libopenssh.Proxy.Loop

/-! Laws about one side of every session, kept along every run, and the first of them:
every packet an engine decoded is taken once, in order, and put on the other side. -/
namespace Libopenssh.SshProxy

variable {base : List Int} {st st' : Proxy} {p : Nat} {s : Session} {o : Oracle}

/-- The session an act belongs to. -/
def Act.session : Act → Nat
  | .got p _ _ | .put p _ _ | .append p _ _ _ | .write p _ _ _ | .consume p _ _ | .close p => p

/-- The engine on side `x` of the session at `p`; none without a live session or engine. -/
def engineAt (st : Proxy) (p : Nat) (x : SideName) : Option Engine :=
  (st.mem p).bind fun s => (s.side x).ssh

/-- A law `P` about one side of a session, of the calls so far and that side's engine,
holding on every live session and on every address not handed out yet. -/
def Everywhere (P : Nat → SideName → List Act → Option Engine → Prop) (st : Proxy) : Prop :=
  ∀ p y, ((st.mem p).isSome ∨ st.next ≤ p) → P p y st.trace (engineAt st p y)

/-- What `accept_cb` leaves when it returns: the next address handed out, holding a session
without engines or freed again, and no call recorded. -/
theorem accept_cb_run (h : accept_cb o st = .run st') :
    st'.trace = st.trace ∧ st'.next = st.next + 1 ∧ (∀ q, q ≠ st.next → st'.mem q = st.mem q) ∧
      ∀ s, st'.mem st.next = some s → ∀ y, (s.side y).ssh = none := by
  unfold accept_cb at h
  simp only at h
  split_ifs at h with h1 h2 h3
  · cases h
    rw [accept_fail_openFd _ _ _ rfl]
    exact ⟨by simp, by simp, fun q hq => by simp [Function.update_apply, hq], by simp⟩
  · rw [do_connect_neg h3] at h
    cases h
    rw [accept_fail_openFd _ _ _ rfl]
    exact ⟨by simp, by simp, fun q hq => by simp [Function.update_apply, hq], by simp⟩
  · rw [(do_connect_nonneg h3).2] at h
    cases h
    refine ⟨rfl, rfl, fun q hq => by simp [Function.update_apply, hq], ?_⟩
    rintro s hs (_ | _) <;> simp at hs <;> subst hs <;> rfl

/-! ### What every such law gets for free -/

section Everywhere

variable {P : Nat → SideName → List Act → Option Engine → Prop}
  (quiet : ∀ {p q : Nat} {y : SideName} {tr : List Act} {e : Option Engine} (acts : List Act),
    (∀ a ∈ acts, a.session = p) → q ≠ p → P q y tr e → P q y (tr ++ acts) e)

include quiet

/-- A callback confined to session `p` keeps the law on every other session. -/
theorem Everywhere.frame (hd : Everywhere P st) (acts : List Act) (htr : st'.trace = st.trace ++ acts)
    (hacts : ∀ a ∈ acts, a.session = p) (hmem : ∀ q, q ≠ p → st'.mem q = st.mem q)
    (hnext : st.next ≤ st'.next)
    (hp : (st'.mem p).isSome ∨ st'.next ≤ p → ∀ y, P p y st'.trace (engineAt st' p y)) :
    Everywhere P st' := by
  intro q y hq
  by_cases hqp : q = p
  · subst hqp
    exact hp hq y
  · have he : engineAt st' q y = engineAt st q y := by simp [engineAt, hmem q hqp]
    rw [htr, he]
    refine quiet acts hacts hqp (hd q y ?_)
    rcases hq with hq | hq
    · exact .inl (by rwa [← hmem q hqp])
    · exact .inr (by omega)

/-- `session_close` after calls about the session: it is gone, nothing else changes. -/
theorem Everywhere.close (hi : Inv base st) (hd : Everywhere P st) (hs : st.mem p = some s)
    {st₀ : Proxy} (acts : List Act) (htr : st₀.trace = st.trace ++ acts)
    (hacts : ∀ a ∈ acts, a.session = p) (hmem : ∀ q, q ≠ p → st₀.mem q = st.mem q)
    (hnext : st₀.next = st.next) (s₀ : Session) : Everywhere P (session_close p s₀ st₀) := by
  have hp := hi.lt_next hs
  refine hd.frame quiet (p := p) (acts ++ [.close p]) (by simp [htr]) ?_ (fun q hq => ?_)
    (by simp [hnext]) fun h => by simp [hnext] at h; omega
  · simp only [List.mem_append, List.mem_singleton]
    rintro a (ha | rfl)
    exacts [hacts a ha, rfl]
  · simp [Function.update_apply, hq, hmem q hq]

theorem Everywhere.accept (hi : Inv base st) (hd : Everywhere P st)
    (h : accept_cb o (st.event_del .listener) = .run st') : Everywhere P st' := by
  obtain ⟨htr, hnext, hmem, hnew⟩ := accept_cb_run h
  simp only [Proxy.event_del_trace, Proxy.event_del_next, Proxy.event_del_mem] at htr hnext hmem hnew
  have hp0 : st.mem st.next = none := hi.fresh _ le_rfl
  refine hd.frame quiet [] (by simpa using htr) (by simp) hmem (by omega) fun _ y => ?_
  -- the new address holds no engine, before and after
  have h0 : engineAt st' st.next y = engineAt st st.next y := by
    cases hs : st'.mem st.next with
    | none => simp [engineAt, hs, hp0]
    | some s => simp [engineAt, hs, hp0, hnew s hs y]
  rw [htr, h0]
  exact hd _ y (.inr le_rfl)

/-- `connect_cb` on a connecting session, for a law that a new engine restarts. -/
theorem Everywhere.connect (fresh : ∀ {p y tr}, P p y tr none → P p y tr (some ssh_init))
    (hi : Inv base st) (hd : Everywhere P st) (hs : st.mem p = some s) (hc : Connecting st p s)
    (h : connect_cb p s o (st.event_del (.ev p .server .output)) = .run st') : Everywhere P st' := by
  have hcl := hc.engine .client
  have hsv := hc.engine .server
  simp only [Session.side] at hcl hsv
  unfold connect_cb at h
  simp only at h
  split_ifs at h
  · cases h
    exact hd.close quiet hi hs [] (by simp) (by simp) (by simp) (by simp) _
  · cases h
    refine hd.frame quiet (p := p) [] (by simp) (by simp) (fun q hq => by simp [Function.update_apply, hq])
      (by simp) fun _ y => ?_
    have h0 : engineAt st p y = none := by cases y <;> simp [engineAt, hs, Session.side, hcl, hsv]
    have := fresh (h0 ▸ hd p y (.inl (by simp [hs])))
    cases y <;> simpa [engineAt, Session.side] using this

end Everywhere

/-- The packet `ssh_packet_get` returned on side `x` of session `p`. -/
def Act.gotOn (p : Nat) (x : SideName) : Act → List Packet
  | .got q y pkt => if q = p ∧ y = x then [pkt] else []
  | _ => []

/-- The packet passed to `ssh_packet_put` on side `x` of session `p`. -/
def Act.putOn (p : Nat) (x : SideName) : Act → List Packet
  | .put q y pkt => if q = p ∧ y = x then [pkt] else []
  | _ => []

/-- The packets `ssh_input_append` decoded on side `x` of session `p`. -/
def Act.decodedOn (p : Nat) (x : SideName) : Act → List Packet
  | .append q y pkts _ => if q = p ∧ y = x then pkts else []
  | _ => []

/-- The packets waiting in an engine; none without one. -/
def inboxOf (e : Option Engine) : List Packet := (e.map Engine.inbox).getD []

/-- The calls `acts` move packets through side `y` of session `p` as a queue: the inbox
`i` followed by what was decoded is what `ssh_packet_get` returned followed by the inbox
`i'`, and every returned packet was put on the other side, in the same order. -/
def Flow (p : Nat) (y : SideName) (i : List Packet) (acts : List Act) (i' : List Packet) : Prop :=
  i ++ acts.flatMap (Act.decodedOn p y) = acts.flatMap (Act.gotOn p y) ++ i' ∧
    acts.flatMap (Act.putOn p y.other) = acts.flatMap (Act.gotOn p y)

/-- Delivery on side `y` of session `p` over the whole run `tr`, whose engine is `e`. -/
def Delivered (p : Nat) (y : SideName) (tr : List Act) (e : Option Engine) : Prop :=
  Flow p y [] tr (inboxOf e)

section Flow

variable {p q : Nat} {y : SideName} {i i' i'' : List Packet} {acts acts' : List Act}

theorem Flow.trans (h : Flow p y i acts i') (h' : Flow p y i' acts' i'') :
    Flow p y i (acts ++ acts') i'' := by
  refine ⟨?_, by simp [h.2, h'.2]⟩
  calc i ++ (acts ++ acts').flatMap (Act.decodedOn p y)
      = (i ++ acts.flatMap (Act.decodedOn p y)) ++ acts'.flatMap (Act.decodedOn p y) := by simp
    _ = acts.flatMap (Act.gotOn p y) ++ (i' ++ acts'.flatMap (Act.decodedOn p y)) := by
      rw [h.1, List.append_assoc]
    _ = (acts ++ acts').flatMap (Act.gotOn p y) ++ i'' := by rw [h'.1]; simp

/-- Calls that decode, take and put nothing on side `y` leave its inbox alone. -/
theorem Flow.quiet (hd : acts.flatMap (Act.decodedOn p y) = [])
    (hg : acts.flatMap (Act.gotOn p y) = []) (hp : acts.flatMap (Act.putOn p y.other) = []) :
    Flow p y i acts i := by
  simp [Flow, hd, hg, hp]

/-- Calls about session `p` move nothing through another session. -/
theorem Flow.of_session (h : ∀ a ∈ acts, a.session = p) (hq : q ≠ p) : Flow q y i acts i := by
  have hne : ∀ a ∈ acts, a.session ≠ q := fun a ha => (h a ha).symm ▸ Ne.symm hq
  apply Flow.quiet <;> refine List.flatMap_eq_nil_iff.2 fun a ha => ?_ <;> have := hne a ha <;>
    cases a <;> simp only [Act.session] at this <;> simp [Act.decodedOn, Act.gotOn, Act.putOn, this]

theorem Delivered.quiet {tr : List Act} {e : Option Engine} (acts : List Act)
    (h : ∀ a ∈ acts, a.session = p) (hq : q ≠ p) (hd : Delivered q y tr e) :
    Delivered q y (tr ++ acts) e :=
  Flow.trans hd (Flow.of_session h hq)

theorem Delivered.fresh {tr : List Act} (hd : Delivered p y tr none) :
    Delivered p y tr (some ssh_init) := by
  simpa [Delivered, inboxOf, ssh_init] using hd

end Flow

section Forward

variable {T : Transport} {p : Nat} {a b : SideName} {ef et : Engine}

theorem fwdActs_session : ∀ act ∈ fwdActs p a b ef, act.session = p := by
  unfold fwdActs
  split <;> simp [Act.session]

/-- The side a packet is taken from. -/
theorem flow_fwd_src (hab : b = a.other) :
    Flow p a ef.inbox (fwdActs p a b ef) (fwdEngines T ef et).1.inbox := by
  subst hab
  unfold fwdActs fwdEngines
  split <;> simp_all [Flow, Act.decodedOn, Act.gotOn, Act.putOn]

/-- The side a packet is put on. -/
theorem flow_fwd_dst (hab : a ≠ b) :
    Flow p b et.inbox (fwdActs p a b ef) (fwdEngines T ef et).2.inbox := by
  rw [fwdEngines_snd_inbox]
  apply Flow.quiet <;> unfold fwdActs <;> split <;> simp [Act.decodedOn, Act.gotOn, Act.putOn, hab]

end Forward

/-- `forwardBoth` moves packets through both sides of session `p` as queues. -/
theorem forwardBoth_flow (T : Transport) (p : Nat) (a : SideName) (s : Session) (st : Proxy)
    {ea eb : Engine} (ha : (s.side a).ssh = some ea) (hb : (s.side a.other).ssh = some eb) :
    ∃ acts s', (forwardBoth T p a a.other s st).trace = st.trace ++ acts ∧
      (∀ act ∈ acts, act.session = p) ∧ (forwardBoth T p a a.other s st).mem p = some s' ∧
      ∀ y, Flow p y (inboxOf (s.side y).ssh) acts (inboxOf (s'.side y).ssh) := by
  unfold forwardBoth
  rw [ssh_packet_fwd_some ha hb]
  dsimp only
  set e1 := fwdEngines T ea eb
  have h1 : (((s.setSsh a (some e1.1)).setSsh a.other (some e1.2)).side a.other).ssh = some e1.2 := by
    simp
  have h2 : (((s.setSsh a (some e1.1)).setSsh a.other (some e1.2)).side a).ssh = some e1.1 := by
    simp
  rw [ssh_packet_fwd_some h1 h2]
  dsimp only
  refine ⟨fwdActs p a a.other ea ++ fwdActs p a.other a e1.2, _, by simp, ?_,
    Function.update_same _ _ _, fun y => ?_⟩
  · simp only [List.mem_append]
    rintro act (h | h) <;> exact fwdActs_session _ h
  · rcases SideName.eq_or_eq_other a y with rfl | rfl
    · have h : Flow p y ea.inbox (fwdActs p y y.other ea ++ fwdActs p y.other y e1.2)
          (fwdEngines T e1.2 e1.1).2.inbox :=
        (flow_fwd_src rfl).trans (flow_fwd_dst (SideName.other_ne y))
      simpa [inboxOf, ha] using h
    · have h : Flow p a.other eb.inbox (fwdActs p a a.other ea ++ fwdActs p a.other a e1.2)
          (fwdEngines T e1.2 e1.1).1.inbox :=
        (flow_fwd_dst (SideName.ne_other a)).trans (flow_fwd_src (SideName.other_other a).symm)
      simpa [inboxOf, hb] using h

/-! ### Each callback -/

/-- The common tail of `input_cb` and `output_cb`: calls about session `p` and an engine
update that move packets as a queue, then `forwardBoth`. -/
theorem Delivered.forward (hd : Everywhere Delivered st) (hs : st.mem p = some s) {st₀ : Proxy}
    {s₀ : Session} (acts : List Act) (htr : st₀.trace = st.trace ++ acts)
    (hacts : ∀ a ∈ acts, a.session = p) (hmem : ∀ q, q ≠ p → st₀.mem q = st.mem q)
    (hnext : st₀.next = st.next)
    (hflow : ∀ y, Flow p y (inboxOf (s.side y).ssh) acts (inboxOf (s₀.side y).ssh))
    (T : Transport) (a : SideName) (ha : ((s₀.side a).ssh).isSome)
    (hb : ((s₀.side a.other).ssh).isSome) :
    Everywhere Delivered (forwardBoth T p a a.other s₀ st₀) := by
  obtain ⟨ea, ha⟩ := Option.isSome_iff_exists.1 ha
  obtain ⟨eb, hb⟩ := Option.isSome_iff_exists.1 hb
  obtain ⟨acts', s', htr', hacts', hs', hflow'⟩ := forwardBoth_flow T p a s₀ st₀ ha hb
  have ht := (forwardBoth_spec T p a s₀ st₀ ha hb).touches
  have htr'' : (forwardBoth T p a a.other s₀ st₀).trace = st.trace ++ (acts ++ acts') := by
    rw [htr', htr, List.append_assoc]
  refine hd.frame Delivered.quiet (p := p) _ htr'' ?_ (fun q hq => (ht.mem q hq).trans (hmem q hq))
    (by rw [ht.next, hnext]) fun _ y => ?_
  · simp only [List.mem_append]
    rintro act (h | h)
    exacts [hacts _ h, hacts' _ h]
  · have h0 : Delivered p y st.trace (s.side y).ssh := by
      simpa [engineAt, hs] using hd p y (.inl (by simp [hs]))
    simpa [Delivered, engineAt, hs', htr''] using Flow.trans h0 ((hflow y).trans (hflow' y))

theorem Delivered.input {T : Transport} {x : SideName} (hi : Inv base st)
    (hd : Everywhere Delivered st) (hs : st.mem p = some s) (hc : Connected st p s)
    (h : input_cb T (s.side x).fd p s o (st.event_del (.ev p x .input)) = .run st') :
    Everywhere Delivered st' := by
  obtain ⟨e, he⟩ := Option.isSome_iff_exists.1 (hc.engine x)
  unfold input_cb at h
  simp only [sideOf_fd (hi.client_ne_server hs)] at h
  cases hread : o.read with
  | data decoded own =>
    simp only [hread, he] at h
    cases h
    refine Delivered.forward hd hs _ rfl (by simp [Act.session]) (by simp) (by simp) (fun y => ?_) T x
      (by simp) (by simp [hc.engine x.other])
    by_cases hy : y = x
    · subst hy
      simp [Flow, inboxOf, he, ssh_input_append, Act.decodedOn, Act.gotOn, Act.putOn]
    · simp [Flow, hy, Act.decodedOn, Act.gotOn, Act.putOn, Ne.symm hy]
  | again =>
    simp only [hread] at h
    cases h
    exact Delivered.forward hd hs [] (by simp) (by simp) (by simp) (by simp) (fun y => by simp [Flow])
      T x (hc.engine x) (hc.engine x.other)
  | eof | error =>
    simp only [hread] at h
    cases h
    exact hd.close Delivered.quiet hi hs [] (by simp) (by simp) (by simp) (by simp) s

theorem Delivered.output {cfg : Config} {x : SideName} (hi : Inv base st)
    (hd : Everywhere Delivered st) (hs : st.mem p = some s) (hc : Connected st p s)
    (h : output_cb cfg (s.side x).fd p s o (st.event_del (.ev p x .output)) = .run st') :
    Everywhere Delivered st' := by
  have hfwd : ∀ {st₀ : Proxy} {s₀ : Session} (acts : List Act), st₀.trace = st.trace ++ acts →
      (∀ a ∈ acts, a.session = p) → (∀ q, q ≠ p → st₀.mem q = st.mem q) → st₀.next = st.next →
      (∀ y, Flow p y (inboxOf (s.side y).ssh) acts (inboxOf (s₀.side y).ssh)) →
      (∀ y, ((s₀.side y).ssh).isSome) →
      Everywhere Delivered (forwardBoth cfg.T p x.other x s₀ st₀) :=
    fun acts htr hacts hmem hnext hflow he => by
      simpa using Delivered.forward hd hs acts htr hacts hmem hnext hflow cfg.T x.other (he _) (he _)
  obtain ⟨e, he⟩ := Option.isSome_iff_exists.1 (hc.engine x)
  unfold output_cb at h
  simp only [sideOf_fd (hi.client_ne_server hs), he] at h
  split_ifs at h with holen
  · cases hw : o.write with
    | room k =>
      simp only [hw] at h
      split_ifs at h with hk
      · cases h
        exact hd.close Delivered.quiet hi hs _ rfl (by simp [Act.session]) (by simp) (by simp) s
      · cases h
        refine hfwd _ rfl (by simp [Act.session]) (by simp) (by simp) (fun y => ?_) fun y => ?_
        · by_cases hy : y = x
          · subst hy
            simp [Flow, inboxOf, he, ssh_output_consume, Act.decodedOn, Act.gotOn, Act.putOn]
          · simp [Flow, hy, Act.decodedOn, Act.gotOn, Act.putOn]
        · by_cases hy : y = x <;> simp [hy, hc.engine y]
    | again =>
      simp only [hw] at h
      cases h
      exact hfwd _ rfl (by simp [Act.session]) (by simp) (by simp)
        (fun y => by simp [Flow, Act.decodedOn, Act.gotOn, Act.putOn]) hc.engine
    | error =>
      simp only [hw] at h
      cases h
      exact hd.close Delivered.quiet hi hs _ rfl (by simp [Act.session]) (by simp) (by simp) s
  · cases h
    exact hfwd [] (by simp) (by simp) (by simp) (by simp) (fun y => by simp [Flow]) hc.engine

/-! ### Every run -/

theorem Delivered.step {cfg : Config} (hi : Inv base st) (hd : Everywhere Delivered st)
    (h : Step cfg st st') : Everywhere Delivered st' := by
  rcases hi.step_cases h with ⟨o, h⟩ | ⟨p, s, o, hs, hc, h⟩ | ⟨p, s, o, x, hs, hc, h⟩ |
    ⟨p, s, o, x, hs, hc, h⟩
  · exact hd.accept Delivered.quiet hi h
  · exact hd.connect Delivered.quiet Delivered.fresh hi hs hc h
  · exact Delivered.input hi hd hs hc h
  · exact Delivered.output hi hd hs hc h

theorem Delivered.reachable {cfg : Config} {fds : List Int} (h : Reachable cfg fds st) :
    Everywhere Delivered st := by
  induction h with
  | refl => intro p y _; simp [Delivered, Flow, inboxOf, engineAt, init]
  | tail hr hs ih => exact Delivered.step (Inv.reachable hr) ih hs

end Libopenssh.SshProxy

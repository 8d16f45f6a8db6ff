import Libopenssh.Proxy.Loop

/-! `output_cb`: the byte count it hands to `write`, and what reaches each socket. -/
namespace Libopenssh.SshProxy

variable {st : Proxy} {p : Nat} {s : Session} {o : Oracle} {x : SideName} {e : Engine}

/-- The `u_int` store fills the low half on a little-endian machine: the count is the
window length plus what the high half held, as long as the sign bit stays clear. -/
theorem olenAfter_little {prior len : Nat} (hlen : len < 2 ^ 32)
    (h : prior % 2 ^ 64 / 2 ^ 32 * 2 ^ 32 + len < 2 ^ 63) :
    olenAfter .little prior len = (prior % 2 ^ 64 / 2 ^ 32 * 2 ^ 32 + len : Nat) := by
  unfold olenAfter
  have : ((prior : Int) % 2 ^ 64 / 2 ^ 32 * 2 ^ 32 + (len : Int) % 2 ^ 32) =
      ((prior % 2 ^ 64 / 2 ^ 32 * 2 ^ 32 + len : Nat) : Int) := by push_cast; omega
  simp only [this]
  rw [if_pos (by exact_mod_cast h)]

/-- With 1 left in the high half, the count is the window length plus `2^32`. -/
theorem olenAfter_little_high {len : Nat} (hlen : len < 2 ^ 32) :
    olenAfter .little (2 ^ 32) len = ((2 ^ 32 + len : Nat) : Int) :=
  (olenAfter_little hlen (by omega)).trans (by simp)

theorem ssh_packet_fwd_trace (T : Transport) (p : Nat) (a b : SideName) (s : Session) (st : Proxy) :
    ∃ acts, (ssh_packet_fwd T p a b s st).2.trace = st.trace ++ acts := by
  cases ha : (s.side a).ssh with
  | none => exact ⟨[], by simp [ssh_packet_fwd, ha]⟩
  | some ea =>
    cases hb : (s.side b).ssh with
    | none => exact ⟨[], by simp [ssh_packet_fwd, ha, hb]⟩
    | some eb =>
      rw [ssh_packet_fwd_some ha hb]
      exact (((Touches.log (fwdActs_no_close · )).trans (Touches.armOutput _ _)).trans
        (Touches.armOutput _ _)).trace.imp fun _ h => h.1

theorem forwardBoth_trace (T : Transport) (p : Nat) (a b : SideName) (s : Session) (st : Proxy) :
    ∃ acts, (forwardBoth T p a b s st).trace = st.trace ++ acts := by
  unfold forwardBoth
  obtain ⟨a₁, h₁⟩ := ssh_packet_fwd_trace T p a b s st
  obtain ⟨a₂, h₂⟩ := ssh_packet_fwd_trace T p b a (ssh_packet_fwd T p a b s st).1
    (ssh_packet_fwd T p a b s st).2
  exact ⟨a₁ ++ a₂, by simp [h₂, h₁]⟩

/-- On a little-endian machine whose stack left 1 in the high half of `olen`, `output_cb`
asks `write` for `2^32` bytes more than the window holds, on every state. -/
theorem output_cb_count_exceeds_window (cfg : Config) (hle : cfg.order = .little) (st : Proxy)
    (p : Nat) (s : Session) (x : SideName) (e : Engine) (o : Oracle) (hne : s.client.fd ≠ s.server.fd)
    (he : (s.side x).ssh = some e) (hlen : e.out.length < 2 ^ 32) (hprior : o.olen = 2 ^ 32) :
    ∃ st' acc rest, output_cb cfg (s.side x).fd p s o st = .run st' ∧
      st'.trace = st.trace ++ Act.write p x (2 ^ 32 + e.out.length) acc :: rest := by
  have holen : olenAfter cfg.order o.olen e.out.length = ((2 ^ 32 + e.out.length : Nat) : Int) := by
    rw [hle, hprior, olenAfter_little_high hlen]
  unfold output_cb
  simp only [sideOf_fd hne, he, ssh_output_ptr, holen]
  rw [if_pos (by omega)]
  simp only [Int.toNat_ofNat]
  cases o.write with
  | room k =>
    simp only
    split_ifs
    · exact ⟨_, [], [.close p], rfl, by simp⟩
    · obtain ⟨acts, h⟩ := forwardBoth_trace cfg.T p x.other x
        (s.setSsh x (some (ssh_output_consume e (min k (2 ^ 32 + e.out.length)))))
        (st.log [.write p x (2 ^ 32 + e.out.length) (sentBytes e.out o.beyond (min k (2 ^ 32 + e.out.length))),
          .consume p x (min k (2 ^ 32 + e.out.length))])
      exact ⟨_, _, _, rfl, by rw [h, Proxy.log_trace, List.append_assoc]; rfl⟩
  | again =>
    obtain ⟨acts, h⟩ := forwardBoth_trace cfg.T p x.other x s
      ((st.log [.write p x (2 ^ 32 + e.out.length) []]).event_add (.ev p x .output))
    exact ⟨_, [], acts, rfl, by rw [h]; simp⟩
  | error => exact ⟨_, [], [.close p], rfl, by simp⟩

theorem output_cb_count_exceeds_window_example :
    Reachable exampleCfg [0, 1, 2, 3] exampleRun ∧ exampleRun.mem 0 = some exampleSession ∧
      ∃ st' acc rest, output_cb exampleCfg 4 0 exampleSession exampleOracle exampleRun = .run st' ∧
        st'.trace = exampleRun.trace ++ Act.write 0 .client 4294967297 acc :: rest :=
  ⟨exampleRun_reachable, rfl, output_cb_count_exceeds_window exampleCfg rfl exampleRun 0 exampleSession
    .client ⟨[], [7]⟩ exampleOracle (by decide) rfl (by decide) rfl⟩

/-! ### What reaches each socket -/

/-- The bytes a `write` on side `x` of session `p` accepted. -/
def Act.written (p : Nat) (x : SideName) : Act → Bytes
  | .write q y _ acc => if q = p ∧ y = x then acc else []
  | _ => []

/-- The bytes side `x`'s engine of session `p` appended to its output window. -/
def Act.produced (T : Transport) (p : Nat) (x : SideName) : Act → Bytes
  | .put q y pkt => if q = p ∧ y = x then T.frame pkt else []
  | .append q y _ b => if q = p ∧ y = x then b else []
  | _ => []

/-- The output accounting of `output_cb` (spec §4.6) for side `x` of session `p`, whose
engine is `e`: the bytes `write` accepted, followed by the window, are everything the engine
put into its output. -/
def Accounted (T : Transport) (st : Proxy) (p : Nat) (x : SideName) (e : Engine) : Prop :=
  st.trace.flatMap (Act.written p x) ++ e.out = st.trace.flatMap (Act.produced T p x)

section Forward

variable {T : Transport} {a b : SideName} {ef et : Engine}

theorem fwdEngines_snd_out :
    (fwdEngines T ef et).2.out = et.out ++ (fwdActs p a b ef).flatMap (Act.produced T p b) := by
  unfold fwdEngines fwdActs
  split <;> simp [ssh_packet_put, Act.produced]

theorem fwdActs_produced_src (hab : a ≠ b) : (fwdActs p a b ef).flatMap (Act.produced T p a) = [] := by
  unfold fwdActs
  split <;> simp [Act.produced, Ne.symm hab]

theorem fwdActs_written (y : SideName) : (fwdActs p a b ef).flatMap (Act.written p y) = [] := by
  unfold fwdActs
  split <;> simp [Act.written]

end Forward

/-- Forwarding changes no side's accounting: whatever lands in a window is recorded as
put there, and nothing is written. -/
theorem forwardBoth_accounting (T : Transport) (p : Nat) (a b : SideName) (s : Session) (st : Proxy)
    (hab : b = a.other) {ea eb : Engine} (ha : (s.side a).ssh = some ea) (hb : (s.side b).ssh = some eb) :
    ∃ acts s', (forwardBoth T p a b s st).trace = st.trace ++ acts ∧
      (forwardBoth T p a b s st).mem p = some s' ∧
      ∀ y ey, (s.side y).ssh = some ey → ∃ ey', (s'.side y).ssh = some ey' ∧
        ey'.out = ey.out ++ acts.flatMap (Act.produced T p y) ∧ acts.flatMap (Act.written p y) = [] := by
  subst hab
  unfold forwardBoth
  rw [ssh_packet_fwd_some ha hb]
  dsimp only
  set e1 := fwdEngines T ea eb
  have h1 : (((s.setSsh a (some e1.1)).setSsh a.other (some e1.2)).side a.other).ssh = some e1.2 := by
    simp
  have h2 : (((s.setSsh a (some e1.1)).setSsh a.other (some e1.2)).side a).ssh = some e1.1 := by
    simp
  rw [ssh_packet_fwd_some h1 h2]
  dsimp only
  refine ⟨fwdActs p a a.other ea ++ fwdActs p a.other a e1.2, _, by simp, Function.update_same _ _ _,
    fun y ey hy => ?_⟩
  rcases SideName.eq_or_eq_other a y with rfl | rfl
  · rw [ha] at hy
    cases hy
    refine ⟨(fwdEngines T e1.2 e1.1).2, by simp, ?_, by simp [fwdActs_written]⟩
    rw [fwdEngines_snd_out (p := p) (a := y.other) (b := y)]
    simp [e1, fwdActs_produced_src (SideName.ne_other y)]
  · rw [hb] at hy
    cases hy
    refine ⟨(fwdEngines T e1.2 e1.1).1, by simp, ?_, by simp [fwdActs_written]⟩
    rw [fwdEngines_fst_out, fwdEngines_snd_out (p := p) (a := a) (b := a.other)]
    simp [fwdActs_produced_src (SideName.other_ne a)]

theorem sentBytes_length (obuf : Bytes) (beyond : Nat → UInt8) (n : Nat) :
    (sentBytes obuf beyond n).length = n := by
  simp [sentBytes]
  omega

/-- Once `write` has been asked for more than the window and the socket takes one byte
past it, that byte reaches the peer although the engine never produced it: on every state
where the accounting held, it fails afterwards. -/
theorem output_cb_sends_past_window (cfg : Config) (hle : cfg.order = .little) (st : Proxy)
    (p : Nat) (s : Session) (x : SideName) (e : Engine) (o : Oracle) (hne : s.client.fd ≠ s.server.fd)
    (he : (s.side x).ssh = some e) (hother : ((s.side x.other).ssh).isSome)
    (hlen : e.out.length < 2 ^ 32) (hprior : o.olen = 2 ^ 32) (hroom : o.write = .room (e.out.length + 1))
    (hacc : Accounted cfg.T st p x e) :
    ∃ st' s' e', output_cb cfg (s.side x).fd p s o st = .run st' ∧ st'.mem p = some s' ∧
      (s'.side x).ssh = some e' ∧ ¬Accounted cfg.T st' p x e' := by
  have holen : olenAfter cfg.order o.olen e.out.length = ((2 ^ 32 + e.out.length : Nat) : Int) := by
    rw [hle, hprior, olenAfter_little_high hlen]
  have hn : min (e.out.length + 1) (2 ^ 32 + e.out.length) = e.out.length + 1 := by omega
  obtain ⟨eo, heo⟩ := Option.isSome_iff_exists.1 hother
  unfold output_cb
  simp only [sideOf_fd hne, he, ssh_output_ptr, holen, hroom]
  rw [if_pos (by omega)]
  simp only [Int.toNat_ofNat, hn, Nat.add_one_ne_zero, if_false]
  set n := e.out.length + 1
  set s₁ := s.setSsh x (some (ssh_output_consume e n))
  have ha₁ : (s₁.side x.other).ssh = some eo := by simp [s₁, heo]
  have hb₁ : (s₁.side x).ssh = some (ssh_output_consume e n) := by simp [s₁]
  obtain ⟨acts, s', htr, hs', hy⟩ := forwardBoth_accounting cfg.T p x.other x s₁
    (st.log [.write p x (2 ^ 32 + e.out.length) (sentBytes e.out o.beyond n), .consume p x n])
    (by simp) ha₁ hb₁
  obtain ⟨e', he', hout, hw⟩ := hy x _ hb₁
  refine ⟨_, s', e', rfl, hs', he', fun h => ?_⟩
  have hlen' := congrArg List.length h
  have hacc' := congrArg List.length hacc
  simp only [Accounted, htr, Proxy.log_trace, List.flatMap_append, hw, hout, List.length_append,
    ssh_output_consume, List.length_drop] at hlen' hacc'
  generalize (st.trace.flatMap (Act.written p x)).length = w at hlen' hacc'
  generalize (st.trace.flatMap (Act.produced cfg.T p x)).length = q at hlen' hacc'
  simp [Act.written, Act.produced, sentBytes_length, n] at hlen'
  omega

theorem output_cb_sends_past_window_example :
    Reachable exampleCfg [0, 1, 2, 3] exampleRun ∧ exampleRun.mem 0 = some exampleSession ∧
      ∃ st' s' e', output_cb exampleCfg 4 0 exampleSession exampleOracle exampleRun = .run st' ∧
        st'.mem 0 = some s' ∧ (s'.side .client).ssh = some e' ∧ ¬Accounted exampleCfg.T st' 0 .client e' :=
  ⟨exampleRun_reachable, rfl, output_cb_sends_past_window exampleCfg rfl exampleRun 0 exampleSession
    .client ⟨[], [7]⟩ exampleOracle (by decide) rfl rfl (by decide) rfl rfl rfl⟩

end Libopenssh.SshProxy

import Mathlib.Data.List.Perm.Subperm
import Libopenssh.Proxy.Model

/-! Spec lemmas for the building blocks of `ssh-proxy.c`: descriptors, `do_connect`,
the descriptors sessions hold, `session_close` and `ssh_packet_fwd`. -/
namespace Libopenssh.SshProxy

variable {st : Proxy} {p : Nat} {s : Session}

@[simp] theorem SideName.other_other (x : SideName) : x.other.other = x := by cases x <;> rfl

@[simp] theorem SideName.other_ne (x : SideName) : x.other ≠ x := by cases x <;> decide

@[simp] theorem SideName.ne_other (x : SideName) : x ≠ x.other := by cases x <;> decide

theorem SideName.eq_or_eq_other (x y : SideName) : y = x ∨ y = x.other := by
  cases x <;> cases y <;> simp [SideName.other]

@[simp] theorem Session.setSsh_side_fd (s : Session) (x y : SideName) (e : Option Engine) :
    ((s.setSsh x e).side y).fd = (s.side y).fd := by cases x <;> cases y <;> rfl

@[simp] theorem Session.setSsh_side_event (s : Session) (x y : SideName) (e : Option Engine) :
    ((s.setSsh x e).side y).event = (s.side y).event := by cases x <;> cases y <;> rfl

@[simp] theorem Session.setSsh_side_ssh (s : Session) (x y : SideName) (e : Option Engine) :
    ((s.setSsh x e).side y).ssh = if y = x then e else (s.side y).ssh := by
  cases x <;> cases y <;> rfl

@[simp] theorem Session.setSsh_connected (s : Session) (x : SideName) (e : Option Engine) :
    (s.setSsh x e).connected = s.connected := by cases x <;> rfl

@[simp] theorem Session.setSsh_fds (s : Session) (x : SideName) (e : Option Engine) :
    (s.setSsh x e).fds = s.fds := by cases x <;> rfl

theorem lowestFree_spec (fds : List Int) : 0 ≤ lowestFree fds ∧ lowestFree fds ∉ fds := by
  let cands := (List.range (fds.length + 1)).map Int.ofNat
  have hsome : (cands.find? fun n => n ∉ fds).isSome := by
    rw [List.find?_isSome]
    by_contra hall
    push_neg at hall
    have hsub : cands ⊆ fds := fun n hn => by simpa using hall n hn
    have := ((List.nodup_range _).map fun _ _ h => Int.ofNat.inj h).subperm hsub |>.length_le
    rw [List.length_map, List.length_range] at this
    omega
  obtain ⟨n, hn⟩ := Option.isSome_iff_exists.1 hsome
  obtain ⟨m, -, rfl⟩ := List.mem_map.1 (List.mem_of_find?_eq_some hn)
  simp only [lowestFree, hn, Option.getD_some]
  exact ⟨Int.ofNat_nonneg m, by simpa using List.find?_some hn⟩

theorem lowestFree_not_mem (fds : List Int) : lowestFree fds ∉ fds := (lowestFree_spec fds).2

theorem lowestFree_nonneg (fds : List Int) : 0 ≤ lowestFree fds := (lowestFree_spec fds).1

@[simp] theorem Proxy.log_nil (st : Proxy) : st.log [] = st := by simp [Proxy.log]

theorem Proxy.close_of_mem {fd : Int} (h : fd ∈ st.fds) :
    st.close fd = { st with fds := st.fds.erase fd } := if_pos h

section Close

variable {fd : Int}

@[simp] theorem Proxy.close_mem (q : Nat) : (st.close fd).mem q = st.mem q := by
  unfold Proxy.close; split <;> rfl
@[simp] theorem Proxy.close_next : (st.close fd).next = st.next := by unfold Proxy.close; split <;> rfl
@[simp] theorem Proxy.close_sessions : (st.close fd).sessions = st.sessions := by
  unfold Proxy.close; split <;> rfl
@[simp] theorem Proxy.close_pending (r : Ref) : (st.close fd).pending r = st.pending r := by
  unfold Proxy.close; split <;> rfl
@[simp] theorem Proxy.close_trace : (st.close fd).trace = st.trace := by unfold Proxy.close; split <;> rfl

end Close

/-- A socket opened and closed again leaves the process as it was. -/
theorem Proxy.openFd_close (st : Proxy) : st.openFd.2.close st.openFd.1 = st := by
  have h := lowestFree_not_mem st.fds
  rw [Proxy.close_of_mem (by simp [Proxy.openFd])]
  simp [Proxy.openFd, List.erase_append_right _ h]

/-- An entry on which `socket`, `fcntl` and `connect` all succeed. -/
def AddrTry.connects : AddrTry → Bool
  | .socket true true => true
  | _ => false

/-- A loop over the addresses that, at each entry, either takes the lowest free descriptor
or goes on with the table as it was, returns that descriptor for the first good entry and
-1 without one. -/
theorem addr_loop_eq {α : Type} (good : α → Bool) (st : Proxy) (loop : List α → Int × Proxy)
    (nil : loop [] = (-1, st))
    (cons : ∀ a ai, loop (a :: ai) = if good a then st.openFd else loop ai) (ai : List α) :
    loop ai = if ai.any good then st.openFd else (-1, st) := by
  induction ai with
  | nil => simpa using nil
  | cons a ai ih => cases h : good a <;> simp [cons, ih, h]

theorem do_connect_loop_cons (a : AddrTry) (ai : List AddrTry) (st : Proxy) :
    do_connect_loop (a :: ai) st = if a.connects then st.openFd else do_connect_loop ai st := by
  have hc : st.openFd.2.close (lowestFree st.fds) = st := Proxy.openFd_close st
  cases a with
  | otherFamily | socketFails => rfl
  | socket f c =>
    cases f <;> cases c
    case true.true => rfl
    all_goals simp [do_connect_loop, AddrTry.connects, hc]

theorem do_connect_loop_any (ai : List AddrTry) (st : Proxy) :
    do_connect_loop ai st = if ai.any AddrTry.connects then st.openFd else (-1, st) :=
  addr_loop_eq _ st (do_connect_loop · st) rfl (do_connect_loop_cons · · st) ai

/-- `do_connect` either fails and leaves the process as it was, or returns a new open
descriptor. -/
theorem do_connect_eq (addrs : Option (List AddrTry)) (st : Proxy) :
    do_connect addrs st = (-1, st) ∨
      ∃ sock, 0 ≤ sock ∧ sock ∉ st.fds ∧
        do_connect addrs st = (sock, { st with fds := st.fds ++ [sock] }) := by
  cases addrs with
  | none => exact .inl rfl
  | some ai =>
    simp only [do_connect, do_connect_loop_any]
    split
    · exact .inr ⟨_, lowestFree_nonneg _, lowestFree_not_mem _, rfl⟩
    · exact .inl rfl

theorem do_connect_neg {addrs : Option (List AddrTry)} (h : (do_connect addrs st).1 < 0) :
    do_connect addrs st = (-1, st) := by
  rcases do_connect_eq addrs st with hd | ⟨sock, h0, -, hd⟩ <;> rw [hd] at h ⊢
  simp at h; omega

theorem do_connect_nonneg {addrs : Option (List AddrTry)} (h : ¬(do_connect addrs st).1 < 0) :
    (do_connect addrs st).1 ∉ st.fds ∧
      (do_connect addrs st).2 = { st with fds := st.fds ++ [(do_connect addrs st).1] } := by
  rcases do_connect_eq addrs st with hd | ⟨sock, -, hn, hd⟩ <;> rw [hd] at h ⊢
  · simp at h
  · exact ⟨hn, rfl⟩

/-- The `fail:` label right after `accept` gave the session its socket: that socket is
closed again and the session freed. -/
theorem accept_fail_openFd (st : Proxy) (p : Nat) (s : Session) (hc : s.client.fd = st.openFd.1) :
    accept_fail p s st.openFd.2 = st.store p none := by
  have := lowestFree_nonneg st.fds
  unfold accept_fail
  rw [hc, if_pos (by simp only [Proxy.openFd]; omega), Proxy.openFd_close]

/-! ### What sessions hold -/

/-- The descriptors the session at address `q` holds; none once it is freed. -/
def heldBy (m : Nat → Option Session) (q : Nat) : List Int := ((m q).map Session.fds).getD []

/-- The descriptors held by sessions, address by address. -/
def held (st : Proxy) : List Int := (List.range st.next).flatMap (heldBy st.mem)

theorem held_congr {st' : Proxy} (hn : st'.next = st.next) (hm : st'.mem = st.mem) :
    held st' = held st := by
  rw [held, held, hn, hm]

theorem held_store (h : st.mem p = some s) {s' : Session} (hfds : s'.fds = s.fds) :
    held (st.store p (some s')) = held st := by
  have : heldBy (st.store p (some s')).mem = heldBy st.mem := by
    funext q
    by_cases hq : q = p
    · subst hq; simp [heldBy, h, hfds]
    · simp [heldBy, hq]
  rw [held, held, this, Proxy.store_next]

theorem perm_flatMap_update {l : List Nat} (g g' : Nat → List Int) (hl : l.Nodup) (hp : p ∈ l)
    (hg : ∀ q, q ≠ p → g' q = g q) (hgp : g' p = []) :
    List.Perm (l.flatMap g) (l.flatMap g' ++ g p) := by
  induction l with
  | nil => simp at hp
  | cons a l ih =>
    rw [List.nodup_cons] at hl
    by_cases ha : a = p
    · subst ha
      have hrest : l.flatMap g' = l.flatMap g := by
        simp only [List.flatMap]
        congr 1
        exact List.map_congr_left fun q hq => hg q fun h => hl.1 (h ▸ hq)
      simpa [hgp, hrest] using List.perm_append_comm
    · have hp' : p ∈ l := by simpa [Ne.symm ha] using hp
      simpa [hg a ha] using (ih hl.2 hp').append_left (g a)

/-- Freeing a session gives up exactly the descriptors it held. -/
theorem held_free (hp : p < st.next) (h : st.mem p = some s) :
    List.Perm (held st) (held (st.store p none) ++ s.fds) := by
  have := perm_flatMap_update (heldBy st.mem) (heldBy (st.store p none).mem) (List.nodup_range st.next) (List.mem_range.2 hp) (fun q hq => by simp [heldBy, hq])
    (by simp [heldBy])
  simpa [held, heldBy, h] using this

/-- A new address `st.next` adds what is stored there at the end. -/
theorem held_succ {st' : Proxy} (hn : st'.next = st.next + 1)
    (hm : ∀ q, q ≠ st.next → st'.mem q = st.mem q) :
    held st' = held st ++ heldBy st'.mem st.next := by
  have hrest : (List.range st.next).flatMap (heldBy st'.mem) =
      (List.range st.next).flatMap (heldBy st.mem) := by
    simp only [List.flatMap]
    congr 1
    exact List.map_congr_left fun q hq => by
      simp [heldBy, hm q (Nat.ne_of_lt (List.mem_range.1 hq))]
  simp [held, hn, List.range_succ, hrest]

theorem fds_sublist_held (hp : p < st.next) (h : st.mem p = some s) :
    List.Sublist s.fds (held st) := by
  apply List.sublist_flatten_of_mem
  exact List.mem_map.2 ⟨p, List.mem_range.2 hp, by simp [heldBy, h]⟩

/-! ### Changes confined to one session -/

/-- `st'` differs from `st` only in the memory and queue entries of session `p`, and by
calls appended that close no session. -/
structure Touches (p : Nat) (st st' : Proxy) : Prop where
  mem : ∀ q, q ≠ p → st'.mem q = st.mem q
  pending : ∀ r, (∀ x d, r ≠ .ev p x d) → st'.pending r = st.pending r
  next : st'.next = st.next
  sessions : st'.sessions = st.sessions
  fds : st'.fds = st.fds
  badCloses : st'.badCloses = st.badCloses
  trace : ∃ acts, st'.trace = st.trace ++ acts ∧ ∀ q, Act.close q ∉ acts

namespace Touches

variable {st' st'' : Proxy}

theorem refl (p : Nat) (st : Proxy) : Touches p st st :=
  ⟨fun _ _ => rfl, fun _ _ => rfl, rfl, rfl, rfl, rfl, ⟨[], by simp, by simp⟩⟩

theorem trans (h : Touches p st st') (h' : Touches p st' st'') : Touches p st st'' where
  mem q hq := (h'.mem q hq).trans (h.mem q hq)
  pending r hr := (h'.pending r hr).trans (h.pending r hr)
  next := h'.next.trans h.next
  sessions := h'.sessions.trans h.sessions
  fds := h'.fds.trans h.fds
  badCloses := h'.badCloses.trans h.badCloses
  trace := by
    obtain ⟨a, ha, hac⟩ := h.trace
    obtain ⟨a', ha', hac'⟩ := h'.trace
    exact ⟨a ++ a', by simp [ha', ha], fun q hq => (List.mem_append.1 hq).elim (hac q) (hac' q)⟩

theorem event_add (x : SideName) (d : Dir) : Touches p st (st.event_add (.ev p x d)) :=
  { refl p st with
    pending := fun r hr => by simp [Function.update_apply, hr x d] }

theorem event_del (x : SideName) (d : Dir) : Touches p st (st.event_del (.ev p x d)) :=
  { refl p st with
    pending := fun r hr => by simp [Function.update_apply, hr x d] }

theorem store (v : Option Session) : Touches p st (st.store p v) :=
  { refl p st with
    mem := fun q hq => by simp [hq] }

theorem log {acts : List Act} (h : ∀ q, Act.close q ∉ acts) : Touches p st (st.log acts) :=
  { refl p st with
    trace := ⟨acts, rfl, h⟩ }

theorem armOutput (x : SideName) (e : Engine) : Touches p st (armOutput p x e st) := by
  unfold SshProxy.armOutput
  split
  · exact event_add x .output
  · exact refl p st

end Touches

section SessionClose

variable {r : Ref}

@[simp] theorem session_close_mem (q : Nat) :
    (session_close p s st).mem q = Function.update st.mem p none q := by
  unfold session_close; split_ifs <;> simp [Function.update_apply]

@[simp] theorem session_close_next : (session_close p s st).next = st.next := by
  unfold session_close; split_ifs <;> simp

@[simp] theorem session_close_trace : (session_close p s st).trace = st.trace ++ [.close p] := by
  unfold session_close; split_ifs <;> simp

theorem session_close_sessions :
    (session_close p s st).sessions = if s.connected = 1 then st.sessions.erase p else st.sessions := by
  unfold session_close; split_ifs <;> simp

theorem session_close_pending_other (hr : ∀ x d, r ≠ .ev p x d) :
    (session_close p s st).pending r = st.pending r := by
  unfold session_close
  split_ifs <;> simp [Function.update_apply, hr]

theorem session_close_pending_of_ne (hc : s.connected ≠ 1) :
    (session_close p s st).pending r = st.pending r := by
  unfold session_close
  split_ifs <;> simp_all

theorem session_close_pending_self (hc : s.connected = 1) (x : SideName) (d : Dir) :
    (session_close p s st).pending (.ev p x d) = false := by
  unfold session_close
  simp only [hc, if_true]
  cases x <;> cases d <;> simp [Function.update_apply]

/-- `session_close` on a session holding two open descriptors closes each of them once. -/
theorem session_close_fds (hc : s.client.fd ∈ st.fds) (hs : s.server.fd ∈ st.fds.erase s.client.fd)
    (hc1 : s.client.fd ≠ -1) (hs1 : s.server.fd ≠ -1) :
    (session_close p s st).fds = (st.fds.erase s.client.fd).erase s.server.fd ∧
      (session_close p s st).badCloses = st.badCloses := by
  unfold session_close
  simp only [ne_eq, hc1, hs1, not_false_eq_true, if_true, Proxy.close_of_mem hc]
  rw [Proxy.close_of_mem hs]
  split_ifs <;> simp

/-- The same once the server descriptor has been closed and set to -1. -/
theorem session_close_fds_client (hc : s.client.fd ∈ st.fds) (hc1 : s.client.fd ≠ -1)
    (hs1 : s.server.fd = -1) :
    (session_close p s st).fds = st.fds.erase s.client.fd ∧
      (session_close p s st).badCloses = st.badCloses := by
  unfold session_close
  simp only [ne_eq, hc1, hs1, not_false_eq_true, if_true, not_true_eq_false, if_false,
    Proxy.close_of_mem hc]
  split_ifs <;> simp

end SessionClose

/-- The two engines after one `ssh_packet_fwd` from `ef` to `et`. -/
def fwdEngines (T : Transport) (ef et : Engine) : Engine × Engine :=
  match ef.inbox with
  | [] => (ef, et)
  | q :: qs => ({ ef with inbox := qs }, ssh_packet_put T et q)

/-- The calls of one `ssh_packet_fwd` from side `a` to side `b`. -/
def fwdActs (p : Nat) (a b : SideName) (ef : Engine) : List Act :=
  match ef.inbox with
  | [] => []
  | q :: _ => [.got p a q, .put p b q]

section Forward

variable {T : Transport} {a b x : SideName} {ea eb ef et e : Engine}

@[simp] theorem fwdEngines_fst_out : (fwdEngines T ef et).1.out = ef.out := by
  unfold fwdEngines; split <;> rfl

@[simp] theorem fwdEngines_snd_inbox : (fwdEngines T ef et).2.inbox = et.inbox := by
  unfold fwdEngines; split <;> rfl

/-- A packet left behind on the sending engine means one was just put on the other. -/
theorem fwdEngines_covers (h : (fwdEngines T ef et).1.inbox ≠ []) : (fwdEngines T ef et).2.out ≠ [] := by
  unfold fwdEngines at h ⊢
  split
  · next hi => simp [hi] at h
  · simp [ssh_packet_put, T.frame_ne]

theorem fwdActs_no_close (q : Nat) : Act.close q ∉ fwdActs p a b ef := by
  unfold fwdActs; split <;> simp

theorem ssh_packet_fwd_some (ha : (s.side a).ssh = some ea) (hb : (s.side b).ssh = some eb) :
    ssh_packet_fwd T p a b s st =
      ((s.setSsh a (some (fwdEngines T ea eb).1)).setSsh b (some (fwdEngines T ea eb).2),
        armOutput p b (fwdEngines T ea eb).2
          (armOutput p a (fwdEngines T ea eb).1 (st.log (fwdActs p a b ea)))) := by
  cases h : ea.inbox <;> simp [ssh_packet_fwd, ha, hb, ssh_packet_get, fwdEngines, fwdActs, h]

@[simp] theorem armOutput_trace : (armOutput p x e st).trace = st.trace := by
  unfold armOutput; split_ifs <;> rfl

@[simp] theorem armOutput_mem (q : Nat) : (armOutput p x e st).mem q = st.mem q := by
  unfold armOutput; split_ifs <;> rfl

theorem armOutput_keeps {r : Ref} (h : st.pending r = true) : (armOutput p x e st).pending r = true := by
  unfold armOutput; split_ifs <;> simp [Function.update_apply, h]

theorem armOutput_self (h : e.out ≠ []) : (armOutput p x e st).pending (.ev p x .output) = true := by
  simp [armOutput, ssh_output_ptr, h]

end Forward

/-- Every byte queued on a side of session `p` has that side's writable event registered,
and a packet decoded on a side and not yet taken leaves bytes queued on the other side. -/
structure Covered (st : Proxy) (p : Nat) (s : Session) : Prop where
  output : ∀ x e, (s.side x).ssh = some e → e.out ≠ [] → st.pending (.ev p x .output) = true
  inbox : ∀ x e, (s.side x).ssh = some e → e.inbox ≠ [] →
    ∃ e', (s.side x.other).ssh = some e' ∧ e'.out ≠ []

/-- `s'` is `s` with other engines, both present. -/
structure Refit (s s' : Session) : Prop where
  fd : ∀ y, (s'.side y).fd = (s.side y).fd
  event : ∀ y, (s'.side y).event = (s.side y).event
  connected : s'.connected = s.connected
  engine : ∀ y, ((s'.side y).ssh).isSome

theorem Refit.fds {s' : Session} (h : Refit s s') : s'.fds = s.fds := by
  have hc := h.fd .client
  have hs := h.fd .server
  simp only [Session.side] at hc hs
  simp [Session.fds, hc, hs]

/-- What `forwardBoth` does to a session whose engines both exist: only its engines and
its writable events change, and afterwards every queued byte and packet is covered. -/
structure Forwarded (p : Nat) (s : Session) (st st' : Proxy) : Prop where
  touches : Touches p st st'
  keeps : ∀ r, st.pending r = true → st'.pending r = true
  session : ∃ s', st'.mem p = some s' ∧ Refit s s' ∧ Covered st' p s'

theorem forwardBoth_spec (T : Transport) (p : Nat) (a : SideName) (s : Session) (st : Proxy)
    {ea eb : Engine} (ha : (s.side a).ssh = some ea) (hb : (s.side a.other).ssh = some eb) :
    Forwarded p s st (forwardBoth T p a a.other s st) := by
  unfold forwardBoth
  rw [ssh_packet_fwd_some ha hb]
  dsimp only
  set e1 := fwdEngines T ea eb
  have h1 : (((s.setSsh a (some e1.1)).setSsh a.other (some e1.2)).side a.other).ssh = some e1.2 := by
    simp
  have h2 : (((s.setSsh a (some e1.1)).setSsh a.other (some e1.2)).side a).ssh = some e1.1 := by
    simp
  rw [ssh_packet_fwd_some h1 h2]
  dsimp only
  set e2 := fwdEngines T e1.2 e1.1
  refine ⟨?_, ?_, ?_⟩
  · exact (((((Touches.log (fwdActs_no_close · )).trans (Touches.armOutput _ _)).trans
      (Touches.armOutput _ _)).trans (Touches.log (fwdActs_no_close ·))).trans
      (Touches.armOutput _ _)).trans ((Touches.armOutput _ _).trans (Touches.store _))
  · intro r hr
    simp only [Proxy.store_pending]
    exact armOutput_keeps (armOutput_keeps (armOutput_keeps (armOutput_keeps hr)))
  · refine ⟨_, Function.update_same _ _ _, ⟨fun y => by simp, fun y => by simp, by simp, fun y => ?_⟩,
      ⟨?_, ?_⟩⟩
    · rcases SideName.eq_or_eq_other a y with rfl | rfl <;> simp
    · intro y e hy hout
      simp only [Proxy.store_pending]
      rcases SideName.eq_or_eq_other a y with rfl | rfl
      · simp at hy
        subst hy
        exact armOutput_self hout
      · simp at hy
        subst hy
        exact armOutput_keeps (armOutput_self hout)
    · intro y e hy hin
      rcases SideName.eq_or_eq_other a y with rfl | rfl
      · simp at hy
        subst hy
        refine ⟨e2.1, by simp, ?_⟩
        simpa [e2] using fwdEngines_covers (by simpa [e2] using hin)
      · simp at hy
        subst hy
        exact ⟨e2.2, by simp, fwdEngines_covers hin⟩

end Libopenssh.SshProxy

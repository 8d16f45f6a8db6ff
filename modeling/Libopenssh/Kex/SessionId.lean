import Libopenssh.Kex.Stages

/-! The session id over a connection's key exchanges: bound once, to the first exchange
hash, and left alone by every re-key. -/
namespace Libopenssh.KexEcdh

variable {Key : Type} {E : EcdhEnv Key} {ssh ssh' : Ssh Key} {l : Locals} {new : List Ev}
  {kex' : Kex Key}

/-- How one call, returning `r`, treats the session id: once set it is kept; it is set only
from NULL, and then to this call's exchange hash; keys are derived only from this call's own
hash, the one it signs; and a call that returns 0 has signed its own `H`, derived the keys
from it, and bound a NULL session id to it. -/
structure SessionIdStep (E : EcdhEnv Key) (ssh : Ssh Key) (r : Except SshErr Unit)
    (ssh' : Ssh Key) : Prop where
  kept : ∀ sid, ssh.kex.session_id = some sid →
    ssh'.kex.session_id = some sid ∧ ssh'.kex.session_id_len = ssh.kex.session_id_len
  bound : ∀ sid, ssh.kex.session_id = none → ssh'.kex.session_id = some sid →
    ∃ x : Handshake E ssh.kex ssh.payload, x.hash = sid ∧ ssh'.kex.session_id_len = sid.length
  fresh : ∃ new, ssh'.trace = ssh.trace ++ new ∧ ∀ H K, .deriveKeys H K ∈ new →
    ∃ (x : Handshake E ssh.kex ssh.payload) (sig : Bytes), x.hash = H ∧ x.shared_secret = K ∧
      E.sshkey_sign x.server_host_private H = some sig ∧ .putString sig ∈ new
  done : r = .ok () → ∃ (x : Handshake E ssh.kex ssh.payload) (sig : Bytes),
    E.sshkey_sign x.server_host_private x.hash = some sig ∧
    (∃ new, ssh'.trace = ssh.trace ++ new ∧ .putString sig ∈ new ∧
      .deriveKeys x.hash x.shared_secret ∈ new) ∧
    (ssh.kex.session_id = none →
      ssh'.kex.session_id = some x.hash ∧ ssh'.kex.session_id_len = x.hash.length)

theorem saveSessionId_kept {k : Kex Key} {H sid : Bytes} (h : k.session_id = some sid) :
    (k.saveSessionId H).session_id = some sid ∧
      (k.saveSessionId H).session_id_len = k.session_id_len := by
  simp [Kex.saveSessionId_of_some h, h]

theorem saveSessionId_bound {k : Kex Key} {H sid : Bytes} (h : k.session_id = none)
    (h' : (k.saveSessionId H).session_id = some sid) :
    H = sid ∧ (k.saveSessionId H).session_id_len = sid.length := by
  simp_all [Kex.saveSessionId_of_none h]

/-- What an exit of the body does to the session id and which hash keys come from. -/
theorem exit_sessionId (hx : Exit E ssh l new kex') :
    (∀ sid, ssh.kex.session_id = some sid →
      kex'.session_id = some sid ∧ kex'.session_id_len = ssh.kex.session_id_len) ∧
    (∀ sid, ssh.kex.session_id = none → kex'.session_id = some sid →
      ∃ x : Handshake E ssh.kex ssh.payload, x.hash = sid ∧ kex'.session_id_len = sid.length) ∧
    ∀ H K, .deriveKeys H K ∈ new →
      ∃ (x : Handshake E ssh.kex ssh.payload) (sig : Bytes), x.hash = H ∧ x.shared_secret = K ∧
        E.sshkey_sign x.server_host_private H = some sig ∧ .putString sig ∈ new := by
  cases hx with
  | setup l evs h =>
    refine ⟨fun sid h => ⟨h, rfl⟩, fun sid h h' => by simp_all, fun H K hd => ?_⟩
    rcases h with ⟨-, rfl⟩ | ⟨-, h⟩
    · simp at hd
    · simp only [List.mem_cons, List.mem_singleton, List.not_mem_nil, or_false] at h
      rcases h with rfl | rfl | rfl <;> simp at hd
  | sharedSecret d l evs hv h =>
    refine ⟨fun sid h => ⟨h, rfl⟩, fun sid h h' => by simp_all, fun H K hd => ?_⟩
    rcases h with ⟨-, rfl⟩ | ⟨-, rfl⟩ | ⟨-, rfl⟩ <;> simp at hd
  | exchangeHash a l evs kex' h hs hs' =>
    refine ⟨fun sid h => by simp [hs' (by simp [h]), h], fun sid h h' => by simp_all,
      fun H K hd => ?_⟩
    rcases h with ⟨-, rfl⟩ | ⟨-, rfl⟩ <;> simp [Agreed.events] at hd
  | reply x sig evs hsig hp hs =>
    refine ⟨fun sid h => saveSessionId_kept h, fun sid h h' => ?_, fun H K hd => ?_⟩
    · obtain ⟨rfl, h⟩ := saveSessionId_bound h h'
      exact ⟨x, rfl, h⟩
    · rcases List.mem_append.1 hd with hd | hd
      · rcases x.of_mem_events hd with hd | hd | hd <;> simp_all [Agreed.events]
      · rcases List.mem_cons.1 hd with hd | hd
        · cases hd
        · simpa [replyPacket] using hp.subset hd
  | done x sig hsig =>
    refine ⟨fun sid h => saveSessionId_kept h, fun sid h h' => ?_, fun H K hd => ?_⟩
    · obtain ⟨rfl, h⟩ := saveSessionId_bound h h'
      exact ⟨x, rfl, h⟩
    · refine ⟨x, sig, ?_⟩
      rcases List.mem_append.1 hd with hd | hd
      · rcases List.mem_append.1 hd with hd | hd
        · rcases x.of_mem_events hd with hd | hd | hd <;> simp_all [Agreed.events]
        · simp [replyPacket] at hd
      · simp only [List.mem_cons, Ev.deriveKeys.injEq, List.mem_singleton, reduceCtorEq,
          List.not_mem_nil, or_false] at hd
        obtain ⟨rfl, rfl⟩ := hd
        exact ⟨rfl, rfl, hsig, by simp [replyPacket]⟩

/-- A call that returns 0 signed its own `H`, derived the keys from it, and bound a NULL
session id to it. -/
theorem ret_ok_done (h : input_kex_ecdh_init E ssh = .ret (.ok ()) ssh') :
    ∃ (x : Handshake E ssh.kex ssh.payload) (sig : Bytes),
      E.sshkey_sign x.server_host_private x.hash = some sig ∧
      (∃ new, ssh'.trace = ssh.trace ++ new ∧ .putString sig ∈ new ∧
        .deriveKeys x.hash x.shared_secret ∈ new) ∧
      (ssh.kex.session_id = none →
        ssh'.kex.session_id = some x.hash ∧ ssh'.kex.session_id_len = x.hash.length) := by
  unfold input_kex_ecdh_init at h
  split at h <;> cases h
  obtain ⟨x, sig, hsig, hk, ht⟩ := body_ok ‹_›
  refine ⟨x, sig, hsig, ⟨_, by rw [epilogue_trace, ht, List.append_assoc], by simp [replyPacket],
    by simp⟩, fun hn => ?_⟩
  simp [epilogue_kex, hk, Kex.saveSessionId_of_none hn]

theorem ret_sessionIdStep {r : Except SshErr Unit} (h : input_kex_ecdh_init E ssh = .ret r ssh') :
    SessionIdStep E ssh r ssh' := by
  obtain ⟨s', new, rfl, ht, hx⟩ := ret_exit h
  obtain ⟨hk, hb, hf⟩ := exit_sessionId hx
  have hkex := epilogue_kex s'
  refine ⟨fun sid h => by simpa [hkex] using hk sid h,
    fun sid h h' => by simpa [hkex] using hb sid h (by simpa [hkex] using h'),
    ⟨new ++ epilogueCalls s', by rw [epilogue_trace, ht, List.append_assoc], fun H K hd => ?_⟩,
    fun hr => ret_ok_done (hr ▸ h)⟩
  obtain ⟨x, sig, h₁, h₂, h₃, h₄⟩ := hf H K <| (List.mem_append.1 hd).resolve_right fun h => by
    simpa [Ev.isRelease] using isRelease_of_mem_epilogueCalls h
  exact ⟨x, sig, h₁, h₂, h₃, List.mem_append_left _ h₄⟩

/-- One key exchange on the connection: what the KEXINIT before it negotiated, how the
collaborators behave in it, and the client's KEX_ECDH_INIT. -/
structure Round (Key : Type) where
  env : EcdhEnv Key
  name : String
  hostkey_type : Int
  peer : Bytes
  my : Bytes
  evp_md : Nat
  ec_client_key : Bool
  load_host_public_key : Option (Int → Option Key)
  load_host_private_key : Option (Int → Option Key)
  payload : Bytes

/-- The connection as the round's `input_kex_ecdh_init` finds it: the negotiation touches
every field of `Kex` it reads except the session id and the version strings. -/
def Round.start (ρ : Round Key) (ssh : Ssh Key) : Ssh Key :=
  { ssh with
    kex := { ssh.kex with
      name := ρ.name, hostkey_type := ρ.hostkey_type, peer := ρ.peer, my := ρ.my,
      evp_md := ρ.evp_md, ec_client_key := ρ.ec_client_key,
      load_host_public_key := ρ.load_host_public_key,
      load_host_private_key := ρ.load_host_private_key }
    payload := ρ.payload }

/-- One call of `input_kex_ecdh_init`: its collaborators, and the connection it started
from and returned. -/
structure Exchange (Key : Type) where
  env : EcdhEnv Key
  before : Ssh Key
  result : Except SshErr Unit
  after : Ssh Key

/-- The calls over a sequence of key exchanges, up to the first `fatal()`. -/
def rekey : List (Round Key) → Ssh Key → List (Exchange Key)
  | [], _ => []
  | ρ :: ρs, ssh =>
    match input_kex_ecdh_init ρ.env (ρ.start ssh) with
    | .ret r ssh' => ⟨ρ.env, ρ.start ssh, r, ssh'⟩ :: rekey ρs ssh'
    | .fatal _ => []

/-- `b` holds the session id `a` holds, if any. -/
def SessionIdKept (a b : Ssh Key) : Prop :=
  ∀ sid, a.kex.session_id = some sid →
    b.kex.session_id = some sid ∧ b.kex.session_id_len = a.kex.session_id_len

theorem SessionIdKept.trans {a b c : Ssh Key} (h₁ : SessionIdKept a b) (h₂ : SessionIdKept b c) :
    SessionIdKept a c := fun sid h =>
  let ⟨hb, hl⟩ := h₁ sid h
  let ⟨hc, hl'⟩ := h₂ sid hb
  ⟨hc, hl'.trans hl⟩

/-- Over every sequence of key exchanges, each call binds the session id only from NULL, to
its own exchange hash, and derives keys only from its own hash; each call that returns 0 has
signed its own `H`, derived the keys from it and, from NULL, bound the session id to it; and
once the connection has a session id, every later return still holds it. -/
theorem session_id_set_once (ρs : List (Round Key)) (ssh : Ssh Key) :
    (∀ c ∈ rekey ρs ssh, SessionIdStep c.env c.before c.result c.after) ∧
    (ssh :: (rekey ρs ssh).map Exchange.after).Pairwise SessionIdKept := by
  induction ρs generalizing ssh with
  | nil => simp [rekey]
  | cons ρ ρs ih =>
    unfold rekey
    split
    · rename_i r ssh' h
      have hs := ret_sessionIdStep h
      have hk : SessionIdKept ssh ssh' := hs.kept
      obtain ⟨ih₁, ih₂⟩ := ih ssh'
      refine ⟨?_, List.Pairwise.cons ?_ ih₂⟩
      · simpa using ⟨hs, ih₁⟩
      · simp only [List.map_cons, List.mem_cons, forall_eq_or_imp]
        exact ⟨hk, fun b hb => hk.trans (List.rel_of_pairwise_cons ih₂ hb)⟩
    · simp

end Libopenssh.KexEcdh

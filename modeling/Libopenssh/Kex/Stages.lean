import Libopenssh.Kex.EcdhServer

/-! The four stretches of `input_kex_ecdh_init` one at a time: what each computed when it
falls through, and the calls and locals it leaves on a `goto out`. -/
namespace Libopenssh.KexEcdh

open Kx

variable {Key : Type} {E : EcdhEnv Key} {ssh : Ssh Key} {s s' : Call Key} {r : SshErr}

/-- `klen` as line 125 computes it for the ephemeral key. -/
def klenOf (E : EcdhEnv Key) (server_key : EcKey) : Nat :=
  (E.EC_GROUP_get_degree server_key.group + 7) / 8

/-- The reply of lines 179–183. -/
def replyPacket (blob q sig : Bytes) : List Ev :=
  [.start SSH2_MSG_KEX_ECDH_REPLY, .putString blob, .putEc q, .putString sig, .send]

/-- The `Kex` after lines 159–168 when the allocation succeeds. -/
def Kex.saveSessionId (k : Kex Key) (hash : Bytes) : Kex Key :=
  if k.session_id.isNone then { k with session_id_len := hash.length, session_id := some hash }
  else k

theorem Kex.saveSessionId_of_none {k : Kex Key} {H : Bytes} (h : k.session_id = none) :
    k.saveSessionId H = { k with session_id_len := H.length, session_id := some H } := by
  simp [Kex.saveSessionId, h]

theorem Kex.saveSessionId_of_some {k : Kex Key} {H sid : Bytes} (h : k.session_id = some sid) :
    k.saveSessionId H = k := by
  simp [Kex.saveSessionId, h]

/-- The allocation lines 159–168 make. -/
def sessionIdEvents (k : Kex Key) (hash : Bytes) : List Ev :=
  if k.session_id.isNone then [.malloc .sessionId hash.length] else []

/-- What lines 75–112 computed: the curve, the fresh ephemeral key, both host keys, and
the client's point, decoded from the whole packet body. -/
structure Decoded (E : EcdhEnv Key) (kex : Kex Key) (payload : Bytes) where
  curve_nid : Nat
  key : EcKey
  server_key : EcKey
  load_public : Int → Option Key
  load_private : Int → Option Key
  server_host_public : Key
  server_host_private : Key
  client_public : Bytes
  nid_eq : E.kex_ecdh_name_to_nid kex.name = some curve_nid
  key_eq : E.EC_KEY_new_by_curve_name curve_nid = some key
  generate_eq : E.EC_KEY_generate_key key = some server_key
  load_public_eq : kex.load_host_public_key = some load_public
  load_private_eq : kex.load_host_private_key = some load_private
  public_eq : load_public kex.hostkey_type = some server_host_public
  private_eq : load_private kex.hostkey_type = some server_host_private
  point_alloc : E.alloc_ok .clientPublic = true
  point_eq : E.sshpkt_get_ec server_key.group payload = .ok (client_public, [])

/-- What lines 75–136 computed: a validated point and the shared secret `K`, from
`ECDH_compute_key` returning exactly `klen` bytes. -/
structure Agreed (E : EcdhEnv Key) (kex : Kex Key) (payload : Bytes) extends
    Decoded E kex payload where
  valid : E.sshkey_ec_validate_public server_key.group client_public = true
  kbuf : Bytes
  shared_secret : Nat
  kbuf_alloc : E.alloc_ok .kbuf = true
  secret_alloc : E.alloc_ok .sharedSecret = true
  computed : E.ECDH_compute_key (klenOf E server_key) client_public server_key =
    ((klenOf E server_key : Int), kbuf)
  secret_eq : E.BN_bin2bn kbuf = some shared_secret

/-- What lines 75–157 computed: `K_S` and the exchange hash `H`. -/
structure Handshake (E : EcdhEnv Key) (kex : Kex Key) (payload : Bytes) extends
    Agreed E kex payload where
  server_host_key_blob : Bytes
  hash : Bytes
  blob_eq : E.sshkey_to_blob server_host_public = .ok server_host_key_blob
  hash_eq : E.kex_ecdh_hash kex.evp_md server_key.group kex.client_version_string
    kex.server_version_string kex.peer kex.my server_host_key_blob client_public server_key.pub
    shared_secret = .ok hash

/-! ### The four stretches: lines 75–122, 124–136, 141–168 and 170–189 -/

theorem setup_ok {v} (h : setup E s = .ok v s') :
    ∃ d : Decoded E s.ssh.kex s.ssh.payload,
      E.sshkey_ec_validate_public d.server_key.group d.client_public = true ∧
      v = (d.server_key, d.server_host_public, d.server_host_private, d.client_public) ∧
      s' = ⟨{ s.loc with server_key := some d.server_key },
        { s.ssh with payload := [], trace := s.ssh.trace ++ [.alloc .serverKey, .alloc .clientPublic] }⟩ := by
  simp only [setup, kex_bind, nonNull_bind, call_bind, setLoc_bind, new_bind, sshpkt_get_ec_bind,
    sshpkt_get_end_bind, Kx.pure_bind, Kx.ite_apply] at h
  repeat' split at h
  all_goals simp only [Res.ok.injEq, call_bind, goto_bind, pure_apply, reduceCtorEq] at h
  obtain ⟨rfl, rfl⟩ := h
  subst_vars
  exact ⟨⟨_, _, _, _, _, _, _, _, ‹_›, ‹_›, ‹_›, ‹_›, ‹_›, ‹_›, ‹_›, ‹_›, ‹_›⟩,
    by simpa using ‹¬(!E.sshkey_ec_validate_public _ _) = true›, rfl, by simp⟩

theorem setup_out (h : setup E s = .out r s') :
    s'.ssh.kex = s.ssh.kex ∧ (s'.loc = s.loc ∧ s'.ssh.trace = s.ssh.trace ∨
      ∃ k, s'.loc = { s.loc with server_key := some k } ∧
        ∃ evs ∈ [[.alloc .serverKey], [.alloc .serverKey, .alloc .clientPublic],
          [.alloc .serverKey, .alloc .clientPublic, .disconnect "invalid client public key"]],
          s'.ssh.trace = s.ssh.trace ++ evs) := by
  simp only [setup, kex_bind, nonNull_bind, call_bind, setLoc_bind, new_bind, sshpkt_get_ec_bind,
    sshpkt_get_end_bind, Kx.pure_bind, Kx.ite_apply] at h
  repeat' split at h
  all_goals simp only [Res.out.injEq, call_bind, goto_bind, pure_apply, reduceCtorEq] at h
  all_goals obtain ⟨rfl, rfl⟩ := h
  all_goals simp

theorem sharedSecret_ok {q : Bytes} {k : EcKey} {K : Nat} (h : sharedSecret E k q s = .ok K s') :
    ∃ kbuf, E.alloc_ok .kbuf = true ∧ E.alloc_ok .sharedSecret = true ∧
      E.ECDH_compute_key (klenOf E k) q k = ((klenOf E k : Int), kbuf) ∧ E.BN_bin2bn kbuf = some K ∧
      s' = ⟨{ s.loc with klen := klenOf E k, kbuf := some kbuf, shared_secret := some K },
        { s.ssh with
          trace := s.ssh.trace ++ [.malloc .kbuf (klenOf E k), .alloc .sharedSecret, .ecdh q] }⟩ := by
  simp only [sharedSecret, setLoc_bind, malloc_bind, new_bind, call_bind, nonNull_bind, goto_bind,
    Kx.pure_bind, ite_bind, Kx.ite_apply] at h
  repeat' split at h
  all_goals simp only [Res.ok.injEq, pure_apply, reduceCtorEq] at h
  obtain ⟨rfl, rfl⟩ := h
  exact ⟨_, ‹_›, ‹_›, Prod.ext (not_not.1 ‹_›) rfl, ‹_›, by simp [klenOf]⟩

theorem sharedSecret_out {q : Bytes} {k : EcKey} (h : sharedSecret E k q s = .out r s') :
    s'.ssh.kex = s.ssh.kex ∧
      (s'.loc = { s.loc with klen := klenOf E k } ∧ s'.ssh.trace = s.ssh.trace ∨
       s'.loc = { s.loc with klen := klenOf E k, kbuf := some [] } ∧
         s'.ssh.trace = s.ssh.trace ++ [.malloc .kbuf (klenOf E k)] ∨
       s'.loc = { s.loc with
           klen := klenOf E k
           kbuf := some (E.ECDH_compute_key (klenOf E k) q k).2
           shared_secret := some 0 } ∧
         s'.ssh.trace = s.ssh.trace ++ [.malloc .kbuf (klenOf E k), .alloc .sharedSecret, .ecdh q]) := by
  simp only [sharedSecret, setLoc_bind, malloc_bind, new_bind, call_bind, nonNull_bind, goto_bind,
    Kx.pure_bind, ite_bind, Kx.ite_apply] at h
  repeat' split at h
  all_goals simp only [Res.out.injEq, pure_apply, reduceCtorEq] at h
  all_goals obtain ⟨rfl, rfl⟩ := h
  all_goals simp [klenOf]

theorem exchangeHash_ok {k : EcKey} {pub : Key} {q : Bytes} {K : Nat} {v}
    (h : exchangeHash E k pub q K s = .ok v s') :
    let kex := s.ssh.kex
    E.sshkey_to_blob pub = .ok v.1 ∧
      E.kex_ecdh_hash kex.evp_md k.group kex.client_version_string kex.server_version_string
        kex.peer kex.my v.1 q k.pub K = .ok v.2 ∧
      (kex.session_id = none → E.alloc_ok .sessionId = true) ∧
      s' = ⟨{ s.loc with server_host_key_blob := some v.1 },
        { s.ssh with
          kex := kex.saveSessionId v.2
          trace := s.ssh.trace ++ .alloc .hostKeyBlob :: sessionIdEvents kex v.2 }⟩ := by
  simp only [exchangeHash, kex_bind, check_bind, call_bind, setLoc_bind, setKex_bind, malloc_bind,
    Kx.pure_bind, ite_bind, Kx.ite_apply] at h
  repeat' split at h
  all_goals simp only [Res.ok.injEq, pure_apply, reduceCtorEq] at h
  all_goals obtain ⟨rfl, rfl⟩ := h
  all_goals simp_all [Kex.saveSessionId, sessionIdEvents]

theorem exchangeHash_out {k : EcKey} {pub : Key} {q : Bytes} {K : Nat}
    (h : exchangeHash E k pub q K s = .out r s') :
    s'.ssh.kex.session_id = s.ssh.kex.session_id ∧
      (s.ssh.kex.session_id.isSome → s'.ssh.kex = s.ssh.kex) ∧
      (s'.loc = s.loc ∧ s'.ssh.trace = s.ssh.trace ∨
        ∃ blob, s'.loc = { s.loc with server_host_key_blob := some blob } ∧
          s'.ssh.trace = s.ssh.trace ++ [.alloc .hostKeyBlob]) := by
  simp only [exchangeHash, kex_bind, check_bind, call_bind, setLoc_bind, setKex_bind, malloc_bind,
    Kx.pure_bind, ite_bind, Kx.ite_apply] at h
  repeat' split at h
  all_goals simp only [Res.out.injEq, pure_apply, reduceCtorEq] at h
  all_goals obtain ⟨rfl, rfl⟩ := h
  all_goals simp_all

theorem reply_ok {k : EcKey} {priv : Key} {blob hash : Bytes} {K : Nat}
    (h : reply E k priv blob hash K s = .ok () s') :
    ∃ sig, E.sshkey_sign priv hash = some sig ∧
      (∀ e ∈ replyPacket blob k.pub sig, E.sshpkt_error e = none) ∧
      s' = ⟨{ s.loc with signature := some sig }, { s.ssh with
        trace := s.ssh.trace ++
          .alloc .signature :: replyPacket blob k.pub sig ++ [.deriveKeys hash K, .finish] }⟩ := by
  simp only [reply, orFatal_bind, call_bind, setLoc_bind, sshpkt_bind, call_apply] at h
  repeat' split at h
  all_goals simp only [Res.ok.injEq, reduceCtorEq] at h
  obtain ⟨-, rfl⟩ := h
  simp_all [replyPacket]

theorem reply_out {k : EcKey} {priv : Key} {blob hash : Bytes} {K : Nat}
    (h : reply E k priv blob hash K s = .out r s') :
    ∃ sig, E.sshkey_sign priv hash = some sig ∧ ∃ evs,
      s' = ⟨{ s.loc with signature := some sig },
        { s.ssh with trace := s.ssh.trace ++ .alloc .signature :: evs }⟩ ∧
      evs <+: replyPacket blob k.pub sig ∧ .send ∉ evs := by
  simp only [reply, orFatal_bind, call_bind, setLoc_bind, sshpkt_bind, call_apply] at h
  repeat' split at h
  all_goals simp only [Res.out.injEq, reduceCtorEq] at h
  all_goals obtain ⟨rfl, rfl⟩ := h
  all_goals exact ⟨_, ‹_›, by simp [replyPacket]⟩

/-! ### The epilogue -/

/-- A call that frees, clears or zeroes memory. -/
def Ev.isRelease : Ev → Bool
  | .free _ | .clearFree _ | .bzero _ _ => true
  | _ => false

/-- The calls of the epilogue: `EC_KEY_free(kex->ec_client_key)`, then lines 195–206. -/
def epilogueCalls (s : Call Key) : List Ev :=
  (if s.ssh.kex.ec_client_key then [.free .ecClientKey] else []) ++ s.loc.release

theorem epilogue_trace (s : Call Key) : (epilogue s).trace = s.ssh.trace ++ epilogueCalls s := by
  unfold epilogue epilogueCalls
  split <;> simp_all

theorem epilogue_kex (s : Call Key) :
    (epilogue s).kex = { s.ssh.kex with ec_client_key := false } := by
  unfold epilogue
  split
  · rfl
  · rename_i h; rw [← Bool.eq_false_iff.2 h]

theorem isRelease_of_mem_epilogueCalls {e : Ev} (he : e ∈ epilogueCalls s) : e.isRelease := by
  simp only [epilogueCalls, Locals.release, List.mem_append, List.mem_ite_nil_right,
    List.mem_cons, List.mem_singleton, List.not_mem_nil, or_false] at he
  rcases he with ⟨-, rfl⟩ | (((⟨-, rfl⟩ | ⟨-, rfl⟩) | ⟨-, rfl | rfl⟩) | ⟨-, rfl⟩) | ⟨-, rfl⟩ <;> rfl

/-! ### The whole body -/

/-- The stretch ends, falling through or at `goto out`, with the call in state `s'`. -/
def Res.Leaves {σ α : Type} (x : Res σ α) (s' : σ) : Prop :=
  (∃ a, x = .ok a s') ∨ ∃ r, x = .out r s'

theorem Res.leaves_bind {α β : Type} {m : Kx Key α} {f : α → Kx Key β} :
    ((m >>= f) s).Leaves s' ↔ (∃ r, m s = .out r s') ∨ ∃ a s₁, m s = .ok a s₁ ∧ (f a s₁).Leaves s' := by
  rw [bind_apply]
  rcases m s with ⟨a, s₁⟩ | ⟨r, s₁⟩ | msg <;> simp [Res.Leaves, and_assoc]

variable {kex : Kex Key} {payload : Bytes}

/-- The calls lines 79–131 make on the way to `K`. -/
def Agreed.events (a : Agreed E kex payload) : List Ev :=
  [.alloc .serverKey, .alloc .clientPublic, .malloc .kbuf (klenOf E a.server_key),
    .alloc .sharedSecret, .ecdh a.client_public]

/-- The locals once `K` is computed. -/
def Agreed.locals (a : Agreed E kex payload) : Locals :=
  { server_key := some a.server_key, klen := klenOf E a.server_key, kbuf := some a.kbuf,
    shared_secret := some a.shared_secret }

/-- The calls lines 79–168 make on the way to `H`. -/
def Handshake.events (x : Handshake E kex payload) : List Ev :=
  x.toAgreed.events ++ .alloc .hostKeyBlob :: sessionIdEvents kex x.hash

/-- The locals once `H` is computed. -/
def Handshake.locals (x : Handshake E kex payload) : Locals :=
  { x.toAgreed.locals with server_host_key_blob := some x.server_host_key_blob }

theorem eq_of_mem_sessionIdEvents {k : Kex Key} {H : Bytes} {e : Ev}
    (he : e ∈ sessionIdEvents k H) : e = .malloc .sessionId H.length := by
  unfold sessionIdEvents at he
  split at he <;> simp_all

theorem Handshake.of_mem_events {kex : Kex Key} {payload : Bytes} (x : Handshake E kex payload)
    {e : Ev} (he : e ∈ x.events) :
    e ∈ x.toAgreed.events ∨ e = .alloc .hostKeyBlob ∨ e = .malloc .sessionId x.hash.length := by
  rcases List.mem_append.1 he with h | h
  · exact .inl h
  · exact .inr ((List.mem_cons.1 h).imp_right eq_of_mem_sessionIdEvents)

/-- Every way the body reaches `out:`: the locals it leaves there, the calls it made,
and the `Kex` it leaves. -/
inductive Exit (E : EcdhEnv Key) (ssh : Ssh Key) : Locals → List Ev → Kex Key → Prop
  /-- A `goto out` in lines 75–122. -/
  | setup (l : Locals) (evs : List Ev) :
      l = {} ∧ evs = [] ∨ (∃ k, l = { server_key := some k }) ∧
        evs ∈ [[.alloc .serverKey], [.alloc .serverKey, .alloc .clientPublic],
          [.alloc .serverKey, .alloc .clientPublic, .disconnect "invalid client public key"]] →
      Exit E ssh l evs ssh.kex
  /-- A `goto out` in lines 124–136, after a validated point. -/
  | sharedSecret (d : Decoded E ssh.kex ssh.payload) (l : Locals) (evs : List Ev) :
      E.sshkey_ec_validate_public d.server_key.group d.client_public = true →
      l = { server_key := some d.server_key, klen := klenOf E d.server_key } ∧ evs = [] ∨
        l = { server_key := some d.server_key, klen := klenOf E d.server_key, kbuf := some [] } ∧
          evs = [.malloc .kbuf (klenOf E d.server_key)] ∨
        l = { server_key := some d.server_key, klen := klenOf E d.server_key,
              kbuf := some (E.ECDH_compute_key (klenOf E d.server_key) d.client_public d.server_key).2,
              shared_secret := some 0 } ∧
          evs = [.malloc .kbuf (klenOf E d.server_key), .alloc .sharedSecret, .ecdh d.client_public] →
      Exit E ssh l ([.alloc .serverKey, .alloc .clientPublic] ++ evs) ssh.kex
  /-- A `goto out` in lines 141–168, after `K`. -/
  | exchangeHash (a : Agreed E ssh.kex ssh.payload) (l : Locals) (evs : List Ev) (kex' : Kex Key) :
      l = a.locals ∧ evs = [] ∨
        (∃ blob, l = { a.locals with server_host_key_blob := some blob }) ∧
          evs = [.alloc .hostKeyBlob] →
      kex'.session_id = ssh.kex.session_id → (ssh.kex.session_id.isSome → kex' = ssh.kex) →
      Exit E ssh l (a.events ++ evs) kex'
  /-- A `goto out` in lines 179–184, after `H` is signed. -/
  | reply (x : Handshake E ssh.kex ssh.payload) (sig : Bytes) (evs : List Ev) :
      E.sshkey_sign x.server_host_private x.hash = some sig →
      evs <+: replyPacket x.server_host_key_blob x.server_key.pub sig → .send ∉ evs →
      Exit E ssh { x.locals with signature := some sig } (x.events ++ .alloc .signature :: evs)
        (ssh.kex.saveSessionId x.hash)
  /-- Lines 75–189 all the way: the reply is sent and the keys derived. -/
  | done (x : Handshake E ssh.kex ssh.payload) (sig : Bytes) :
      E.sshkey_sign x.server_host_private x.hash = some sig →
      Exit E ssh { x.locals with signature := some sig }
        (x.events ++ .alloc .signature :: replyPacket x.server_host_key_blob x.server_key.pub sig ++
          [.deriveKeys x.hash x.shared_secret, .finish])
        (ssh.kex.saveSessionId x.hash)

theorem body_exit (h : (body E ⟨{}, ssh⟩).Leaves s') :
    ∃ new, s'.ssh.trace = ssh.trace ++ new ∧ Exit E ssh s'.loc new s'.ssh.kex := by
  simp only [body, Res.leaves_bind] at h
  rcases h with ⟨r, h⟩ | ⟨⟨k, pub, priv, q⟩, s₁, h₁, h⟩
  · obtain ⟨hk, ⟨hl, ht⟩ | ⟨k, hl, evs, hevs, ht⟩⟩ := setup_out h
    · exact ⟨[], by simp [ht], hk ▸ .setup _ _ (.inl ⟨hl, rfl⟩)⟩
    · exact ⟨evs, ht, hk ▸ .setup _ _ (.inr ⟨⟨k, hl⟩, hevs⟩)⟩
  obtain ⟨d, hv, ⟨⟩, rfl⟩ := setup_ok h₁
  rcases h with ⟨r, h⟩ | ⟨K, s₂, h₂, h⟩
  · obtain ⟨hk, ⟨hl, ht⟩ | ⟨hl, ht⟩ | ⟨hl, ht⟩⟩ := sharedSecret_out h <;> rw [hk]
    · exact ⟨_, by simp [ht], .sharedSecret d _ _ hv (.inl ⟨hl, rfl⟩)⟩
    · exact ⟨_, by simp [ht], .sharedSecret d _ _ hv (.inr (.inl ⟨hl, rfl⟩))⟩
    · exact ⟨_, by simp [ht], .sharedSecret d _ _ hv (.inr (.inr ⟨hl, rfl⟩))⟩
  obtain ⟨kbuf, ha₁, ha₂, hc, hK, rfl⟩ := sharedSecret_ok h₂
  let a : Agreed E ssh.kex ssh.payload := ⟨d, hv, kbuf, K, ha₁, ha₂, hc, hK⟩
  rcases h with ⟨r, h⟩ | ⟨⟨blob, hash⟩, s₃, h₃, h⟩
  · obtain ⟨hs, hs', ⟨hl, ht⟩ | ⟨blob, hl, ht⟩⟩ := exchangeHash_out h
    · exact ⟨a.events, by simp [ht, Agreed.events], .exchangeHash a _ [] _ (.inl ⟨hl, rfl⟩) hs hs'⟩
    · exact ⟨a.events ++ _, by simp [ht, Agreed.events],
        .exchangeHash a _ _ _ (.inr ⟨⟨blob, hl⟩, rfl⟩) hs hs'⟩
  obtain ⟨hb, hh, -, rfl⟩ := exchangeHash_ok h₃
  let x : Handshake E ssh.kex ssh.payload := ⟨a, blob, hash, hb, hh⟩
  rcases h with ⟨⟨⟩, h⟩ | ⟨r, h⟩
  · obtain ⟨sig, hsig, -, rfl⟩ := reply_ok h
    exact ⟨_, by simp [Handshake.events, Agreed.events], .done x sig hsig⟩
  · obtain ⟨sig, hsig, evs, rfl, hp, hn⟩ := reply_out h
    exact ⟨_, by simp [Handshake.events, Agreed.events], .reply x sig evs hsig hp hn⟩

/-- A body that falls through to `out:` with `r = 0` made the whole handshake, signed `H`,
sent the reply and derived the keys. -/
theorem body_ok (h : body E ⟨{}, ssh⟩ = .ok () s') :
    ∃ (x : Handshake E ssh.kex ssh.payload) (sig : Bytes),
      E.sshkey_sign x.server_host_private x.hash = some sig ∧
      s'.ssh.kex = ssh.kex.saveSessionId x.hash ∧
      s'.ssh.trace = ssh.trace ++ (x.events ++ .alloc .signature ::
        replyPacket x.server_host_key_blob x.server_key.pub sig ++
        [.deriveKeys x.hash x.shared_secret, .finish]) := by
  simp only [body, Kx.bind_eq_ok] at h
  obtain ⟨⟨k, pub, priv, q⟩, s₁, h₁, K, s₂, h₂, ⟨blob, hash⟩, s₃, h₃, h⟩ := h
  obtain ⟨d, hv, ⟨⟩, rfl⟩ := setup_ok h₁
  obtain ⟨kbuf, ha₁, ha₂, hc, hK, rfl⟩ := sharedSecret_ok h₂
  let a : Agreed E ssh.kex ssh.payload := ⟨d, hv, kbuf, K, ha₁, ha₂, hc, hK⟩
  obtain ⟨hb, hh, -, rfl⟩ := exchangeHash_ok h₃
  let x : Handshake E ssh.kex ssh.payload := ⟨a, blob, hash, hb, hh⟩
  obtain ⟨sig, hsig, -, rfl⟩ := reply_ok h
  exact ⟨x, sig, hsig, rfl, by simp [Handshake.events, Agreed.events]⟩

/-- A returning call is the epilogue run on where the body left it. -/
theorem ret_exit {r : Except SshErr Unit} {ssh' : Ssh Key}
    (h : input_kex_ecdh_init E ssh = .ret r ssh') :
    ∃ s' new, ssh' = epilogue s' ∧ s'.ssh.trace = ssh.trace ++ new ∧
      Exit E ssh s'.loc new s'.ssh.kex := by
  unfold input_kex_ecdh_init at h
  split at h <;> cases h
  · obtain ⟨new, ht, hx⟩ := body_exit (.inl ⟨_, ‹_›⟩)
    exact ⟨_, new, rfl, ht, hx⟩
  · obtain ⟨new, ht, hx⟩ := body_exit (.inr ⟨_, ‹_›⟩)
    exact ⟨_, new, rfl, ht, hx⟩

end Libopenssh.KexEcdh

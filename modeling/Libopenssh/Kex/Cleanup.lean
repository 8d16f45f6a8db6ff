import Libopenssh.Kex.Stages

/-! What the `out:` epilogue of `input_kex_ecdh_init` releases, on every return. -/
namespace Libopenssh.KexEcdh

variable {Key : Type} {E : EcdhEnv Key} {ssh ssh' : Ssh Key} {r : Except SshErr Unit}
  {l : Locals} {new : List Ev} {kex' : Kex Key}

/-- Whether the call allocates, clears or frees `o`. -/
def Ev.about (o : Obj) : Ev → Bool
  | .alloc o' | .malloc o' _ | .bzero o' _ | .free o' | .clearFree o' => o' == o
  | _ => false

/-- The objects the epilogue releases through the call's locals. -/
def Obj.owned : List Obj := [.serverKey, .kbuf, .sharedSecret, .hostKeyBlob, .signature]

/-- The allocation a non-NULL local holds. -/
def Locals.held (l : Locals) : Obj → List Ev
  | .serverKey => if l.server_key.isSome then [.alloc .serverKey] else []
  | .kbuf => if l.kbuf.isSome then [.malloc .kbuf l.klen] else []
  | .sharedSecret => if l.shared_secret.isSome then [.alloc .sharedSecret] else []
  | .hostKeyBlob => if l.server_host_key_blob.isSome then [.alloc .hostKeyBlob] else []
  | .signature => if l.signature.isSome then [.alloc .signature] else []
  | _ => []

/-- What the epilogue does with the object a non-NULL local holds. -/
def Locals.released (l : Locals) : Obj → List Ev
  | .serverKey => if l.server_key.isSome then [.free .serverKey] else []
  | .kbuf => if l.kbuf.isSome then [.bzero .kbuf l.klen, .free .kbuf] else []
  | .sharedSecret => if l.shared_secret.isSome then [.clearFree .sharedSecret] else []
  | .hostKeyBlob => if l.server_host_key_blob.isSome then [.free .hostKeyBlob] else []
  | .signature => if l.signature.isSome then [.free .signature] else []
  | _ => []

/-- Every object the calls `new` allocated is held by a local, and none is released. -/
def Owned (l : Locals) (new : List Ev) : Prop :=
  ∀ o ∈ Obj.owned, new.filter (Ev.about o) = l.held o

theorem Owned.intro {l : Locals} {new : List Ev}
    (h₁ : new.filter (Ev.about .serverKey) = l.held .serverKey)
    (h₂ : new.filter (Ev.about .kbuf) = l.held .kbuf)
    (h₃ : new.filter (Ev.about .sharedSecret) = l.held .sharedSecret)
    (h₄ : new.filter (Ev.about .hostKeyBlob) = l.held .hostKeyBlob)
    (h₅ : new.filter (Ev.about .signature) = l.held .signature) : Owned l new := by
  simpa [Owned, Obj.owned] using ⟨h₁, h₂, h₃, h₄, h₅⟩

theorem filter_about_of_prefix {evs : List Ev} {b q sig : Bytes}
    (hp : evs <+: replyPacket b q sig) (o : Obj) : evs.filter (Ev.about o) = [] :=
  List.filter_eq_nil_iff.2 fun e he => by
    have := hp.subset he
    simp only [replyPacket, List.mem_cons, List.mem_singleton, List.not_mem_nil, or_false] at this
    rcases this with rfl | rfl | rfl | rfl | rfl <;> simp [Ev.about]

theorem filter_about_sessionIdEvents (k : Kex Key) (hash : Bytes) {o : Obj} (ho : o ∈ Obj.owned) :
    (sessionIdEvents k hash).filter (Ev.about o) = [] := by
  unfold sessionIdEvents
  split
  · revert o; simp only [Obj.owned, List.forall_mem_cons]; exact ⟨rfl, rfl, rfl, rfl, rfl, nofun⟩
  · rfl

theorem Handshake.filter_events {kex : Kex Key} {payload : Bytes} (x : Handshake E kex payload)
    {o : Obj} (ho : o ∈ Obj.owned) :
    x.events.filter (Ev.about o) =
      (x.toAgreed.events ++ [Ev.alloc .hostKeyBlob]).filter (Ev.about o) := by
  rw [Handshake.events, ← List.singleton_append, ← List.append_assoc, List.filter_append,
    filter_about_sessionIdEvents _ _ ho, List.append_nil]

theorem exit_owned (hx : Exit E ssh l new kex') : Owned l new := by
  cases hx with
  | setup l evs h =>
    rcases h with ⟨rfl, rfl⟩ | ⟨⟨k, rfl⟩, h⟩
    · exact .intro rfl rfl rfl rfl rfl
    · simp only [List.mem_cons, List.mem_singleton, List.not_mem_nil, or_false] at h
      rcases h with rfl | rfl | rfl <;> exact .intro rfl rfl rfl rfl rfl
  | sharedSecret d l evs hv h =>
    rcases h with ⟨rfl, rfl⟩ | ⟨rfl, rfl⟩ | ⟨rfl, rfl⟩ <;> exact .intro rfl rfl rfl rfl rfl
  | exchangeHash a l evs kex' h =>
    rcases h with ⟨rfl, rfl⟩ | ⟨⟨blob, rfl⟩, rfl⟩ <;> exact .intro rfl rfl rfl rfl rfl
  | reply x sig evs hsig hp hn =>
    intro o ho
    rw [List.filter_append, x.filter_events ho, List.filter_cons, filter_about_of_prefix hp]
    revert o; simp only [Obj.owned, List.forall_mem_cons]; exact ⟨rfl, rfl, rfl, rfl, rfl, nofun⟩
  | done x sig hsig =>
    intro o ho
    rw [List.append_assoc, List.filter_append, x.filter_events ho]
    revert o; simp only [Obj.owned, List.forall_mem_cons]; exact ⟨rfl, rfl, rfl, rfl, rfl, nofun⟩

theorem filter_epilogueCalls (s : Call Key) {o : Obj} (ho : o ∈ Obj.owned) :
    (epilogueCalls s).filter (Ev.about o) = s.loc.released o := by
  revert o
  simp only [Obj.owned, List.forall_mem_cons, epilogueCalls, Locals.release, List.filter_append,
    apply_ite (List.filter _)]
  simp [Locals.released, Ev.about]

theorem mem_sessionIdEvents {k : Kex Key} {H : Bytes} {n : Nat} :
    .malloc .sessionId n ∈ sessionIdEvents k H ↔ k.session_id = none ∧ n = H.length := by
  unfold sessionIdEvents
  split <;> simp_all [Option.isNone_iff_eq_none]

theorem Handshake.mem_events {kex : Kex Key} {payload : Bytes} (x : Handshake E kex payload) {n : Nat} :
    .malloc .sessionId n ∈ x.events ↔ kex.session_id = none ∧ n = x.hash.length := by
  simp [Handshake.events, Agreed.events, mem_sessionIdEvents]

theorem exit_malloc_sessionId (hx : Exit E ssh l new kex') {n : Nat}
    (hn : .malloc .sessionId n ∈ new) :
    ssh.kex.session_id = none ∧ ∃ H, kex'.session_id = some H ∧ H.length = n := by
  cases hx with
  | setup l evs h =>
    rcases h with ⟨-, rfl⟩ | ⟨-, h⟩
    · simp at hn
    · simp only [List.mem_cons, List.mem_singleton, List.not_mem_nil, or_false] at h
      rcases h with rfl | rfl | rfl <;> simp at hn
  | sharedSecret d l evs hv h =>
    rcases h with ⟨-, rfl⟩ | ⟨-, rfl⟩ | ⟨-, rfl⟩ <;> simp at hn
  | exchangeHash a l evs kex' h =>
    rcases h with ⟨-, rfl⟩ | ⟨-, rfl⟩ <;> simp [Agreed.events] at hn
  | reply x sig evs hsig hp hs =>
    obtain hn | hn | hn := List.mem_append.1 hn |>.imp_right List.mem_cons.1
    · obtain ⟨h, rfl⟩ := x.mem_events.1 hn
      exact ⟨h, _, by simp [Kex.saveSessionId_of_none h], rfl⟩
    · cases hn
    · simpa [replyPacket] using hp.subset hn
  | done x sig hsig =>
    obtain ⟨h, rfl⟩ := x.mem_events.1 (by simpa [replyPacket] using hn)
    exact ⟨h, _, by simp [Kex.saveSessionId_of_none h], rfl⟩

/-- What the calls `new` of a call from `ssh` returning `ssh'` did with what it allocated:
the ephemeral key, `kbuf`, the shared secret, the host-key blob and the signature are each
either never allocated or released exactly once, `kbuf` zeroed over the bytes it was
allocated with and the secret cleared; and a session-id buffer is allocated only when
`kex->session_id` was NULL, and is then `kex->session_id`. -/
structure Released (ssh ssh' : Ssh Key) (new : List Ev) : Prop where
  server_key : new.filter (Ev.about .serverKey) = [] ∨
    new.filter (Ev.about .serverKey) = [.alloc .serverKey, .free .serverKey]
  kbuf : new.filter (Ev.about .kbuf) = [] ∨
    ∃ n, new.filter (Ev.about .kbuf) = [.malloc .kbuf n, .bzero .kbuf n, .free .kbuf]
  shared_secret : new.filter (Ev.about .sharedSecret) = [] ∨
    new.filter (Ev.about .sharedSecret) = [.alloc .sharedSecret, .clearFree .sharedSecret]
  server_host_key_blob : new.filter (Ev.about .hostKeyBlob) = [] ∨
    new.filter (Ev.about .hostKeyBlob) = [.alloc .hostKeyBlob, .free .hostKeyBlob]
  signature : new.filter (Ev.about .signature) = [] ∨
    new.filter (Ev.about .signature) = [.alloc .signature, .free .signature]
  session_id : ∀ n, .malloc .sessionId n ∈ new →
    ssh.kex.session_id = none ∧ ∃ H, ssh'.kex.session_id = some H ∧ H.length = n

/-- On every return `kex->ec_client_key` is NULL and the call has released what it
allocated, the session-id buffer apart. -/
theorem kex_ecdh_init_releases (h : input_kex_ecdh_init E ssh = .ret r ssh') :
    ssh'.kex.ec_client_key = false ∧ ∃ new, ssh'.trace = ssh.trace ++ new ∧ Released ssh ssh' new := by
  obtain ⟨s', new, rfl, ht, hx⟩ := ret_exit h
  have hf : ∀ o ∈ Obj.owned, (new ++ epilogueCalls s').filter (Ev.about o) =
      s'.loc.held o ++ s'.loc.released o := fun o ho => by
    rw [List.filter_append, exit_owned hx o ho, filter_epilogueCalls s' ho]
  refine ⟨by simp [epilogue_kex], new ++ epilogueCalls s', by rw [epilogue_trace, ht, List.append_assoc],
    ?_, ?_, ?_, ?_, ?_, fun n hn => (List.mem_append.1 hn).elim
      (fun hn => by simpa [epilogue_kex] using exit_malloc_sessionId hx hn)
      (fun hn => by simpa [Ev.isRelease] using isRelease_of_mem_epilogueCalls hn)⟩
  all_goals rw [hf _ (by simp [Obj.owned])]; simp only [Locals.held, Locals.released]; split <;> simp

/-- Collaborators that all succeed: every name is a curve, every allocation and packet call
succeeds, and every point validates. -/
def exampleEnv : EcdhEnv Unit where
  kex_ecdh_name_to_nid _ := some 415
  EC_KEY_new_by_curve_name n := some ⟨n, [], 0⟩
  EC_KEY_generate_key k := some { k with pub := [4, 2], priv := 7 }
  alloc_ok _ := true
  sshpkt_get_ec _ b := .ok (b, [])
  sshkey_ec_validate_public _ _ := true
  EC_GROUP_get_degree _ := 8
  ECDH_compute_key klen _ _ := (klen, List.replicate klen 1)
  BN_bin2bn b := some b.length
  sshkey_to_blob _ := .ok [9]
  kex_ecdh_hash _ _ _ _ _ _ _ _ _ _ := .ok [5, 5]
  sshkey_sign _ h := some (h ++ [0])
  sshpkt_error _ := none

/-- A first key exchange: no session id yet, both host keys loadable. -/
def exampleKex : Kex Unit where
  name := "ecdh-sha2-nistp256"
  hostkey_type := 0
  client_version_string := "SSH-2.0-client"
  server_version_string := "SSH-2.0-server"
  peer := []
  my := []
  evp_md := 0
  session_id := none
  session_id_len := 0
  ec_client_key := false
  load_host_public_key := some fun _ => some ()
  load_host_private_key := some fun _ => some ()

/-- The first exchange returns 0 with the session-id buffer and the client's `EC_POINT`
still allocated. -/
theorem kex_ecdh_init_leaves_allocations :
    ∃ ssh', input_kex_ecdh_init exampleEnv ⟨exampleKex, [4, 1], []⟩ = .ret (.ok ()) ssh' ∧
      .malloc .sessionId 2 ∈ ssh'.trace ∧ .free .sessionId ∉ ssh'.trace ∧
      .alloc .clientPublic ∈ ssh'.trace ∧ .free .clientPublic ∉ ssh'.trace :=
  ⟨_, rfl, by decide, by decide, by decide, by decide⟩

theorem kex_ecdh_init_releases_example :
    ∃ ssh', input_kex_ecdh_init exampleEnv ⟨exampleKex, [4, 1], []⟩ = .ret (.ok ()) ssh' ∧
      ssh'.kex.ec_client_key = false ∧
      ∃ new, ssh'.trace = [] ++ new ∧ Released ⟨exampleKex, [4, 1], []⟩ ssh' new :=
  have h : input_kex_ecdh_init exampleEnv ⟨exampleKex, [4, 1], []⟩ = .ret (.ok ()) _ := rfl
  ⟨_, h, kex_ecdh_init_releases h⟩

end Libopenssh.KexEcdh

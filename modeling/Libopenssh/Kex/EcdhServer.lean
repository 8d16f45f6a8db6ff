import Libopenssh.Sshbuf

/-! `input_kex_ecdh_init` of `kexecdhs.c`, with the collaborators it calls abstracted
and the calls it makes recorded in order. -/
namespace Libopenssh.KexEcdh

def SSH2_MSG_KEX_ECDH_REPLY : UInt8 := 31

/-- An `EC_KEY`: the curve's nid, the public point as octets, the private scalar. -/
structure EcKey where
  group : Nat
  pub : Bytes
  priv : Nat
  deriving DecidableEq, Repr

/-- The heap objects the function frees in its epilogue or allocates itself. -/
inductive Obj where
  | serverKey
  | clientPublic
  | kbuf
  | sharedSecret
  | hostKeyBlob
  | signature
  | sessionId
  | ecClientKey
  deriving DecidableEq, Repr

/-- A call the function makes that has an effect outside its locals. -/
inductive Ev where
  /-- An allocation by `EC_KEY_new_by_curve_name`, `EC_POINT_new`, `BN_new`,
  `sshkey_to_blob` or `sshkey_sign`. -/
  | alloc (o : Obj)
  | malloc (o : Obj) (size : Nat)
  /-- `bzero(o, n)`. -/
  | bzero (o : Obj) (n : Nat)
  /-- `free`, `EC_KEY_free`. -/
  | free (o : Obj)
  /-- `BN_clear_free`. -/
  | clearFree (o : Obj)
  /-- `ECDH_compute_key` with the client's point `q`. -/
  | ecdh (q : Bytes)
  | disconnect (msg : String)
  | start (type : UInt8)
  | putString (s : Bytes)
  | putEc (q : Bytes)
  | send
  | deriveKeys (hash : Bytes) (k : Nat)
  | finish
  deriving DecidableEq, Repr

/-- The fields of `Kex` the function reads or writes. -/
structure Kex (Key : Type) where
  name : String
  hostkey_type : Int
  client_version_string : String
  server_version_string : String
  /-- The client's KEXINIT payload. -/
  peer : Bytes
  /-- The server's KEXINIT payload. -/
  my : Bytes
  evp_md : Nat
  session_id : Option Bytes
  session_id_len : Nat
  /-- Whether `kex->ec_client_key` is non-NULL. -/
  ec_client_key : Bool
  load_host_public_key : Option (Int → Option Key)
  load_host_private_key : Option (Int → Option Key)

/-- The connection as the function sees it: its `Kex`, the unread payload of the
`KEX_ECDH_INIT` packet, and every call with an outside effect made so far. -/
structure Ssh (Key : Type) where
  kex : Kex Key
  payload : Bytes
  trace : List Ev

/-- The collaborators of `input_kex_ecdh_init`, as this call sees them. -/
structure EcdhEnv (Key : Type) where
  /-- `kex_ecdh_name_to_nid`; -1 is `none`. -/
  kex_ecdh_name_to_nid : String → Option Nat
  /-- `EC_KEY_new_by_curve_name`; `NULL` is `none`. -/
  EC_KEY_new_by_curve_name : Nat → Option EcKey
  /-- `EC_KEY_generate_key`: the key with a fresh key pair, `none` unless it returns 1. -/
  EC_KEY_generate_key : EcKey → Option EcKey
  /-- Whether `EC_POINT_new`, `malloc` or `BN_new` for the object succeeds. -/
  alloc_ok : Obj → Bool
  /-- `sshpkt_get_ec` on the packet's unread bytes: the point and the bytes after it. -/
  sshpkt_get_ec : Nat → Bytes → Except SshErr (Bytes × Bytes)
  /-- `sshkey_ec_validate_public(group, point) == 0`. -/
  sshkey_ec_validate_public : Nat → Bytes → Bool
  EC_GROUP_get_degree : Nat → Nat
  /-- `ECDH_compute_key(kbuf, klen, point, key, NULL)`: its return value and `kbuf`. -/
  ECDH_compute_key : Nat → Bytes → EcKey → Int × Bytes
  /-- `BN_bin2bn`; `NULL` is `none`. -/
  BN_bin2bn : Bytes → Option Nat
  sshkey_to_blob : Key → Except SshErr Bytes
  /-- `kex_ecdh_hash(evp_md, group, V_C, V_S, I_C, I_S, K_S, Q_C, Q_S, K)`. -/
  kex_ecdh_hash : Nat → Nat → String → String → Bytes → Bytes → Bytes → Bytes → Bytes → Nat →
    Except SshErr Bytes
  /-- `sshkey_sign` of the hash; an error return is `none`. -/
  sshkey_sign : Key → Bytes → Option Bytes
  /-- The error `sshpkt_start`, `sshpkt_put_*` or `sshpkt_send` returns for the call. -/
  sshpkt_error : Ev → Option SshErr

/-- The locals the `out:` epilogue reads; `none` is `NULL`. -/
structure Locals where
  server_key : Option EcKey := none
  server_host_key_blob : Option Bytes := none
  signature : Option Bytes := none
  kbuf : Option Bytes := none
  klen : Nat := 0
  shared_secret : Option Nat := none

/-- The state of one call: its locals and the connection. -/
structure Call (Key : Type) where
  loc : Locals
  ssh : Ssh Key

/-- How a stretch of the function ends: falling through with a value, `goto out` with
the error code in `r`, or `fatal()`. -/
inductive Res (σ α : Type) where
  | ok (a : α) (s : σ)
  | out (r : SshErr) (s : σ)
  | fatal (msg : String)

/-- A stretch of `input_kex_ecdh_init`. -/
def Kx (Key α : Type) : Type := Call Key → Res (Call Key) α

variable {Key : Type}

instance : Monad (Kx Key) where
  pure a s := .ok a s
  bind m f s :=
    match m s with
    | .ok a s' => f a s'
    | .out r s' => .out r s'
    | .fatal msg => .fatal msg

namespace Kx

def goto {α : Type} (r : SshErr) : Kx Key α := fun s => .out r s

def fatal {α : Type} (msg : String) : Kx Key α := fun _ => .fatal msg

def kex : Kx Key (Kex Key) := fun s => .ok s.ssh.kex s

def loc : Kx Key Locals := fun s => .ok s.loc s

/-- Make a call with an outside effect. -/
def call (e : Ev) : Kx Key Unit := fun s => .ok () { s with ssh.trace := s.ssh.trace ++ [e] }

def setLoc (f : Locals → Locals) : Kx Key Unit := fun s => .ok () { s with loc := f s.loc }

def setKex (f : Kex Key → Kex Key) : Kx Key Unit := fun s => .ok () { s with ssh.kex := f s.ssh.kex }

/-- `if ((p = EC_POINT_new(group)) == NULL) { r = SSH_ERR_ALLOC_FAIL; goto out; }` and
the like for `BN_new`. -/
def new (E : EcdhEnv Key) (o : Obj) : Kx Key Unit :=
  if E.alloc_ok o then call (.alloc o) else goto .allocFail

/-- `if ((p = malloc(size)) == NULL) { r = SSH_ERR_ALLOC_FAIL; goto out; }` -/
def malloc (E : EcdhEnv Key) (o : Obj) (size : Nat) : Kx Key Unit :=
  if E.alloc_ok o then call (.malloc o size) else goto .allocFail

/-- `if ((x = f(...)) == NULL) { r = e; goto out; }` -/
def nonNull {α : Type} (x : Option α) (e : SshErr) : Kx Key α :=
  match x with
  | some a => pure a
  | none => goto e

/-- `if (f(...) < 0) fatal(msg);` -/
def orFatal {α : Type} (x : Option α) (msg : String) : Kx Key α :=
  match x with
  | some a => pure a
  | none => Kx.fatal msg

/-- `if ((r = f(...)) != 0) goto out;` -/
def check {α : Type} (x : Except SshErr α) : Kx Key α :=
  match x with
  | .ok a => pure a
  | .error r => goto r

/-- A packet call: `goto out` with the error it returns. -/
def sshpkt (E : EcdhEnv Key) (e : Ev) : Kx Key Unit :=
  match E.sshpkt_error e with
  | some r => goto r
  | none => call e

/-- `sshpkt_get_ec(ssh, client_public, group)` on the unread packet bytes. -/
def sshpkt_get_ec (E : EcdhEnv Key) (group : Nat) : Kx Key Bytes := fun s =>
  match E.sshpkt_get_ec group s.ssh.payload with
  | .ok (q, rest) => .ok q { s with ssh.payload := rest }
  | .error r => .out r s

/-- `sshpkt_get_end(ssh)`: no bytes may be left. -/
def sshpkt_get_end : Kx Key Unit := fun s =>
  if s.ssh.payload = [] then .ok () s else .out .trailing s

/-! Running a stretch: how each primitive passes the call to what follows it. -/

section Run

variable {α β : Type} {E : EcdhEnv Key} {s : Call Key} {f : α → Kx Key β}

theorem bind_apply (m : Kx Key α) (f : α → Kx Key β) (s : Call Key) :
    (m >>= f) s = match m s with
      | .ok a s' => f a s' | .out r s' => .out r s' | .fatal msg => .fatal msg := rfl

theorem bind_eq_ok {m : Kx Key α} {b : β} {s' : Call Key} :
    (m >>= f) s = .ok b s' ↔ ∃ a s₁, m s = .ok a s₁ ∧ f a s₁ = .ok b s' := by
  rw [bind_apply]
  rcases m s with ⟨a, s₁⟩ | ⟨r, s₁⟩ | msg <;> simp [and_assoc]

@[simp] theorem pure_bind (a : α) : (pure a >>= f) = f a := rfl

@[simp] theorem pure_apply (a : α) : (pure a : Kx Key α) s = .ok a s := rfl

@[simp] theorem ite_bind (c : Prop) [Decidable c] (a b : Kx Key α) :
    ((if c then a else b) >>= f) = if c then a >>= f else b >>= f := by
  split <;> rfl

@[simp] theorem ite_apply (c : Prop) [Decidable c] (a b : Kx Key α) :
    (if c then a else b) s = if c then a s else b s := by
  split <;> rfl

@[simp] theorem goto_bind (r : SshErr) : (goto r >>= f) s = .out r s := rfl

@[simp] theorem goto_apply (r : SshErr) : (goto r : Kx Key α) s = .out r s := rfl

@[simp] theorem kex_bind (f : Kex Key → Kx Key β) : (Kx.kex >>= f) s = f s.ssh.kex s := rfl

@[simp] theorem call_bind (e : Ev) (f : Unit → Kx Key β) :
    (call e >>= f) s = f () { s with ssh.trace := s.ssh.trace ++ [e] } := rfl

@[simp] theorem call_apply (e : Ev) : call e s = .ok () { s with ssh.trace := s.ssh.trace ++ [e] } :=
  rfl

@[simp] theorem setLoc_bind (g : Locals → Locals) (f : Unit → Kx Key β) :
    (setLoc g >>= f) s = f () { s with loc := g s.loc } := rfl

@[simp] theorem setKex_bind (g : Kex Key → Kex Key) (f : Unit → Kx Key β) :
    (setKex g >>= f) s = f () { s with ssh.kex := g s.ssh.kex } := rfl

@[simp] theorem nonNull_bind (x : Option α) (e : SshErr) :
    (nonNull x e >>= f) s = match x with | some a => f a s | none => .out e s := by
  cases x <;> rfl

@[simp] theorem orFatal_bind (x : Option α) (msg : String) :
    (orFatal x msg >>= f) s = match x with | some a => f a s | none => .fatal msg := by
  cases x <;> rfl

@[simp] theorem check_bind (x : Except SshErr α) :
    (check x >>= f) s = match x with | .ok a => f a s | .error e => .out e s := by
  cases x <;> rfl

@[simp] theorem new_bind (o : Obj) (f : Unit → Kx Key β) :
    (new E o >>= f) s = if E.alloc_ok o then f () { s with ssh.trace := s.ssh.trace ++ [.alloc o] }
      else .out .allocFail s := by
  unfold new; split <;> rfl

@[simp] theorem malloc_bind (o : Obj) (n : Nat) (f : Unit → Kx Key β) :
    (malloc E o n >>= f) s =
      if E.alloc_ok o then f () { s with ssh.trace := s.ssh.trace ++ [.malloc o n] }
      else .out .allocFail s := by
  unfold malloc; split <;> rfl

@[simp] theorem sshpkt_bind (e : Ev) (f : Unit → Kx Key β) :
    (sshpkt E e >>= f) s = match E.sshpkt_error e with
      | some r => .out r s | none => f () { s with ssh.trace := s.ssh.trace ++ [e] } := by
  unfold sshpkt; cases E.sshpkt_error e <;> rfl

@[simp] theorem sshpkt_get_ec_bind (g : Nat) (f : Bytes → Kx Key β) :
    (sshpkt_get_ec E g >>= f) s = match E.sshpkt_get_ec g s.ssh.payload with
      | .ok (q, rest) => f q { s with ssh.payload := rest } | .error r => .out r s := by
  rw [bind_apply]; unfold sshpkt_get_ec
  rcases E.sshpkt_get_ec g s.ssh.payload with _ | ⟨q, rest⟩ <;> rfl

@[simp] theorem sshpkt_get_end_bind (f : Unit → Kx Key β) :
    (sshpkt_get_end >>= f) s = if s.ssh.payload = [] then f () s else .out .trailing s := by
  rw [bind_apply]; unfold sshpkt_get_end; by_cases hp : s.ssh.payload = [] <;> simp [hp]

end Run

end Kx

open Kx

/-- Lines 75–122: the curve, the ephemeral key, the host keys and the client's point,
validated. Returns the generated key, the host keys and the point. -/
def setup (E : EcdhEnv Key) : Kx Key (EcKey × Key × Key × Bytes) := do
  let kex ← Kx.kex
  let curve_nid ← nonNull (E.kex_ecdh_name_to_nid kex.name) .invalidArgument
  let server_key ← nonNull (E.EC_KEY_new_by_curve_name curve_nid) .allocFail
  call (.alloc .serverKey)
  setLoc fun l => { l with server_key := some server_key }
  let server_key ← nonNull (E.EC_KEY_generate_key server_key) .libcryptoError
  setLoc fun l => { l with server_key := some server_key }
  let group := server_key.group
  let load_public ← nonNull kex.load_host_public_key .invalidArgument
  let load_private ← nonNull kex.load_host_private_key .invalidArgument
  let server_host_public ← nonNull (load_public kex.hostkey_type) .keyTypeMismatch
  let server_host_private ← nonNull (load_private kex.hostkey_type) .keyTypeMismatch
  new E .clientPublic
  let client_public ← sshpkt_get_ec E group
  sshpkt_get_end
  if !E.sshkey_ec_validate_public group client_public then
    call (.disconnect "invalid client public key")
    goto .messageIncomplete
  return (server_key, server_host_public, server_host_private, client_public)

/-- Lines 124–136: calculate `shared_secret`. -/
def sharedSecret (E : EcdhEnv Key) (server_key : EcKey) (client_public : Bytes) : Kx Key Nat := do
  let klen := (E.EC_GROUP_get_degree server_key.group + 7) / 8
  setLoc fun l => { l with klen := klen }
  malloc E .kbuf klen
  setLoc fun l => { l with kbuf := some [] }
  new E .sharedSecret
  setLoc fun l => { l with shared_secret := some 0 }
  call (.ecdh client_public)
  let computed := E.ECDH_compute_key klen client_public server_key
  setLoc fun l => { l with kbuf := some computed.2 }
  if computed.1 ≠ klen then goto .libcryptoError
  let shared_secret ← nonNull (E.BN_bin2bn computed.2) .libcryptoError
  setLoc fun l => { l with shared_secret := some shared_secret }
  return shared_secret

/-- Lines 141–168: calc H, and save session id := H. -/
def exchangeHash (E : EcdhEnv Key) (server_key : EcKey) (server_host_public : Key)
    (client_public : Bytes) (shared_secret : Nat) : Kx Key (Bytes × Bytes) := do
  let kex ← Kx.kex
  let server_host_key_blob ← check (E.sshkey_to_blob server_host_public)
  call (.alloc .hostKeyBlob)
  setLoc fun l => { l with server_host_key_blob := some server_host_key_blob }
  let hash ← check (E.kex_ecdh_hash kex.evp_md server_key.group kex.client_version_string
    kex.server_version_string kex.peer kex.my server_host_key_blob client_public server_key.pub
    shared_secret)
  if kex.session_id.isNone then
    setKex fun k => { k with session_id_len := hash.length }
    malloc E .sessionId hash.length
    setKex fun k => { k with session_id := some hash }
  return (server_host_key_blob, hash)

/-- Lines 170–189: sign H, send the reply, derive the keys. -/
def reply (E : EcdhEnv Key) (server_key : EcKey) (server_host_private : Key)
    (server_host_key_blob hash : Bytes) (shared_secret : Nat) : Kx Key Unit := do
  let signature ← orFatal (E.sshkey_sign server_host_private hash)
    "kexdh_server: sshkey_sign failed"
  call (.alloc .signature)
  setLoc fun l => { l with signature := some signature }
  sshpkt E (.start SSH2_MSG_KEX_ECDH_REPLY)
  sshpkt E (.putString server_host_key_blob)
  sshpkt E (.putEc server_key.pub)
  sshpkt E (.putString signature)
  sshpkt E .send
  call (.deriveKeys hash shared_secret)
  call .finish

/-- The body of `input_kex_ecdh_init` up to the `out:` label. -/
def body (E : EcdhEnv Key) : Kx Key Unit := do
  let (server_key, server_host_public, server_host_private, client_public) ← setup E
  let shared_secret ← sharedSecret E server_key client_public
  let (server_host_key_blob, hash) ←
    exchangeHash E server_key server_host_public client_public shared_secret
  reply E server_key server_host_private server_host_key_blob hash shared_secret

/-- Lines 195–206: what the epilogue does with each non-NULL local. -/
def Locals.release (l : Locals) : List Ev :=
  (if l.server_host_key_blob.isSome then [.free .hostKeyBlob] else []) ++
  (if l.server_key.isSome then [.free .serverKey] else []) ++
  (if l.kbuf.isSome then [.bzero .kbuf l.klen, .free .kbuf] else []) ++
  (if l.shared_secret.isSome then [.clearFree .sharedSecret] else []) ++
  (if l.signature.isSome then [.free .signature] else [])

/-- The `out:` epilogue. -/
def epilogue (s : Call Key) : Ssh Key :=
  let ssh := if s.ssh.kex.ec_client_key then
      { s.ssh with kex.ec_client_key := false, trace := s.ssh.trace ++ [.free .ecClientKey] }
    else s.ssh
  { ssh with trace := ssh.trace ++ s.loc.release }

/-- How `input_kex_ecdh_init` ends: returning `r` (`.ok ()` for 0) with the connection
after its epilogue, or in `fatal()`. -/
inductive Outcome (Key : Type) where
  | ret (r : Except SshErr Unit) (ssh : Ssh Key)
  | fatal (msg : String)

def input_kex_ecdh_init (E : EcdhEnv Key) (ssh : Ssh Key) : Outcome Key :=
  match body E ⟨{}, ssh⟩ with
  | .ok () s => .ret (.ok ()) (epilogue s)
  | .out r s => .ret (.error r) (epilogue s)
  | .fatal msg => .fatal msg

end Libopenssh.KexEcdh

import Libopenssh.Keysign.ValidRequest
import Mathlib.Data.List.FinRange

/-! `main` of `ssh-keysign.c`: one request read from stdin, one signature written. -/
namespace Libopenssh.Keysign

def NUM_KEYTYPES : Nat := 3

def STDIN_FILENO : Int := 0

def STDOUT_FILENO : Int := 1

/-- What `main` gets back from the system and the configuration. -/
structure KeysignEnv (Key : Type) where
  /-- `open(_PATH_DEVNULL, O_RDWR)`. -/
  devnull_fd : Int
  /-- `open()` of the DSA, ECDSA and RSA host key files, -1 on failure. -/
  key_fd : Fin NUM_KEYTYPES → Int
  /-- `getpwuid(getuid())`. -/
  pw : Option Passwd
  /-- `options.enable_ssh_keysign` once the configuration is read. -/
  enable_ssh_keysign : Int
  /-- The key `sshkey_load_private_pem` loads from a descriptor, `NULL` on failure. -/
  load_private_pem : Int → Option Key
  /-- The body `ssh_msg_recv(STDIN_FILENO, b)` receives, `none` when it fails. -/
  msg : Option Bytes
  /-- `get_local_name(fd)`. -/
  get_local_name : Int → Option CStr

variable {Key : Type}

def loadKeys (E : KeysignEnv Key) (i : Fin NUM_KEYTYPES) : Option Key :=
  if E.key_fd i = -1 then none else E.load_private_pem (E.key_fd i)

def int32_of_u32 (n : Nat) : Int := if n < 2 ^ 31 then n else n - 2 ^ 32

/-- The matching loop of `main`: the first `i` with `keys[i] != NULL &&
sshkey_equal_public(key, keys[i])`. -/
def findKey (K : KeyOps Key) (key : Option Key) (keys : Fin NUM_KEYTYPES → Option Key) :
    Option (Fin NUM_KEYTYPES × Key) :=
  (List.finRange NUM_KEYTYPES).findSome? fun i =>
    match key, keys i with
    | some k, some ki => if K.equal_public k ki then some (i, ki) else none
    | _, _ => none

/-- Modelled from the spec: `ssh_msg_send`, whose source is not in the repository's
files. §6.4: a message is `uint32 length || bytes`, here a type byte and the buffer. -/
def ssh_msg_send (type : UInt8) (m : Bytes) : Bytes := put_u32 (m.length + 1) ++ type :: m

/-- `if (c) fatal(...)`, `if (c) exit(...)`: stop with `e` when `c` holds. -/
def stopIf (c : Prop) [Decidable c] (e : Stop) : Except Stop Unit :=
  if c then .error e else .ok ()

/-- `main` from its first line: `.ok` holds what `ssh_msg_send` writes to stdout. -/
def main (K : KeyOps Key) (E : KeysignEnv Key) : Except Stop Bytes := do
  let version : UInt8 := 2
  -- Ensure that stdin and stdout are connected
  stopIf (E.devnull_fd < 2) (.exit 1)
  let some pw := E.pw | throw (.fatal "getpwuid failed")
  -- verify that ssh-keysign is enabled by the admin
  stopIf (E.enable_ssh_keysign ≠ 1) (.fatal "ssh-keysign not enabled in %s")
  stopIf (∀ i, E.key_fd i = -1) (.fatal "could not open any host key")
  let keys := loadKeys E
  stopIf (∀ i, (keys i).isNone) (.fatal "no hostkey found")
  let some b := E.msg | throw (.fatal "ssh_msg_recv failed")
  let (rver, b) ← need "main" (sshbuf_get_u8 b)
  stopIf (rver ≠ version) (.fatal "bad version: received %d, expected %d")
  let (fd, b) ← need "main" (sshbuf_get_u32 b)
  let fd := int32_of_u32 fd
  stopIf (fd < 0 ∨ fd = STDIN_FILENO ∨ fd = STDOUT_FILENO) (.fatal "bad fd")
  let some host := E.get_local_name fd | throw (.fatal "cannot get local name for fd")
  let (data, _) ← need "main" (sshbuf_get_string b)
  let (r, key) ← valid_request K pw host none data
  stopIf (r < 0) (.fatal "not a valid request")
  let some (_, k) := findKey K key keys | throw (.fatal "no matching hostkey found")
  let some signature := K.sign k data | throw (.fatal "sshkey_sign failed: %s")
  -- send reply
  return ssh_msg_send version (sshbuf_put_string [] signature)

def FirstMatch (K : KeyOps Key) (key : Key) (keys : Fin NUM_KEYTYPES → Option Key)
    (i : Fin NUM_KEYTYPES) (k : Key) : Prop :=
  keys i = some k ∧ K.equal_public key k = true ∧
    ∀ j < i, ∀ kj, keys j = some kj → K.equal_public key kj = false

/-- `out` is a reply to the request on stdin: version 2, a descriptor other than stdin
and stdout with a local name, signed data that `valid_request` accepts, and the
signature of exactly that data by the first loaded host key matching its key. -/
def SignsRequest (K : KeyOps Key) (E : KeysignEnv Key) (out : Bytes) : Prop :=
  ∃ fd data rest pw host key i k sig,
    E.msg = some (2 :: put_u32 fd ++ sshString data ++ rest) ∧ fd < 2 ^ 32 ∧
    ¬(int32_of_u32 fd < 0 ∨ int32_of_u32 fd = STDIN_FILENO ∨ int32_of_u32 fd = STDOUT_FILENO) ∧
    E.get_local_name (int32_of_u32 fd) = some host ∧ E.pw = some pw ∧
    valid_request K pw host none data = .ok (0, some key) ∧
    FirstMatch K key (loadKeys E) i k ∧ K.sign k data = some sig ∧
    out = ssh_msg_send 2 (sshString sig)

section Lemmas

variable {K : KeyOps Key} {E : KeysignEnv Key} {out : Bytes}

theorem stopIf_eq_ok {c : Prop} [Decidable c] {e : Stop} {u : Unit} :
    stopIf c e = .ok u ↔ ¬c := by
  unfold stopIf; split <;> simp_all

theorem findSome?_finRange_eq_some {n : Nat} {β : Type} {f : Fin n → Option β} {b : β}
    (h : (List.finRange n).findSome? f = some b) :
    ∃ i, f i = some b ∧ ∀ j < i, f j = none := by
  obtain ⟨l₁, i, l₂, hl, hi, hnone⟩ := List.findSome?_eq_some_iff.1 h
  refine ⟨i, hi, fun j hji => hnone j ?_⟩
  have hsorted := List.pairwise_lt_finRange n
  have hj := List.mem_finRange j
  rw [hl] at hsorted hj
  rcases List.mem_append.1 hj with hj | hj
  · exact hj
  · rcases List.mem_cons.1 hj with rfl | hj
    · exact absurd hji (Nat.lt_irrefl _)
    · have := (List.pairwise_cons.1 (List.pairwise_append.1 hsorted).2.1).1 j hj
      exact absurd (Nat.lt_trans hji this) (Nat.lt_irrefl _)

theorem findKey_eq_some {key : Key} {keys : Fin NUM_KEYTYPES → Option Key} {i : Fin NUM_KEYTYPES}
    {k : Key} (h : findKey K (some key) keys = some (i, k)) : FirstMatch K key keys i k := by
  obtain ⟨i', hi, hfirst⟩ := findSome?_finRange_eq_some h
  cases hk : keys i' with
  | none => simp [hk] at hi
  | some k' =>
    simp only [hk] at hi
    split at hi
    · obtain ⟨rfl, rfl⟩ := Prod.mk.inj (Option.some.inj hi)
      refine ⟨hk, ‹_›, fun j hj kj hkj => ?_⟩
      have := hfirst j hj
      simp only [hkj] at this
      split at this <;> simp_all
    · cases hi

theorem findKey_of_firstMatch {key : Key} {keys : Fin NUM_KEYTYPES → Option Key}
    {i : Fin NUM_KEYTYPES} {k : Key} (h : FirstMatch K key keys i k) :
    findKey K (some key) keys = some (i, k) := by
  obtain ⟨hi, he, hj⟩ := h
  have hfi : (match some key, keys i with
      | some k, some ki => if K.equal_public k ki then some (i, ki) else none
      | _, _ => none) = some (i, k) := by simp [hi, he]
  cases hf : findKey K (some key) keys with
  | none =>
    exact absurd hfi (by rw [List.findSome?_eq_none_iff.1 hf i (List.mem_finRange i)]; nofun)
  | some r =>
    obtain ⟨i', hi', hfirst⟩ := findSome?_finRange_eq_some hf
    rcases Nat.lt_trichotomy i i' with hlt | heq | hlt
    · exact absurd ((hfirst i hlt).symm.trans hfi) nofun
    · exact (Fin.ext heq ▸ hi').symm.trans hfi
    · cases hk : keys i' with
      | none => simp [hk] at hi'
      | some ki => simp [hk, hj i' hlt ki hk] at hi'

end Lemmas

/-- Whatever `main` writes is the signature of the received signed data by a matching
host key, sent only after every check passed. -/
theorem main_reply (h : main K E = .ok out) : SignsRequest K E out := by
  simp only [main, bind_eq_ok, need_eq_ok, Prod.exists, stopIf_eq_ok] at h
  obtain ⟨-, -, h⟩ := h
  split at h
  case h_2 => cases h
  rename_i pw hpw
  simp only [bind_eq_ok, need_eq_ok, Prod.exists, stopIf_eq_ok] at h
  obtain ⟨-, -, -, -, -, -, h⟩ := h
  split at h
  case h_2 => cases h
  rename_i msg hmsg
  simp only [bind_eq_ok, need_eq_ok, Prod.exists, stopIf_eq_ok] at h
  obtain ⟨rver, b, hb, -, hv, fd, b1, hb1, -, hfd, h⟩ := h
  split at h
  case h_2 => cases h
  rename_i host hhost
  simp only [bind_eq_ok, need_eq_ok, Prod.exists, stopIf_eq_ok] at h
  obtain ⟨data, rest, hdata, r, key, hvr, -, hr, h⟩ := h
  split at h
  case h_2 => cases h
  rename_i i k hfind
  split at h
  case h_2 => cases h
  rename_i sig hsig
  rw [sshbuf_get_u8_ok_iff] at hb
  rw [sshbuf_get_u32_ok_iff] at hb1
  rw [sshbuf_get_string_ok_iff] at hdata
  rcases valid_request_ok_cases hvr with h1 | ⟨key, hkey, -⟩
  · simp at h1; omega
  obtain ⟨rfl, rfl⟩ := Prod.mk.inj hkey
  refine ⟨fd, data, rest, pw, host, key, i, k, sig, ?_, hb1.2, hfd, hhost, hpw, hvr,
    findKey_eq_some hfind, hsig, ?_⟩
  · simp only [not_not] at hv
    simp [hmsg, hb, hv, hb1.1, hdata.1]
  · cases h; rfl

/-- Conversely, a request that a matching host key signs is answered: with both descriptors
open, `ssh-keysign` enabled and a message that fits its length field, `main` writes the
signature. -/
theorem main_answers {K : KeyOps Key} {E : KeysignEnv Key} {out : Bytes}
    (hdev : 2 ≤ E.devnull_fd) (hen : E.enable_ssh_keysign = 1)
    (hmsg : ∀ m, E.msg = some m → m.length < 2 ^ 32) (h : SignsRequest K E out) :
    main K E = .ok out := by
  obtain ⟨fd, data, rest, pw, host, key, i, k, sig, hm, hfd, hfdok, hhost, hpw, hvr, hfirst,
    hsig, rfl⟩ := h
  have hlen : data.length < 2 ^ 32 := by have := hmsg _ hm; simp at this; omega
  have hkeys : loadKeys E i = some k := hfirst.1
  have hopen : ¬ ∀ j, E.key_fd j = -1 := fun hall => by simp [loadKeys, hall] at hkeys
  have hloaded : ¬ ∀ j, (loadKeys E j).isNone := fun hall => by simpa [hkeys] using hall i
  have hdev' : ¬ E.devnull_fd < 2 := not_lt.2 hdev
  simp only [main, stopIf, if_neg hdev', hpw, hen, if_neg hopen, if_neg hloaded, hm,
    List.cons_append, sshbuf_get_u8_cons, List.append_assoc, sshbuf_get_u32_put hfd,
    sshbuf_get_string_sshString hlen, if_neg hfdok, hhost, hvr, findKey_of_firstMatch hfirst, hsig,
    bind, Except.bind, need_ok]
  rfl

def exampleRequest : SignedData :=
  ⟨List.replicate 20 0, 50, ascii "user", ascii "ssh-connection", ascii "hostbased",
    ascii "ssh-rsa", [1], ascii "HOST.", ascii "root", by decide⟩

def exampleEnv : KeysignEnv Unit where
  devnull_fd := 3
  key_fd := fun _ => 4
  pw := some ⟨⟨ascii "root", by decide, by decide⟩⟩
  enable_ssh_keysign := 1
  load_private_pem := fun _ => some ()
  msg := some (2 :: put_u32 5 ++ sshString exampleRequest.encode)
  get_local_name := fun _ => some ⟨ascii "host", by decide, by decide⟩

theorem main_reply_example :
    main unitKeyOps exampleEnv = .ok (ssh_msg_send 2 (sshString exampleRequest.encode)) ∧
      SignsRequest unitKeyOps exampleEnv (ssh_msg_send 2 (sshString exampleRequest.encode)) :=
  have h : main unitKeyOps exampleEnv = .ok (ssh_msg_send 2 (sshString exampleRequest.encode)) :=
    by decide
  ⟨h, main_reply h⟩

theorem main_answers_example :
    main unitKeyOps exampleEnv = .ok (ssh_msg_send 2 (sshString exampleRequest.encode)) :=
  main_answers (by decide) rfl (fun m hm => by cases hm; decide)
    ⟨5, exampleRequest.encode, [], _, _, (), ⟨0, by decide⟩, (), _, by simp [exampleEnv],
      by decide, by decide, rfl, rfl, by decide, ⟨rfl, rfl, fun _ h => absurd h (Nat.not_lt_zero _)⟩,
      rfl, rfl⟩

end Libopenssh.Keysign

import Libopenssh.Sshbuf

/-! `valid_request` of `ssh-keysign.c`: the check of a host-based signed-data blob. -/
namespace Libopenssh.Keysign

/-- The key operations `ssh-keysign.c` calls; their code is in `key.c`. -/
structure KeyOps (Key : Type) where
  /-- `sshkey_type_from_name`; `KEY_UNSPEC` is `none`. -/
  type_from_name : Bytes → Option Int
  /-- `sshkey_from_blob`; an error return is `none`. -/
  from_blob : Bytes → Option Key
  /-- The `type` field of `struct sshkey`. -/
  type : Key → Int
  equal_public : Key → Key → Bool
  /-- `sshkey_sign` of the given data; an error return is `none`. -/
  sign : Key → Bytes → Option Bytes

structure Passwd where
  pw_name : CStr

/-- How a function of `ssh-keysign.c` stops without returning. -/
inductive Stop where
  /-- `fatal("%s: buffer error: %s", __func__, ssh_err(r))`. -/
  | bufferError (func : String) (r : SshErr)
  | fatal (msg : String)
  | exit (status : Nat)
  /-- A read outside the bytes of a string: undefined behaviour. -/
  | outOfBounds
  deriving DecidableEq

def SSH2_MSG_USERAUTH_REQUEST : UInt8 := 50

def ascii (s : String) : Bytes := s.toList.map fun c => c.toNat.toUInt8

def need {α : Type} (func : String) (x : Except SshErr α) : Except Stop α :=
  x.mapError (.bufferError func)

/-- Subtraction of `size_t` values, which wraps modulo `2^64`. -/
def sizeSub (a b : Nat) : Nat := (a + 2 ^ 64 - b) % 2 ^ 64

def strcmp : Bytes → Bytes → Int
  | [], [] => 0
  | [], b :: _ => -(b.toNat : Int)
  | a :: _, [] => a.toNat
  | a :: as, b :: bs => if a ≠ b then (a.toNat : Int) - b.toNat else if a = 0 then 0 else strcmp as bs

def tolower (c : UInt8) : UInt8 :=
  if 65 ≤ c.toNat ∧ c.toNat ≤ 90 then UInt8.ofNat (c.toNat + 32) else c

def strncasecmp : Nat → Bytes → Bytes → Int
  | 0, _, _ => 0
  | _ + 1, [], [] => 0
  | _ + 1, [], b :: _ => -((tolower b).toNat : Int)
  | _ + 1, a :: _, [] => (tolower a).toNat
  | n + 1, a :: as, b :: bs =>
    if tolower a ≠ tolower b then ((tolower a).toNat : Int) - (tolower b).toNat
    else if a = 0 then 0 else strncasecmp n as bs

variable {Key : Type}

/-- The public-key block of `valid_request`: the key `sshkey_from_blob` decoded (`NULL`
where it is not reached or fails), and whether the block counts a failure. -/
def checkPubkey (K : KeyOps Key) (pkalg pkblob : Bytes) : Option Key × Bool :=
  match K.type_from_name pkalg with
  | none => (none, true)
  | some pktype =>
    match K.from_blob pkblob with
    | none => (none, true)
    | some key => (some key, K.type key ≠ pktype)

/-- The client host name block of `valid_request`, `p` holding `len` bytes: whether it
counts a failure. The string's buffer ends in its terminator, so `p[len]` reads 0. -/
def checkChost (host : CStr) (p : Bytes) : Except Stop Bool :=
  let len := p.length
  if host.bytes.length ≠ sizeSub len 1 then pure true
  else match (p ++ [0])[sizeSub len 1]? with
    | none => throw .outOfBounds
    | some c => pure (c ≠ 0x2E || strncasecmp (sizeSub len 1) host.bytes p ≠ 0)

/-- `valid_request(pw, host, ret, data, datalen)`: the value returned and the value of
`*ret` afterwards, which starts as `ret`. -/
def valid_request (K : KeyOps Key) (pw : Passwd) (host : CStr) (ret : Option Key)
    (data : Bytes) : Except Stop (Int × Option Key) := do
  let fail := 0
  -- session id, currently limited to SHA1 (20 bytes) or SHA256 (32)
  let (sid, b) ← need "valid_request" (sshbuf_get_string data)
  let fail := fail + if sid.length ≠ 20 ∧ sid.length ≠ 32 then 1 else 0
  let (type, b) ← need "valid_request" (sshbuf_get_u8 b)
  let fail := fail + if type ≠ SSH2_MSG_USERAUTH_REQUEST then 1 else 0
  -- server user
  let b ← need "valid_request" (sshbuf_skip_string b)
  -- service
  let (p, b) ← need "valid_request" (sshbuf_get_cstring b)
  let fail := fail + if strcmp (ascii "ssh-connection") p ≠ 0 then 1 else 0
  -- method
  let (p, b) ← need "valid_request" (sshbuf_get_cstring b)
  let fail := fail + if strcmp (ascii "hostbased") p ≠ 0 then 1 else 0
  -- pubkey
  let (pkalg, b) ← need "valid_request" (sshbuf_get_cstring b)
  let (pkblob, b) ← need "valid_request" (sshbuf_get_string b)
  let key := (checkPubkey K pkalg pkblob).1
  let fail := fail + if (checkPubkey K pkalg pkblob).2 then 1 else 0
  -- client host name, handle trailing dot
  let (p, b) ← need "valid_request" (sshbuf_get_cstring b)
  let hostFail ← checkChost host p
  let fail := fail + if hostFail then 1 else 0
  -- local user
  let (luser, b) ← need "valid_request" (sshbuf_get_cstring b)
  let fail := fail + if strcmp pw.pw_name.bytes luser ≠ 0 then 1 else 0
  -- end of message
  let fail := fail + if b.length ≠ 0 then 1 else 0
  return (if fail ≠ 0 then -1 else 0, if fail ≠ 0 ∧ key.isSome then ret else key)

/-- The nine fields of the host-based "signed data" (§6.4), each short enough for the
`uint32` length of its `string`. -/
structure SignedData where
  session_id : Bytes
  type : UInt8
  server_user : Bytes
  service : Bytes
  method : Bytes
  pkalg : Bytes
  pkblob : Bytes
  chost : Bytes
  luser : Bytes
  fits : ∀ s ∈ [session_id, server_user, service, method, pkalg, pkblob, chost, luser],
    s.length < 2 ^ 32

def SignedData.encode (d : SignedData) : Bytes :=
  sshString d.session_id ++ d.type :: sshString d.server_user ++ sshString d.service ++
    sshString d.method ++ sshString d.pkalg ++ sshString d.pkblob ++ sshString d.chost ++
    sshString d.luser

def SignedData.Cstrings (d : SignedData) : Prop :=
  CstringOk d.service ∧ CstringOk d.method ∧ CstringOk d.pkalg ∧ CstringOk d.chost ∧
    CstringOk d.luser

/-- `chost` is `host`, compared case-insensitively, followed by one '.'. -/
def ChostMatches (host : CStr) (chost : Bytes) : Prop :=
  ∃ c, chost = c ++ [0x2E] ∧ c.map tolower = host.bytes.map tolower

/-- The checks of `valid_request` on the fields of a request, `key` being the key the
blob decodes to. -/
structure SignedData.Valid (K : KeyOps Key) (pw : Passwd) (host : CStr) (d : SignedData)
    (key : Key) : Prop where
  session_id : d.session_id.length = 20 ∨ d.session_id.length = 32
  type : d.type = SSH2_MSG_USERAUTH_REQUEST
  service : d.service = ascii "ssh-connection"
  method : d.method = ascii "hostbased"
  pubkey : ∃ t, K.type_from_name d.pkalg = some t ∧ K.from_blob d.pkblob = some key ∧
    K.type key = t
  chost : ChostMatches host d.chost
  luser : d.luser = pw.pw_name.bytes

section Lemmas

variable {K : KeyOps Key} {pw : Passwd} {host : CStr} {ret r : Option Key} {key : Key}
  {a b p data extra : Bytes} {n : Nat} {d : SignedData} {v : Int × Option Key}

theorem need_eq_ok {α : Type} {f : String} {x : Except SshErr α} {y : α} :
    need f x = .ok y ↔ x = .ok y := by
  cases x <;> simp [need, Except.mapError]

@[simp] theorem need_ok {α : Type} {f : String} {y : α} : need f (.ok y) = .ok y := rfl

@[simp] theorem need_ne_outOfBounds {α : Type} {f : String} {x : Except SshErr α} :
    need f x = .error .outOfBounds ↔ False := by
  cases x <;> simp [need, Except.mapError]

theorem toNat_eq_zero_iff {c : UInt8} : c.toNat = 0 ↔ c = 0 :=
  ⟨fun h => UInt8.toNat.inj (by simpa using h), by rintro rfl; rfl⟩

theorem strcmp_eq_zero_iff (ha : (0 : UInt8) ∉ a) (hb : (0 : UInt8) ∉ b) :
    strcmp a b = 0 ↔ a = b := by
  induction a generalizing b with
  | nil =>
    cases b with
    | nil => simp [strcmp]
    | cons y b =>
      have : y.toNat ≠ 0 := mt toNat_eq_zero_iff.1 (by simp_all [eq_comm])
      simp only [strcmp, reduceCtorEq, iff_false]; omega
  | cons x a ih =>
    cases b with
    | nil =>
      have : x.toNat ≠ 0 := mt toNat_eq_zero_iff.1 (by simp_all [eq_comm])
      simp only [strcmp, reduceCtorEq, iff_false]; omega
    | cons y b =>
      simp only [List.mem_cons, not_or] at ha hb
      by_cases hxy : x = y
      · subst hxy
        simp [strcmp, Ne.symm ha.1, ih ha.2 hb.2]
      · have : x.toNat ≠ y.toNat := fun h => hxy (UInt8.toNat.inj h)
        simp only [strcmp, ne_eq, hxy, not_false_eq_true, ↓reduceIte, List.cons.injEq,
          false_and, iff_false]
        omega

theorem strncasecmp_eq_zero_iff (ha : (0 : UInt8) ∉ a) (hb : (0 : UInt8) ∉ b)
    (hn : a.length = n) (hnb : n ≤ b.length) :
    strncasecmp n a b = 0 ↔ a.map tolower = (b.take n).map tolower := by
  induction n generalizing a b with
  | zero => cases a <;> simp_all [strncasecmp]
  | succ n ih =>
    match a, b with
    | x :: a, y :: b =>
      simp only [List.mem_cons, not_or, List.length_cons, Nat.add_right_cancel_iff] at ha hb hn hnb
      simp only [strncasecmp, List.take_succ_cons, List.map_cons, List.cons.injEq]
      by_cases hxy : tolower x = tolower y
      · simp [hxy, Ne.symm ha.1, ih ha.2 hb.2 hn (by omega)]
      · have : (tolower x).toNat ≠ (tolower y).toNat := fun h => hxy (UInt8.toNat.inj h)
        simp only [ne_eq, hxy, not_false_eq_true, ↓reduceIte, false_and, iff_false]
        omega

/-- The `size_t` guard `strlen(host) != len - 1` passes only for `len ≥ 1`: a C string
is never `SIZE_MAX` bytes long. -/
theorem eq_sizeSub_one {m len : Nat} (hm : m < 2 ^ 63) (hl : len < 2 ^ 32)
    (h : m = sizeSub len 1) : 1 ≤ len ∧ m = len - 1 := by
  simp only [sizeSub] at h; omega

theorem sizeSub_succ_one (h : n < 2 ^ 32) : sizeSub (n + 1) 1 = n := by
  simp only [sizeSub]; omega

/-- The host name block never reads out of bounds, and passes exactly on a matching
name. -/
theorem checkChost_ok (host : CStr) (hp : (0 : UInt8) ∉ p) (hl : p.length < 2 ^ 32) :
    ∃ f, checkChost host p = .ok f ∧ (f = false ↔ ChostMatches host p) := by
  unfold checkChost
  by_cases hg : host.bytes.length = sizeSub p.length 1
  · obtain ⟨h1, -⟩ := eq_sizeSub_one host.fits hl hg
    obtain ⟨c, z, rfl⟩ : ∃ c z, p = c ++ [z] := by
      cases p using List.reverseRecOn with
      | nil => simp at h1
      | append_singleton c z _ => exact ⟨c, z, rfl⟩
    have hs : sizeSub (c ++ [z]).length 1 = c.length := by
      simp only [List.length_append, List.length_singleton] at hl ⊢
      exact sizeSub_succ_one (by omega)
    have hz : (c ++ [z] ++ [0])[c.length]? = some z := by simp [List.getElem_append_right]
    simp only [hs] at hg ⊢
    simp only [hg, ne_eq, not_true_eq_false, ↓reduceIte, hz]
    refine ⟨_, rfl, ?_⟩
    rw [Bool.or_eq_false_iff, decide_eq_false_iff_not, decide_eq_false_iff_not, not_not, not_not,
      strncasecmp_eq_zero_iff host.no_nul hp hg (by simp), List.take_left' rfl]
    constructor
    · rintro ⟨rfl, h⟩; exact ⟨c, rfl, h.symm⟩
    · rintro ⟨c', hc, h⟩
      obtain ⟨rfl, hz⟩ := List.append_inj' hc rfl
      exact ⟨by simpa using hz, h.symm⟩
  · refine ⟨true, by simp [hg, pure, Except.pure], ?_⟩
    simp only [Bool.true_eq_false, false_iff]
    rintro ⟨c, rfl, hc⟩
    have := congrArg List.length hc
    simp only [List.length_map, List.length_append, List.length_singleton] at this hl hg
    exact hg (by rw [sizeSub_succ_one (by omega)]; omega)

theorem checkChost_ne_outOfBounds (host : CStr) (h : sshbuf_get_cstring b = .ok (p, rest)) :
    checkChost host p ≠ .error .outOfBounds := by
  obtain ⟨-, hl, hc, -⟩ := sshbuf_get_cstring_ok_iff.1 h
  obtain ⟨f, hf, -⟩ := checkChost_ok host hc hl
  simp [hf]

theorem checkPubkey_snd_eq_false :
    (checkPubkey K a b).2 = false ↔
      ∃ key t, (checkPubkey K a b).1 = some key ∧ K.type_from_name a = some t ∧
        K.from_blob b = some key ∧ K.type key = t := by
  unfold checkPubkey
  split
  · simp_all
  · split <;> simp_all

/-- Every accepted request frames nine fields whose C strings are well formed. -/
theorem valid_request_frames (h : valid_request K pw host ret data = .ok v) :
    ∃ (d : SignedData) (extra : Bytes), data = d.encode ++ extra ∧ d.Cstrings := by
  simp only [valid_request, bind_eq_ok, need_eq_ok] at h
  obtain ⟨⟨sid, b1⟩, h1, ⟨t, b2⟩, h2, b3, h3, ⟨p1, b4⟩, h4, ⟨p2, b5⟩, h5, ⟨pkalg, b6⟩, h6,
    ⟨pkblob, b7⟩, h7, ⟨chost, b8⟩, h8, -, -, ⟨luser, b9⟩, h9, -⟩ := h
  dsimp only at h2 h3 h5 h6 h7 h8 h9
  rw [sshbuf_get_string_ok_iff] at h1 h7
  rw [sshbuf_get_u8_ok_iff] at h2
  obtain ⟨user, h3, hu⟩ := sshbuf_skip_string_ok_iff.1 h3
  rw [sshbuf_get_cstring_ok_iff] at h4 h5 h6 h8 h9
  have fits : ∀ s ∈ [sid, user, p1, p2, pkalg, pkblob, chost, luser], s.length < 2 ^ 32 := by
    simp only [List.forall_mem_cons]
    exact ⟨h1.2, hu, h4.2.1, h5.2.1, h6.2.1, h7.2, h8.2.1, h9.2.1, fun _ h => nomatch h⟩
  refine ⟨⟨sid, t, user, p1, p2, pkalg, pkblob, chost, luser, fits⟩, b9, ?_,
    h4.2.2, h5.2.2, h6.2.2, h8.2.2, h9.2.2⟩
  simp [SignedData.encode, h1.1, h2, h3, h4.1, h5.1, h6.1, h7.1, h8.1, h9.1]

/-- The host name block reads `p[len - 1]` only past the guard `strlen(host) != len - 1`,
which rejects `len = 0` (where `len - 1` wraps to `SIZE_MAX`); so no request makes
`valid_request` read outside a decoded string. -/
theorem valid_request_chost_in_bounds :
    (∀ (host : CStr) (p : Bytes), host.bytes.length = sizeSub p.length 1 →
      1 ≤ p.length ∧ sizeSub p.length 1 < p.length) ∧
    (∀ host : CStr, checkChost host [] = .ok true) ∧
    ∀ {Key : Type} (K : KeyOps Key) (pw : Passwd) (host : CStr) (ret : Option Key) (data : Bytes),
      valid_request K pw host ret data ≠ .error .outOfBounds := by
  refine ⟨fun host p h => ?_, fun host => ?_, fun K pw host ret data h => ?_⟩
  · have := host.fits
    simp only [sizeSub] at h ⊢
    omega
  · have := host.fits
    simp only [checkChost, List.length_nil, sizeSub]
    rw [if_pos (by omega)]
    rfl
  · simp only [valid_request, bind_eq_error, need_ne_outOfBounds, false_or] at h
    obtain ⟨_, -, _, -, _, -, _, -, _, -, _, -, _, -, ⟨p, r⟩, hp, h⟩ := h
    rcases h with h | ⟨_, -, _, -, h⟩
    · exact checkChost_ne_outOfBounds host (need_eq_ok.1 hp) h
    · exact nomatch h

theorem valid_request_chost_in_bounds_example :
    (ascii "host").length = sizeSub (ascii "host.").length 1 ∧
      1 ≤ (ascii "host.").length ∧ sizeSub (ascii "host.").length 1 < (ascii "host.").length :=
  have h : (ascii "host").length = sizeSub (ascii "host.").length 1 := by decide
  ⟨h, valid_request_chost_in_bounds.1 ⟨ascii "host", by decide, by decide⟩ _ h⟩

theorem result_eq_zero {F : Nat} {k : Option Key} :
    ((if F ≠ 0 then -1 else 0 : Int), if F ≠ 0 ∧ k.isSome then ret else k) = (0, r) ↔
      F = 0 ∧ r = k := by
  by_cases hF : F = 0
  · simp only [hF, ne_eq, not_true_eq_false, ↓reduceIte, false_and, Prod.mk.injEq, true_and]
    exact eq_comm
  · simp [hF]

theorem result_fst {F : Nat} : (if F ≠ 0 then -1 else 0 : Int) = 0 ∨ (if F ≠ 0 then -1 else 0 : Int) = -1 := by
  by_cases hF : F = 0 <;> simp [hF]

/-- On framed data `valid_request` returns, 0 with the decoded key exactly when the
request ends after the nine fields and passes every check, and -1 otherwise. -/
theorem valid_request_framed (K : KeyOps Key) (pw : Passwd) (host : CStr) (ret : Option Key)
    (extra : Bytes) (hc : d.Cstrings) :
    ∃ v, valid_request K pw host ret (d.encode ++ extra) = .ok v ∧ (v.1 = 0 ∨ v.1 = -1) ∧
      ∀ r, v = (0, r) ↔ extra = [] ∧ ∃ key, r = some key ∧ d.Valid K pw host key := by
  obtain ⟨h1, h2, h3, h4, h5, h6, h7, h8⟩ : _ ∧ _ ∧ _ ∧ _ ∧ _ ∧ _ ∧ _ ∧ _ := by simpa using d.fits
  obtain ⟨c1, c2, c3, c4, c5⟩ := hc
  obtain ⟨f, hf, hfi⟩ := checkChost_ok host c4.1 h7
  simp only [valid_request, SignedData.encode, List.append_assoc, List.cons_append,
    sshbuf_get_string_sshString h1, need_ok, sshbuf_get_u8_cons, sshbuf_skip_string_sshString h2,
    sshbuf_get_cstring_ok_iff.2 ⟨rfl, h3, c1⟩, sshbuf_get_cstring_ok_iff.2 ⟨rfl, h4, c2⟩,
    sshbuf_get_cstring_ok_iff.2 ⟨rfl, h5, c3⟩, sshbuf_get_string_sshString h6,
    sshbuf_get_cstring_ok_iff.2 ⟨rfl, h7, c4⟩, sshbuf_get_cstring_ok_iff.2 ⟨rfl, h8, c5⟩, hf,
    bind, Except.bind, pure, Except.pure]
  refine ⟨_, rfl, result_fst, fun r => ?_⟩
  rw [result_eq_zero]
  simp only [Nat.add_eq_zero_iff, ite_eq_right_iff, Nat.one_ne_zero, imp_false, not_not,
    Nat.zero_add, not_and_or, Bool.not_eq_true, strcmp_eq_zero_iff (show (0 : UInt8) ∉ ascii "ssh-connection" by decide) c1.1,
    strcmp_eq_zero_iff (show (0 : UInt8) ∉ ascii "hostbased" by decide) c2.1, strcmp_eq_zero_iff pw.pw_name.no_nul c5.1,
    checkPubkey_snd_eq_false, hfi, List.length_eq_zero]
  constructor
  · rintro ⟨⟨⟨⟨⟨⟨⟨⟨hs, ht⟩, hsv⟩, hm⟩, ⟨k, t, hk, hpk⟩⟩, hc⟩, hl⟩, he⟩, rfl⟩
    exact ⟨he, k, hk, ⟨hs, ht, hsv.symm, hm.symm, ⟨t, hpk⟩, hc, hl.symm⟩⟩
  · rintro ⟨he, k, rfl, ⟨hs, ht, hsv, hm, ⟨t, hpk⟩, hc, hl⟩⟩
    have hcp : checkPubkey K d.pkalg d.pkblob = (some k, false) := by simp [checkPubkey, hpk]
    exact ⟨⟨⟨⟨⟨⟨⟨⟨hs, ht⟩, hsv.symm⟩, hm.symm⟩, ⟨k, t, by rw [hcp], hpk⟩⟩, hc⟩, hl.symm⟩, he⟩,
      by rw [hcp]⟩

theorem valid_request_ok_cases (h : valid_request K pw host ret data = .ok v) :
    v.1 = -1 ∨ ∃ key, v = (0, some key) ∧
      ∃ d : SignedData, data = d.encode ∧ d.Cstrings ∧ d.Valid K pw host key := by
  obtain ⟨d, extra, rfl, hc⟩ := valid_request_frames h
  obtain ⟨v', hv, h01, hiff⟩ := valid_request_framed K pw host ret extra hc
  obtain rfl : v' = v := by rw [hv] at h; cases h; rfl
  obtain ⟨r0, r⟩ := v'
  rcases h01 with rfl | h1
  · obtain ⟨rfl, key, rfl, hval⟩ := (hiff r).1 rfl
    exact .inr ⟨key, rfl, d, by simp, hc, hval⟩
  · exact .inl h1

end Lemmas

/-- `valid_request` accepts exactly the well-formed requests that pass every check,
handing back the key of the blob; on any other framing of the nine fields whose C
strings are well formed it returns -1 rather than stopping. -/
theorem valid_request_exact (K : KeyOps Key) (pw : Passwd) (host : CStr) (ret r : Option Key)
    (data : Bytes) :
    (valid_request K pw host ret data = .ok (0, r) ↔
      ∃ (d : SignedData) (key : Key), data = d.encode ∧ d.Cstrings ∧ d.Valid K pw host key ∧
        r = some key) ∧
    ∀ d : SignedData, d.Cstrings → ∀ extra, ∃ v,
      valid_request K pw host ret (d.encode ++ extra) = .ok v ∧ (v.1 = 0 ∨ v.1 = -1) := by
  refine ⟨⟨fun h => ?_, ?_⟩, fun d hc extra => ?_⟩
  · obtain ⟨d, extra, rfl, hc⟩ := valid_request_frames h
    obtain ⟨v, hv, -, hiff⟩ := valid_request_framed K pw host ret extra hc
    obtain ⟨rfl, key, rfl, hval⟩ := (hiff r).1 (by rw [hv] at h; cases h; rfl)
    exact ⟨d, key, by simp, hc, hval, rfl⟩
  · rintro ⟨d, key, rfl, hc, hv, rfl⟩
    obtain ⟨v, hv', -, hiff⟩ := valid_request_framed K pw host ret [] hc
    rw [← List.append_nil d.encode, hv', (hiff _).2 ⟨rfl, key, rfl, hv⟩]
  · obtain ⟨v, hv, h01, -⟩ := valid_request_framed K pw host ret extra hc
    exact ⟨v, hv, h01⟩

def unitKeyOps : KeyOps Unit :=
  ⟨fun _ => some 0, fun _ => some (), fun _ => 0, fun _ _ => true, fun _ data => some data⟩

def nulServiceRequest : SignedData :=
  ⟨List.replicate 20 0, 50, ascii "user", ascii "ssh" ++ [0] ++ ascii "connection",
    ascii "hostbased", ascii "ssh-rsa", [1], ascii "host.", ascii "root", by decide⟩

/-- A framed request with a wrong service string does not return -1: `valid_request`
stops in `fatal()`. -/
theorem valid_request_nul_service_fatal :
    nulServiceRequest.service ≠ ascii "ssh-connection" ∧
    valid_request unitKeyOps ⟨⟨ascii "root", by decide, by decide⟩⟩
        ⟨ascii "host", by decide, by decide⟩ none nulServiceRequest.encode =
      .error (.bufferError "valid_request" .badString) :=
  ⟨by decide, rfl⟩

end Libopenssh.Keysign

import Mathlib.Algebra.Group.Int
import Mathlib.Data.List.Basic

/-! Byte buffers and the RFC 4251 §5 readers and writers the modelled files call. -/
namespace Libopenssh

/-- The unread contents of an `sshbuf`. -/
abbrev Bytes := List UInt8

/-- The error codes of `err.h` that the modelled functions return or pass on. The
wire-codec ones carry the names §4.1 and §7 give them. -/
inductive SshErr where
  | invalidArgument
  | allocFail
  | libcryptoError
  | keyTypeMismatch
  | messageIncomplete
  | truncated
  | badLength
  | badString
  | trailing
  | other (code : Nat)
  deriving DecidableEq, Repr

instance instDecidableEqExcept {ε α : Type} [DecidableEq ε] [DecidableEq α] :
    DecidableEq (Except ε α)
  | .error a, .error b => decidable_of_iff (a = b) (by simp)
  | .ok a, .ok b => decidable_of_iff (a = b) (by simp)
  | .error _, .ok _ => isFalse nofun
  | .ok _, .error _ => isFalse nofun

/-- A NUL-terminated C string, given by the bytes before its terminator. No C object
is larger than `PTRDIFF_MAX`, so its length is below `2^63`. -/
structure CStr where
  bytes : Bytes
  no_nul : (0 : UInt8) ∉ bytes
  fits : bytes.length < 2 ^ 63

/-- `uint32` in network byte order. -/
def put_u32 (n : Nat) : Bytes :=
  [UInt8.ofNat (n / 2 ^ 24), UInt8.ofNat (n / 2 ^ 16), UInt8.ofNat (n / 2 ^ 8), UInt8.ofNat n]

/-- The value of four bytes read as a big-endian `uint32`. -/
def be32 (a b c d : UInt8) : Nat :=
  a.toNat * 2 ^ 24 + b.toNat * 2 ^ 16 + c.toNat * 2 ^ 8 + d.toNat

/-- RFC 4251 `string`: a `uint32` length and that many bytes. -/
def sshString (s : Bytes) : Bytes := put_u32 s.length ++ s

/-- Modelled from the spec: `sshbuf_put_string`, whose source is not in the repository's
files. §4.1: append a `string` to the buffer. -/
def sshbuf_put_string (b s : Bytes) : Bytes := b ++ sshString s

/-- Modelled from the spec: `sshbuf_get_u8`, whose source is not in the repository's files.
§4.1: one byte, or `truncated` on an empty buffer. -/
def sshbuf_get_u8 : Bytes → Except SshErr (UInt8 × Bytes)
  | b :: rest => .ok (b, rest)
  | [] => .error .truncated

/-- Modelled from the spec: `sshbuf_get_u32`, whose source is not in the repository's
files. §4.1: a big-endian `uint32`, or `truncated` when fewer than four bytes are left. -/
def sshbuf_get_u32 : Bytes → Except SshErr (Nat × Bytes)
  | a :: b :: c :: d :: rest => .ok (be32 a b c d, rest)
  | _ => .error .truncated

/-- Modelled from the spec: `sshbuf_get_string`, whose source is not in the repository's
files. §4.1: a `string`, or `bad_length` when its length field exceeds the bytes left. -/
def sshbuf_get_string (b : Bytes) : Except SshErr (Bytes × Bytes) := do
  let (len, rest) ← sshbuf_get_u32 b
  if rest.length < len then .error .badLength else .ok (rest.take len, rest.drop len)

/-- Modelled from the spec: `sshbuf_skip_string`, whose source is not in the repository's
files: `sshbuf_get_string` with the string dropped. -/
def sshbuf_skip_string (b : Bytes) : Except SshErr Bytes :=
  (·.2) <$> sshbuf_get_string b

/-- Well-formed UTF-8 (the byte ranges of Unicode Table 3-7). -/
def utf8Valid : Bytes → Bool
  | [] => true
  | b :: bs =>
    if b < 0x80 then utf8Valid bs else
    match bs with
    | c1 :: bs1 =>
      if 0xC2 ≤ b && b ≤ 0xDF then (0x80 ≤ c1 && c1 ≤ 0xBF) && utf8Valid bs1 else
      match bs1 with
      | c2 :: bs2 =>
        if 0xE0 ≤ b && b ≤ 0xEF then
          (if b = 0xE0 then 0xA0 ≤ c1 && c1 ≤ 0xBF
           else if b = 0xED then 0x80 ≤ c1 && c1 ≤ 0x9F
           else 0x80 ≤ c1 && c1 ≤ 0xBF) &&
          (0x80 ≤ c2 && c2 ≤ 0xBF) && utf8Valid bs2 else
        match bs2 with
        | c3 :: bs3 =>
          if 0xF0 ≤ b && b ≤ 0xF4 then
            (if b = 0xF0 then 0x90 ≤ c1 && c1 ≤ 0xBF
             else if b = 0xF4 then 0x80 ≤ c1 && c1 ≤ 0x8F
             else 0x80 ≤ c1 && c1 ≤ 0xBF) &&
            (0x80 ≤ c2 && c2 ≤ 0xBF) && (0x80 ≤ c3 && c3 ≤ 0xBF) && utf8Valid bs3
          else false
        | [] => false
      | [] => false
    | [] => false

/-- The bytes `sshbuf_get_cstring` accepts as a C string. -/
def CstringOk (s : Bytes) : Prop := (0 : UInt8) ∉ s ∧ utf8Valid s = true

instance (s : Bytes) : Decidable (CstringOk s) := inferInstanceAs (Decidable (_ ∧ _))

/-- Modelled from the spec: `sshbuf_get_cstring`, whose source is not in the
repository's files. §4.1: a `string` whose bytes must be valid UTF-8 without an
embedded `NUL`; the second component is the length the `lenp` argument receives. -/
def sshbuf_get_cstring (b : Bytes) : Except SshErr (Bytes × Bytes) := do
  let (s, rest) ← sshbuf_get_string b
  if CstringOk s then .ok (s, rest) else .error .badString

section Lemmas

variable {b rest s : Bytes} {n : Nat} {x : UInt8}

theorem bind_eq_ok {ε α β : Type} {x : Except ε α} {f : α → Except ε β} {y : β} :
    x >>= f = .ok y ↔ ∃ a, x = .ok a ∧ f a = .ok y := by
  cases x <;> simp [bind, Except.bind]

theorem bind_eq_error {ε α β : Type} {x : Except ε α} {f : α → Except ε β} {e : ε} :
    x >>= f = .error e ↔ x = .error e ∨ ∃ a, x = .ok a ∧ f a = .error e := by
  cases x <;> simp [bind, Except.bind]

@[simp] theorem toNat_ofNat_mod (n : Nat) : (UInt8.ofNat n).toNat = n % 256 := by
  simp [UInt8.ofNat, UInt8.toNat, Fin.ofNat]

@[simp] theorem put_u32_length (n : Nat) : (put_u32 n).length = 4 := rfl

theorem be32_lt (a b c d : UInt8) : be32 a b c d < 2 ^ 32 := by
  have := a.toNat_lt_size; have := b.toNat_lt_size
  have := c.toNat_lt_size; have := d.toNat_lt_size
  simp only [be32, UInt8.size] at *
  omega

theorem be32_put_u32 (h : n < 2 ^ 32) :
    be32 (UInt8.ofNat (n / 2 ^ 24)) (UInt8.ofNat (n / 2 ^ 16)) (UInt8.ofNat (n / 2 ^ 8))
      (UInt8.ofNat n) = n := by
  simp only [be32, toNat_ofNat_mod]
  omega

/-- Four bytes are the encoding of the value they decode to. -/
theorem put_u32_be32 (a b c d : UInt8) : put_u32 (be32 a b c d) = [a, b, c, d] := by
  have := a.toNat_lt_size; have := b.toNat_lt_size
  have := c.toNat_lt_size; have := d.toNat_lt_size
  simp only [put_u32, be32, UInt8.size, List.cons.injEq, and_true] at *
  refine ⟨?_, ?_, ?_, ?_⟩ <;> apply UInt8.toNat.inj <;> simp only [toNat_ofNat_mod] <;> omega

@[simp] theorem sshbuf_get_u8_cons : sshbuf_get_u8 (x :: b) = .ok (x, b) := rfl

theorem sshbuf_get_u8_ok_iff : sshbuf_get_u8 b = .ok (x, rest) ↔ b = x :: rest := by
  cases b <;> simp [sshbuf_get_u8, eq_comm]

theorem sshbuf_get_u32_put (h : n < 2 ^ 32) : sshbuf_get_u32 (put_u32 n ++ b) = .ok (n, b) :=
  congrArg (fun v => Except.ok (v, b)) (be32_put_u32 h)

theorem sshbuf_get_u32_ok_iff :
    sshbuf_get_u32 b = .ok (n, rest) ↔ b = put_u32 n ++ rest ∧ n < 2 ^ 32 := by
  constructor
  · intro h
    match b, h with
    | a :: c :: d :: e :: tl, h =>
      obtain ⟨rfl, rfl⟩ : be32 a c d e = n ∧ tl = rest := by simpa [sshbuf_get_u32] using h
      exact ⟨by simp [put_u32_be32], be32_lt a c d e⟩
  · rintro ⟨rfl, hn⟩; exact sshbuf_get_u32_put hn

@[simp] theorem sshString_length (s : Bytes) : (sshString s).length = s.length + 4 := by
  simp [sshString, Nat.add_comm]

/-- Reading a `string` back gives the bytes written and leaves what followed them. -/
theorem sshbuf_get_string_sshString (h : s.length < 2 ^ 32) :
    sshbuf_get_string (sshString s ++ b) = .ok (s, b) := by
  simp [sshbuf_get_string, sshString, sshbuf_get_u32_put h, bind, Except.bind]

/-- A successful `string` read consumed exactly an encoded string. -/
theorem sshbuf_get_string_eq_ok (h : sshbuf_get_string b = .ok (s, rest)) :
    b = sshString s ++ rest ∧ s.length < 2 ^ 32 := by
  match b, h with
  | a :: c :: d :: e :: tl, h =>
    simp only [sshbuf_get_string, sshbuf_get_u32, bind, Except.bind] at h
    split at h
    · cases h
    · obtain ⟨rfl, rfl⟩ : tl.take (be32 a c d e) = s ∧ tl.drop (be32 a c d e) = rest := by
        simpa using h
      have hlen : (tl.take (be32 a c d e)).length = be32 a c d e := by simp; omega
      exact ⟨by simp [sshString, hlen, put_u32_be32], by rw [hlen]; exact be32_lt a c d e⟩

theorem sshbuf_get_string_ok_iff :
    sshbuf_get_string b = .ok (s, rest) ↔ b = sshString s ++ rest ∧ s.length < 2 ^ 32 :=
  ⟨sshbuf_get_string_eq_ok, fun ⟨hb, hs⟩ => hb ▸ sshbuf_get_string_sshString hs⟩

theorem sshbuf_skip_string_ok_iff :
    sshbuf_skip_string b = .ok rest ↔ ∃ s, b = sshString s ++ rest ∧ s.length < 2 ^ 32 := by
  unfold sshbuf_skip_string
  cases h : sshbuf_get_string b with
  | error e =>
    simp only [Functor.map, Except.map, reduceCtorEq, false_iff, not_exists, not_and]
    intro s hb hs
    rw [hb, sshbuf_get_string_sshString hs] at h
    cases h
  | ok p =>
    obtain ⟨hb, hs⟩ := sshbuf_get_string_eq_ok h
    simp only [Functor.map, Except.map, Except.ok.injEq]
    constructor
    · rintro rfl; exact ⟨p.1, hb, hs⟩
    · rintro ⟨s', hb', hs'⟩
      rw [hb', sshbuf_get_string_sshString hs'] at h
      cases h; rfl

theorem sshbuf_skip_string_sshString (h : s.length < 2 ^ 32) :
    sshbuf_skip_string (sshString s ++ b) = .ok b := by
  simp [sshbuf_skip_string, sshbuf_get_string_sshString h, Functor.map, Except.map]

theorem sshbuf_get_cstring_ok_iff' :
    sshbuf_get_cstring b = .ok (s, rest) ↔ sshbuf_get_string b = .ok (s, rest) ∧ CstringOk s := by
  unfold sshbuf_get_cstring
  cases sshbuf_get_string b with
  | error e => simp [bind, Except.bind]
  | ok p => by_cases hc : CstringOk p.1 <;> simp [bind, Except.bind, hc] <;> aesop

theorem sshbuf_get_cstring_ok_iff :
    sshbuf_get_cstring b = .ok (s, rest) ↔
      b = sshString s ++ rest ∧ s.length < 2 ^ 32 ∧ CstringOk s := by
  rw [sshbuf_get_cstring_ok_iff', sshbuf_get_string_ok_iff, and_assoc]

end Lemmas

end Libopenssh

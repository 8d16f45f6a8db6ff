import Libopenssh.Sshbuf

/-! `main` of `ssh-proxy.c` up to `event_dispatch`: the option loop, the two key files read
into `keybuf` and `known_keybuf`, and the listener. -/
namespace Libopenssh.SshProxy

/-- The `SyslogLevel` values `-d` steps through from `main`'s default. -/
inductive LogLevel where
  | verbose
  | debug1
  | debug2
  | debug3
  deriving DecidableEq

/-- The `-d` case of the option loop. -/
def LogLevel.raise : LogLevel → LogLevel
  | .verbose => .debug1
  | .debug1 => .debug2
  | .debug2 => .debug3
  | .debug3 => .debug3

/-- The fields of the global `Forward fwd` that `main` reads. -/
structure Forward where
  listen_host : Option String := none
  listen_port : Int := 0
  deriving DecidableEq

/-- What `getopt(argc, argv, "dfC:L:S:")` returns, with `optarg`; `unknown` is `'?'`. -/
inductive Opt where
  | d
  | f
  | C (optarg : String)
  | L (optarg : String)
  | S (optarg : String)
  | unknown

/-- `main`'s locals and `fwd` after the option loop. -/
structure Options where
  log_level : LogLevel := .verbose
  foreground : Bool := false
  known_hostkey_file : Option String := none
  hostkey_file : Option String := none
  fwd : Forward := {}

/-- The argument of a `%s` in a `fatal` text: a `char *` (`none` is `NULL`), or
`strerror(errno)`. -/
inductive Arg where
  | str (s : Option String)
  | strerror (errno : Nat)
  deriving DecidableEq

/-- How `main` stops before the event loop: `fatal` with its format and arguments, `exit`
(in `usage`), or undefined behaviour. -/
inductive Halt where
  | fatal (fmt : String) (args : List Arg)
  | exit (status : Nat)
  | fault
  deriving DecidableEq

/-- The option loop of `main`; `parse_forward` fills `fwd`, or fails (`none`, its 0). -/
def getoptLoop (parse_forward : String → Option Forward) : List Opt → Options → Except Halt Options
  | [], o => .ok o
  | .d :: opts, o => getoptLoop parse_forward opts { o with log_level := o.log_level.raise }
  | .f :: opts, o => getoptLoop parse_forward opts { o with foreground := true }
  | .C optarg :: opts, o =>
    getoptLoop parse_forward opts { o with known_hostkey_file := some optarg }
  | .L optarg :: opts, o =>
    match parse_forward optarg with
    | none => .error (.fatal "cannot parse: %s" [.str (some optarg)])
    | some fwd =>
      let fwd := if fwd.listen_host = none then { fwd with listen_host := some "0.0.0.0" } else fwd
      getoptLoop parse_forward opts { o with fwd }
  | .S optarg :: opts, o => getoptLoop parse_forward opts { o with hostkey_file := some optarg }
  | .unknown :: _, _ => .error (.exit 1)

/-! ### The key buffers -/

/-- `#define BUFSZ 16*1024`. -/
def BUFSZ : Nat := 16 * 1024

/-- `char keybuf[BUFSZ]`, and likewise `known_keybuf`. -/
structure KeyBuf where
  bytes : Bytes
  size : bytes.length = BUFSZ

/-- Static storage starts zeroed. -/
def KeyBuf.zero : KeyBuf := ⟨List.replicate BUFSZ 0, List.length_replicate _ _⟩

/-- `read(fd, buf, sizeof(buf))` on a regular file from its start: the count read, and the
buffer with that many of the file's first bytes at its front. -/
def KeyBuf.read (buf : KeyBuf) (file : Bytes) : Nat × KeyBuf :=
  ((file.take BUFSZ).length,
    ⟨file.take BUFSZ ++ buf.bytes.drop (file.take BUFSZ).length, by
      simp only [List.length_append, List.length_take, List.length_drop, buf.size]; omega⟩)

/-- `buf[i] = c`; a store past the end of the array is undefined (`none`). -/
def KeyBuf.store (buf : KeyBuf) (i : Nat) (c : UInt8) : Option KeyBuf :=
  if i < BUFSZ then some ⟨buf.bytes.set i c, by rw [List.length_set, buf.size]⟩ else none

/-- The C string at the start of the array, as `ssh_add_hostkey` reads it: the bytes
before the first NUL, or `none` when the array holds no NUL and the read runs past it. -/
def KeyBuf.cstr (buf : KeyBuf) : Option Bytes :=
  if 0 ∈ buf.bytes then some (buf.bytes.takeWhile (· != 0)) else none

/-- The key files as `main` finds them: `open(path, O_RDONLY)` fails with an `errno`, and
a file holds its bytes or fails to read with an `errno`. -/
structure Fs where
  open_errno : String → Option Nat
  contents : String → Except Nat Bytes

/-- One key block of `main`: open `file`, read it into `buf`, store the terminator at
`buf[len]`. Its `fatal` texts print `name`. -/
def loadKey (fs : Fs) (file name : Option String) (readFmt : String) (buf : KeyBuf) :
    Except Halt KeyBuf :=
  match file with
  | none => .ok buf
  | some path =>
    match fs.open_errno path with
    | some e => .error (.fatal "open: %s %s" [.str name, .strerror e])
    | none =>
      match fs.contents path with
      | .error e => .error (.fatal readFmt [.str name, .strerror e])
      | .ok bytes =>
        let (len, buf) := buf.read bytes
        match buf.store len 0 with
        | none => .error .fault
        | some buf => .ok buf

/-- The `hostkey_file` block, into `keybuf`. -/
def loadHostkey (fs : Fs) (o : Options) : Except Halt KeyBuf :=
  loadKey fs o.hostkey_file o.hostkey_file "read: %s %s" KeyBuf.zero

/-- The `known_hostkey_file` block, into `known_keybuf`: its `fatal` texts print
`hostkey_file`. -/
def loadKnownHostkey (fs : Fs) (o : Options) : Except Halt KeyBuf :=
  loadKey fs o.known_hostkey_file o.hostkey_file "kh: read: %s %s" KeyBuf.zero

/-- What `main` hands the event loop: its options, the two key buffers `connect_cb`
passes to `ssh_add_hostkey`, and the listening socket. -/
structure Started where
  opts : Options
  keybuf : KeyBuf
  known_keybuf : KeyBuf
  listener : Int

/-- `main` up to `event_dispatch`; `do_listen` gives a socket, or a negative value. -/
def main (parse_forward : String → Option Forward) (fs : Fs)
    (do_listen : Option String → Int → Int) (opts : List Opt) : Except Halt Started := do
  let o ← getoptLoop parse_forward opts {}
  let keybuf ← loadHostkey fs o
  let known_keybuf ← loadKnownHostkey fs o
  let fd := do_listen o.fwd.listen_host o.fwd.listen_port
  if fd < 0 then throw (.fatal " do_listen failed" [])
  pure ⟨o, keybuf, known_keybuf, fd⟩

section Lemmas

variable {buf b : KeyBuf} {file s r bytes : Bytes} {i : Nat} {c : UInt8} {fs : Fs}
  {path : String} {name : Option String} {fmt : String}

@[simp] theorem KeyBuf.read_fst : (buf.read file).1 = min BUFSZ file.length :=
  List.length_take ..

theorem KeyBuf.read_bytes (h : file.length ≤ BUFSZ) :
    (buf.read file).2.bytes = file ++ buf.bytes.drop file.length := by
  simp [KeyBuf.read, List.take_of_length_le h]

@[simp] theorem KeyBuf.store_eq_none : buf.store i c = none ↔ BUFSZ ≤ i := by
  unfold KeyBuf.store; split <;> simp <;> omega

theorem KeyBuf.store_bytes (h : buf.store i c = some b) : b.bytes = buf.bytes.set i c := by
  unfold KeyBuf.store at h; split at h <;> cases h; rfl

theorem takeWhile_append_nul (s r : Bytes) :
    (s ++ 0 :: r).takeWhile (· != 0) = s.takeWhile (· != 0) := by
  induction s with
  | nil => simp
  | cons x s ih => by_cases hx : x = 0 <;> simp [List.takeWhile_cons, hx, ih]

theorem KeyBuf.cstr_eq (h : buf.bytes = s ++ 0 :: r) : buf.cstr = some (s.takeWhile (· != 0)) := by
  simp [KeyBuf.cstr, h, takeWhile_append_nul]

/-- The terminator store of a key block lands at `buf[len]`: inside the array exactly when
the file is shorter than the array, and then the file's bytes, a NUL and the rest of the
old array follow each other. -/
theorem loadKey_some (ho : fs.open_errno path = none) (hc : fs.contents path = .ok bytes) :
    (loadKey fs (some path) name fmt buf = .error .fault ↔ BUFSZ ≤ bytes.length) ∧
    ∀ b, loadKey fs (some path) name fmt buf = .ok b →
      b.bytes = bytes ++ 0 :: buf.bytes.drop (bytes.length + 1) := by
  simp only [loadKey, ho, hc]
  split
  · rename_i hs
    simp only [KeyBuf.read_fst, KeyBuf.store_eq_none] at hs
    simp only [true_iff, reduceCtorEq, false_implies, implies_true, and_true]
    omega
  · rename_i b' hs
    have hl : bytes.length < BUFSZ := by
      by_contra hl
      simp [KeyBuf.store, show min BUFSZ bytes.length = BUFSZ by omega] at hs
    refine ⟨by simp only [reduceCtorEq, false_iff]; omega, fun b hb => ?_⟩
    cases hb
    rw [KeyBuf.store_bytes hs, KeyBuf.read_fst, Nat.min_eq_right hl.le, KeyBuf.read_bytes hl.le,
      List.set_append_right _ _ le_rfl, Nat.sub_self,
      List.drop_eq_getElem_cons (by rw [buf.size]; exact hl), List.set_cons_zero]

theorem loadKey_cstr (ho : fs.open_errno path = none) (hc : fs.contents path = .ok bytes) :
    (loadKey fs (some path) name fmt buf = .error .fault ↔ BUFSZ ≤ bytes.length) ∧
    ∀ b, loadKey fs (some path) name fmt buf = .ok b → b.cstr = some (bytes.takeWhile (· != 0)) :=
  ⟨(loadKey_some ho hc).1, fun b hb => KeyBuf.cstr_eq ((loadKey_some ho hc).2 b hb)⟩

theorem loadKey_cstr_isSome {file : Option String} (h : loadKey fs file name fmt KeyBuf.zero = .ok b) :
    b.cstr.isSome := by
  cases file with
  | none =>
    cases h
    have : BUFSZ ≠ 0 := by decide
    simp [KeyBuf.cstr, KeyBuf.zero, this]
  | some path =>
    cases ho : fs.open_errno path with
    | some e => simp [loadKey, ho] at h
    | none =>
      cases hc : fs.contents path with
      | error e => simp [loadKey, ho, hc] at h
      | ok bytes => simp [(loadKey_cstr ho hc).2 b h]

/-- Each `fatal` of a key block prints `name` as the file: for the `known_hostkey_file`
block that is `hostkey_file`, so with `-C` alone its texts print `NULL`. -/
theorem loadKey_fatal_names {file : Option String} {f : String} {args : List Arg}
    (h : loadKey fs file name fmt buf = .error (.fatal f args)) : args.head? = some (.str name) := by
  unfold loadKey at h
  repeat' split at h
  all_goals cases h
  all_goals rfl

theorem loadKnownHostkey_fatal_names {o : Options} {f : String} {args : List Arg}
    (h : loadKnownHostkey fs o = .error (.fatal f args)) : args.head? = some (.str o.hostkey_file) :=
  loadKey_fatal_names h

theorem main_ok {pf : String → Option Forward} {dl : Option String → Int → Int} {opts : List Opt}
    {st : Started} (h : main pf fs dl opts = .ok st) :
    getoptLoop pf opts {} = .ok st.opts ∧ loadHostkey fs st.opts = .ok st.keybuf ∧
      loadKnownHostkey fs st.opts = .ok st.known_keybuf := by
  simp only [main, bind_eq_ok] at h
  obtain ⟨o, ho, kb, hk, kkb, hkk, h⟩ := h
  split at h
  · cases h
  · cases h; exact ⟨ho, hk, hkk⟩

theorem main_of_loadHostkey {pf : String → Option Forward} {dl : Option String → Int → Int}
    {opts : List Opt} {o : Options} {e : Halt} (ho : getoptLoop pf opts {} = .ok o)
    (h : loadHostkey fs o = .error e) : main pf fs dl opts = .error e := by
  simp [main, ho, h, bind, Except.bind]

end Lemmas

/-- `main` reads at most `BUFSZ` bytes of each key file and then stores the terminator at
`buf[len]`: past the end of the array exactly when the file has `BUFSZ` bytes or more.
Otherwise `ssh_add_hostkey` gets the file's bytes up to its first NUL, and every run of
`main` that reaches the event loop leaves a C string in each array. -/
theorem key_terminator_in_bounds (fs : Fs) (o : Options) (path : String) (bytes : Bytes)
    (ho : fs.open_errno path = none) (hc : fs.contents path = .ok bytes) :
    (o.hostkey_file = some path →
      (loadHostkey fs o = .error .fault ↔ BUFSZ ≤ bytes.length) ∧
      ∀ b, loadHostkey fs o = .ok b → b.cstr = some (bytes.takeWhile (· != 0))) ∧
    (o.known_hostkey_file = some path →
      (loadKnownHostkey fs o = .error .fault ↔ BUFSZ ≤ bytes.length) ∧
      ∀ b, loadKnownHostkey fs o = .ok b → b.cstr = some (bytes.takeWhile (· != 0))) ∧
    ∀ pf dl opts (st : Started), main pf fs dl opts = .ok st →
      st.keybuf.cstr.isSome ∧ st.known_keybuf.cstr.isSome := by
  refine ⟨fun h => ?_, fun h => ?_, fun pf dl opts st h => ?_⟩
  · rw [loadHostkey, h]; exact loadKey_cstr ho hc
  · rw [loadKnownHostkey, h]; exact loadKey_cstr ho hc
  · obtain ⟨-, hk, hkk⟩ := main_ok h
    exact ⟨loadKey_cstr_isSome hk, loadKey_cstr_isSome hkk⟩

theorem key_terminator_in_bounds_example :
    main (fun _ => none) ⟨fun _ => none, fun _ => .ok (List.replicate BUFSZ 0x41)⟩
      (fun _ _ => 3) [.S "key"] = .error .fault :=
  main_of_loadHostkey rfl
    (((key_terminator_in_bounds _ { hostkey_file := some "key" } "key" _ rfl rfl).1 rfl).1.2
      (by simp))

end Libopenssh.SshProxy

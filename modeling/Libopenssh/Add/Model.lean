import Libopenssh.Sshbuf

/-! `ssh-add.c`: `main` with its options, `add_file` with its one-passphrase cache,
`update_card` and `lock_agent`, with the agent and the key library abstracted and the
calls made on passphrase strings recorded in order. -/
namespace Libopenssh.SshAdd

/-- The prompt `read_passphrase` shows. -/
inductive Prompt where
  /-- `"Enter passphrase for %.200s: "` with the key's comment. -/
  | enter (comment : Bytes)
  /-- `"Bad passphrase, try again for %.200s: "`. -/
  | retry (comment : Bytes)
  /-- `"Enter passphrase for PKCS#11: "`. -/
  | pkcs11
  /-- `"Enter lock password: "`. -/
  | lock
  /-- `"Again: "`. -/
  | again
  deriving DecidableEq

/-- A call on a passphrase string. A string is named by the number of the
`read_passphrase` call that returned it. -/
inductive Ev where
  | read (id : Nat) (prompt : Prompt)
  /-- `memset(s, 0, strlen(s))`. -/
  | zero (id : Nat)
  | free (id : Nat)
  /-- `pass = read_passphrase(...)` while `pass` still points at the string. -/
  | replace (id : Nat)
  deriving DecidableEq

def Ev.id : Ev → Nat
  | .read id _ | .zero id | .free id | .replace id => id

/-- What `sshkey_parse_private` returns, as `add_file` tells its results apart. -/
inductive Parsed where
  | ok
  /-- `SSH_ERR_KEY_WRONG_PASSPHRASE`. -/
  | wrongPassphrase
  | error
  deriving DecidableEq

/-- What `ssh_get_authentication_socket` returns. -/
inductive AgentConn where
  | ok
  /-- `SSH_ERR_AGENT_NOT_PRESENT`. -/
  | notPresent
  | error
  deriving DecidableEq

/-- The answers of the user, the system, the agent and the key library. -/
structure Env where
  /-- The string the `n`th `read_passphrase` returns; `NULL` is `none`. -/
  answer : Nat → Option CStr
  agent : AgentConn
  /-- `open` (standard input for `"-"`), `sshkey_perm_ok` and `sshkey_load_file`: the key
  blob, or `none` when one of them fails. -/
  load_file : String → Option Bytes
  /-- `sshkey_parse_private(keyblob, passphrase, ...)`. -/
  parse_private : Bytes → Bytes → Parsed
  /-- The comment the first `sshkey_parse_private` stores; `NULL` is `none`. -/
  parse_comment : Bytes → Option Bytes
  /-- `ssh_add_identity_constrained(agent_fd, private, comment, lifetime, confirm) == 0`. -/
  add_identity : Bytes → Int → Bool → Bool
  /-- `delete_file(agent_fd, filename, key_only)`, or `none` for its `fatal`. -/
  delete_file : String → Bool → Option Int
  delete_all : Int
  /-- `list_identities(agent_fd, do_fp)`. -/
  list_identities : Bool → Int
  /-- `ssh_update_card(agent_fd, add, id, pin, lifetime, confirm) == 0`. -/
  update_card : Bool → String → Bytes → Int → Bool → Bool
  /-- `ssh_lock_agent(agent_fd, lock, password) == 0`; `NULL` is `none`. -/
  lock_agent : Bool → Option Bytes → Bool
  convtime : String → Int
  /-- `getpwuid(getuid())->pw_dir`; a `NULL` entry is `none`. -/
  pw_dir : Option String
  /-- `stat(path, &st) == 0`. -/
  stat : String → Bool

/-- The process: the statics `pass` (`NULL` is `none`), `lifetime` and `confirm`, how many
strings `read_passphrase` has returned, and the calls on them so far. -/
structure St where
  pass : Option Nat := none
  lifetime : Int := 0
  confirm : Bool := false
  asked : Nat := 0
  trace : List Ev := []

/-- How a stretch of `ssh-add` ends, with the process at that point: returning, `exit`,
undefined behaviour, or out of fuel inside a passphrase loop. -/
inductive Res (α : Type) where
  | ok (a : α) (st : St)
  | exit (status : Nat) (st : St)
  | fault (st : St)
  | running (st : St)

def Res.state {α : Type} : Res α → St
  | .ok _ st | .exit _ st | .fault st | .running st => st

/-- A stretch of `ssh-add`. -/
def Sa (α : Type) : Type := St → Res α

instance : Monad Sa where
  pure a st := .ok a st
  bind m f st :=
    match m st with
    | .ok a st => f a st
    | .exit n st => .exit n st
    | .fault st => .fault st
    | .running st => .running st

namespace Sa

def exit {α : Type} (status : Nat) : Sa α := fun st => .exit status st

def fault {α : Type} : Sa α := fun st => .fault st

def emit (e : Ev) : Sa Unit := fun st => .ok () { st with trace := st.trace ++ [e] }

def getPass : Sa (Option Nat) := fun st => .ok st.pass st

def setPass (v : Option Nat) : Sa Unit := fun st => .ok () { st with pass := v }

def statics : Sa (Int × Bool) := fun st => .ok (st.lifetime, st.confirm) st

def setLifetime (v : Int) : Sa Unit := fun st => .ok () { st with lifetime := v }

def setConfirm : Sa Unit := fun st => .ok () { st with confirm := true }

end Sa

/-! Running a stretch: how each primitive passes the process to what follows it. -/

section Run

variable {α β : Type} {st : St} {f : α → Sa β}

theorem bind_apply (m : Sa α) (f : α → Sa β) (st : St) :
    (m >>= f) st = match m st with
      | .ok a st' => f a st' | .exit n st' => .exit n st' | .fault st' => .fault st'
      | .running st' => .running st' := rfl

@[simp] theorem pure_apply (a : α) : (pure a : Sa α) st = .ok a st := rfl

@[simp] theorem pure_bind (a : α) : (pure a >>= f) = f a := rfl

@[simp] theorem exit_bind (n : Nat) : (Sa.exit n >>= f) st = .exit n st := rfl

@[simp] theorem fault_bind : (Sa.fault >>= f) st = .fault st := rfl

@[simp] theorem emit_bind (e : Ev) (f : Unit → Sa β) :
    (Sa.emit e >>= f) st = f () { st with trace := st.trace ++ [e] } := rfl

@[simp] theorem getPass_bind (f : Option Nat → Sa β) : (Sa.getPass >>= f) st = f st.pass st := rfl

@[simp] theorem setPass_bind (v : Option Nat) (f : Unit → Sa β) :
    (Sa.setPass v >>= f) st = f () { st with pass := v } := rfl

@[simp] theorem statics_bind (f : Int × Bool → Sa β) :
    (Sa.statics >>= f) st = f (st.lifetime, st.confirm) st := rfl

@[simp] theorem Res.state_ok (a : α) (st : St) : (Res.ok a st).state = st := rfl

@[simp] theorem Res.state_exit (n : Nat) (st : St) : (Res.exit n st : Res α).state = st := rfl

@[simp] theorem Res.state_fault (st : St) : (Res.fault st : Res α).state = st := rfl

@[simp] theorem Res.state_running (st : St) : (Res.running st : Res α).state = st := rfl

end Run

/-- `read_passphrase(prompt, RP_ALLOW_STDIN)`: the name of the string it returns. -/
def read_passphrase (prompt : Prompt) : Sa Nat := fun st =>
  .ok st.asked { st with asked := st.asked + 1, trace := st.trace ++ [.read st.asked prompt] }

/-- The string a pointer holds; `strlen` or `strcmp` of `NULL` is undefined. -/
def str (E : Env) (id : Nat) : Sa CStr :=
  match E.answer id with
  | some s => pure s
  | none => Sa.fault

/-- `memset(s, 0, strlen(s))`. -/
def zero (E : Env) (id : Nat) : Sa Unit := do
  let _ ← str E id
  Sa.emit (.zero id)

def free (id : Nat) : Sa Unit := Sa.emit (.free id)

def clear_pass (E : Env) : Sa Unit := do
  match ← Sa.getPass with
  | none => pure ()
  | some id =>
    zero E id
    free id
    Sa.setPass none

/-- `pass = read_passphrase(msg, RP_ALLOW_STDIN)`. -/
def readPass (E : Env) (prompt : Prompt) : Sa Nat := do
  let id ← read_passphrase prompt
  match ← Sa.getPass with
  | some old => Sa.emit (.replace old)
  | none => pure ()
  Sa.setPass ((E.answer id).map fun _ => id)
  pure id

/-! ### `add_file` -/

/-- `fail_load:`. -/
def fail_load (E : Env) : Sa Int := do
  clear_pass E
  pure (-1)

/-- The rest of `add_file` once the key is decoded. The certificate it then tries changes
neither the result nor a passphrase. -/
def addDecoded (E : Env) (keyblob : Bytes) : Sa Int := do
  let (lifetime, confirm) ← Sa.statics
  pure (if E.add_identity keyblob lifetime confirm then 0 else -1)

/-- `if (private == NULL && pass != NULL)`: try the cached passphrase. `none` is
`goto fail_load`, `some b` whether a key was decoded. -/
def tryLast (E : Env) (keyblob : Bytes) : Sa (Option Bool) := do
  match ← Sa.getPass with
  | none => pure (some false)
  | some id =>
    let pass ← str E id
    match E.parse_private keyblob pass.bytes with
    | .ok => pure (some true)
    | .wrongPassphrase => pure (some false)
    | .error => pure none

/-- The `for (;;)` loop: `true` is its `break`, `false` its `goto fail_load`. Each turn
spends one unit of fuel. -/
def passLoop (E : Env) (keyblob comment : Bytes) : Nat → Prompt → Sa Bool
  | 0, _ => fun st => .running st
  | fuel + 1, prompt => do
    let id ← readPass E prompt
    let pass ← str E id
    if pass.bytes = [] then pure false else
    match E.parse_private keyblob pass.bytes with
    | .ok => pure true
    | .error => pure false
    | .wrongPassphrase =>
      clear_pass E
      passLoop E keyblob comment fuel (.retry (comment.take 200))

def add_file (E : Env) (fuel : Nat) (filename : String) : Sa Int :=
  match E.load_file filename with
  | none => pure (-1)
  | some keyblob =>
    match E.parse_private keyblob [] with
    | .error => fail_load E
    | first => do
      let name := if filename = "-" then "(stdin)" else filename
      let comment := (E.parse_comment keyblob).getD name.toUTF8.data.toList
      match ← if first = .ok then pure (some true) else tryLast E keyblob with
      | none => fail_load E
      | some true => addDecoded E keyblob
      | some false =>
        clear_pass E
        if ← passLoop E keyblob comment fuel (.enter (comment.take 200)) then
          addDecoded E keyblob
        else fail_load E

/-! ### The other prompts -/

def update_card (E : Env) (add : Bool) (id : String) : Sa Int := do
  let pin ← read_passphrase .pkcs11
  match E.answer pin with
  | none => pure (-1)
  | some s =>
    let (lifetime, confirm) ← Sa.statics
    let ret : Int := if E.update_card add id s.bytes lifetime confirm then 0 else -1
    free pin
    pure ret

def lock_agent (E : Env) (lock : Bool) : Sa Int := do
  let p1 ← read_passphrase .lock
  let passok ← if lock then do
      let p2 ← read_passphrase .again
      let s1 ← str E p1
      let s2 ← str E p2
      zero E p2
      free p2
      pure (decide (s1.bytes = s2.bytes))
    else pure true
  let ret : Int := if passok && E.lock_agent lock ((E.answer p1).map CStr.bytes) then 0 else -1
  zero E p1
  free p1
  pure ret

/-! ### `main` -/

def do_file (E : Env) (fuel : Nat) (deleting key_only : Bool) (file : String) : Sa Int :=
  if deleting then
    match E.delete_file file key_only with
    | none => Sa.exit 255
    | some r => pure (if r = -1 then -1 else 0)
  else do
    let r ← add_file E fuel file
    pure (if r = -1 then -1 else 0)

/-- `_PATH_SSH_CLIENT_ID_RSA`, `_PATH_SSH_CLIENT_ID_DSA`, `_PATH_SSH_CLIENT_ID_ECDSA` and
`_PATH_SSH_CLIENT_IDENTITY`, under the home directory. -/
def default_files : List String := [".ssh/id_rsa", ".ssh/id_dsa", ".ssh/id_ecdsa", ".ssh/identity"]

/-- What `getopt(argc, argv, "klLcdDxXe:s:t:")` returns, with `optarg`; `unknown` is `'?'`. -/
inductive Opt where
  | k
  | l
  | L
  | c
  | d
  | D
  | x
  | X
  | e (optarg : String)
  | s (optarg : String)
  | t (optarg : String)
  | unknown

/-- `main`'s locals that the option loop sets. -/
structure Flags where
  pkcs11provider : Option String := none
  deleting : Bool := false
  key_only : Bool := false

/-- The option loop: `.inl` leaves it with the flags, `.inr ret` is `goto done`. -/
def getoptLoop (E : Env) : List Opt → Flags → Sa (Flags ⊕ Int)
  | [], fl => pure (.inl fl)
  | .k :: opts, fl => getoptLoop E opts { fl with key_only := true }
  | .l :: _, _ => pure (.inr (if E.list_identities true = -1 then 1 else 0))
  | .L :: _, _ => pure (.inr (if E.list_identities false = -1 then 1 else 0))
  | .x :: _, _ => do
    let r ← lock_agent E true
    pure (.inr (if r = -1 then 1 else 0))
  | .X :: _, _ => do
    let r ← lock_agent E false
    pure (.inr (if r = -1 then 1 else 0))
  | .c :: opts, fl => do
    Sa.setConfirm
    getoptLoop E opts fl
  | .d :: opts, fl => getoptLoop E opts { fl with deleting := true }
  | .D :: _, _ => pure (.inr (if E.delete_all = -1 then 1 else 0))
  | .s optarg :: opts, fl => getoptLoop E opts { fl with pkcs11provider := some optarg }
  | .e optarg :: opts, fl =>
    getoptLoop E opts { fl with deleting := true, pkcs11provider := some optarg }
  | .t optarg :: opts, fl => do
    Sa.setLifetime (E.convtime optarg)
    if E.convtime optarg = -1 then pure (.inr 1) else getoptLoop E opts fl
  | .unknown :: _, _ => pure (.inr 1)

/-- The loop over `default_files`: `ret` and `count` after it. -/
def defaultLoop (E : Env) (fuel : Nat) (fl : Flags) (dir : String) :
    List String → Int → Nat → Sa (Int × Nat)
  | [], ret, count => pure (ret, count)
  | f :: fs, ret, count =>
    let buf := dir ++ "/" ++ f
    if E.stat buf then do
      let r ← do_file E fuel fl.deleting fl.key_only buf
      if r = -1 then defaultLoop E fuel fl dir fs 1 count
      else defaultLoop E fuel fl dir fs ret (count + 1)
    else defaultLoop E fuel fl dir fs ret count

/-- The loop over the file arguments. -/
def argLoop (E : Env) (fuel : Nat) (fl : Flags) : List String → Int → Sa Int
  | [], ret => pure ret
  | a :: args, ret => do
    let r ← do_file E fuel fl.deleting fl.key_only a
    argLoop E fuel fl args (if r = -1 then 1 else ret)

/-- `main`, returning its exit status; `fuel` bounds each passphrase loop. -/
def main (E : Env) (fuel : Nat) (opts : List Opt) (args : List String) : Sa Int :=
  match E.agent with
  | .notPresent | .error => Sa.exit 2
  | .ok => do
    match ← getoptLoop E opts {} with
    | .inr ret => pure ret
    | .inl fl =>
      match fl.pkcs11provider with
      | some p => do
        let r ← update_card E (!fl.deleting) p
        pure (if r = -1 then 1 else 0)
      | none =>
        if args = [] then
          match E.pw_dir with
          | none => pure 1
          | some dir => do
            let (ret, count) ← defaultLoop E fuel fl dir default_files 0 0
            clear_pass E
            pure (if count = 0 then 1 else ret)
        else do
          let ret ← argLoop E fuel fl args 0
          clear_pass E
          pure ret

end Libopenssh.SshAdd

import Libopenssh.Add.Model

/-! `ssh-add.c`'s agent requests that read no passphrase: `delete_file`, `delete_all` and
`list_identities`, with the agent and the key library abstracted. -/
namespace Libopenssh.SshAdd

inductive FetchErr where
  /-- `SSH_ERR_AGENT_NO_IDENTITIES`. -/
  | noIdentities
  | other (r : SshErr)

/-- The answers of the agent and the key library to these requests. -/
structure AgentEnv (Key : Type) where
  /-- `sshkey_load_public(path, &key, &comment)`: the key, or the error code. -/
  load_public : String → Except SshErr Key
  /-- `sshkey_equal_public` of two keys. -/
  equal_public : Key → Key → Bool
  /-- `ssh_remove_identity(agent_fd, key)`. -/
  remove_identity : Key → Int
  /-- `ssh_remove_all_identities(agent_fd, version)`. -/
  remove_all_identities : Nat → Int
  /-- `ssh_fetch_identitylist(agent_fd, version, &idlist)`: the keys with their comments, or
  the error code. -/
  fetch_identitylist : Nat → Except FetchErr (List (Key × String))
  /-- `sshkey_write(key, stdout)`. -/
  write : Key → Int

variable {Key : Type} (A : AgentEnv Key)

/-- `sshkey_equal_public`: a `NULL` key equals no key. -/
def sshkey_equal_public : Option Key → Option Key → Bool
  | some a, some b => A.equal_public a b
  | _, _ => false

/-- What `delete_file` did: the keys it asked the agent to remove, in order, and its return
value, or the message of its `fatal`. -/
structure Deleted (Key : Type) where
  removed : List Key
  result : Except String Int

def delete_file (filename : String) (key_only : Bool) : Deleted Key :=
  match A.load_public filename with
  | .error _ => ⟨[], .ok (-1)⟩
  | .ok public =>
    let ret : Int := if A.remove_identity public = 0 then 0 else -1
    if key_only then ⟨[public], .ok ret⟩ else
    let certpath := filename ++ "-cert.pub"
    match A.load_public certpath with
    | .ok _ => ⟨[public], .ok ret⟩
    | .error _ =>
      -- `cert` starts `NULL`, and a load that fails leaves it so
      let cert : Option Key := none
      if !sshkey_equal_public A cert (some public) then
        ⟨[public],
          .error ("Certificate " ++ certpath ++ " does not match private key " ++ filename)⟩
      else
        match cert with
        | some c => ⟨[public, c], .ok (if A.remove_identity c ≠ 0 then 0 else ret)⟩
        | none => ⟨[public], .ok ret⟩

def Deleted.status (d : Deleted Key) : Option Int := d.result.toOption

def delete_all : Int :=
  let ret : Int := if A.remove_all_identities 1 = 0 then 0 else -1
  -- `ssh_remove_all_identities(agent_fd, 2)`'s result is ignored
  ret

/-- A line `list_identities` prints. -/
inductive Listed (Key : Type) where
  /-- `"error fetching identities for protocol %d: %s\n"` on standard error. -/
  | fetchError (version : Nat) (r : SshErr)
  /-- `"%d %s %s (%s)\n"`: size, fingerprint, comment and type. -/
  | fingerprint (key : Key) (comment : String)
  /-- `sshkey_write` then `" %s\n"` with the comment. -/
  | written (key : Key) (comment : String)
  /-- `"sshkey_write: %s\n"` on standard error. -/
  | writeError (r : Int)
  /-- `"The agent has no identities.\n"`. -/
  | noIdentities

/-- The inner loop over `idlist->keys`: each key sets `had_identities` and is printed; a key
`sshkey_write` fails on is reported and skipped (`continue`). -/
def listKeys (do_fp : Bool) :
    List (Key × String) → Bool → List (Listed Key) → Bool × List (Listed Key)
  | [], had, out => (had, out)
  | (k, comment) :: keys, _, out =>
    if do_fp then listKeys do_fp keys true (out ++ [.fingerprint k comment])
    else if A.write k ≠ 0 then listKeys do_fp keys true (out ++ [.writeError (A.write k)])
    else listKeys do_fp keys true (out ++ [.written k comment])

/-- The outer loop, `for (version = 1; version <= 2; version++)`. -/
def listVersions (do_fp : Bool) :
    List Nat → Bool → List (Listed Key) → Bool × List (Listed Key)
  | [], had, out => (had, out)
  | version :: vs, had, out =>
    match A.fetch_identitylist version with
    | .error .noIdentities => listVersions do_fp vs had out
    | .error (.other r) => listVersions do_fp vs had (out ++ [.fetchError version r])
    | .ok idlist =>
      let (had, out) := listKeys A do_fp idlist had out
      listVersions do_fp vs had out

def list_identities (do_fp : Bool) : Int × List (Listed Key) :=
  let (had, out) := listVersions A do_fp [1, 2] false []
  if !had then (-1, out ++ [.noIdentities]) else (0, out)

/-- An `ssh-add` whose agent requests are those of `A`, with no key to add and no answers. -/
def withAgent : Env where
  answer _ := none
  agent := .ok
  load_file _ := none
  parse_private _ _ := .error
  parse_comment _ := none
  add_identity _ _ _ := false
  delete_file f k := (delete_file A f k).status
  delete_all := delete_all A
  list_identities do_fp := (list_identities A do_fp).1
  update_card _ _ _ _ _ := false
  lock_agent _ _ := false
  convtime _ := 0
  pw_dir := none
  stat _ := false

/-! ### `ssh-add -d` -/

section Delete

variable {A}

/-- `delete_file` asks the agent to remove the key it loaded and nothing else: when
`filename-cert.pub` loads, the inverted test skips it, and when it does not, the `NULL`
certificate matches no key and the call ends in `fatal`, unless `-k` was given. -/
theorem delete_file_removes_key_only (filename : String) (key_only : Bool) :
    (delete_file A filename key_only).removed = (A.load_public filename).toOption.toList ∧
      ((delete_file A filename key_only).status = none ↔
        (A.load_public filename).isOk ∧ key_only = false ∧
          (A.load_public (filename ++ "-cert.pub")).isOk = false) := by
  unfold delete_file
  cases A.load_public filename with
  | error e => simp [Deleted.status, Except.toOption, Except.isOk, Except.toBool]
  | ok public =>
    cases key_only
    · cases h : A.load_public (filename ++ "-cert.pub") <;>
        simp [h, Deleted.status, Except.toOption, Except.isOk, Except.toBool, sshkey_equal_public]
    · simp [Deleted.status, Except.toOption, Except.isOk, Except.toBool]

/-- Deleting, the file loop leaves the process alone and stops with `exit(255)` at the first
file whose `delete_file` ends in `fatal`. -/
theorem argLoop_deleting (E : Env) (fuel : Nat) {fl : Flags} (hfl : fl.deleting = true)
    (args : List String) (ret : Int) (st : St) :
    (∃ f ∈ args, E.delete_file f fl.key_only = none) ∧
        argLoop E fuel fl args ret st = .exit 255 st ∨
      (∀ f ∈ args, E.delete_file f fl.key_only ≠ none) ∧
        ∃ r, argLoop E fuel fl args ret st = .ok r st := by
  induction args generalizing ret with
  | nil => exact .inr ⟨nofun, ret, rfl⟩
  | cons a args ih =>
    simp only [argLoop, do_file, hfl, ite_true, bind_apply]
    cases hd : E.delete_file a fl.key_only with
    | none => exact .inl ⟨⟨a, List.mem_cons_self _ _, hd⟩, rfl⟩
    | some r =>
      rcases ih (if (if r = -1 then (-1 : Int) else 0) = -1 then 1 else ret) with
        ⟨⟨f, hf, h⟩, he⟩ | ⟨hn, h⟩
      · exact .inl ⟨⟨f, List.mem_cons_of_mem _ hf, h⟩, he⟩
      · refine .inr ⟨?_, h⟩
        simp only [List.mem_cons, forall_eq_or_imp, hd]
        exact ⟨nofun, hn⟩

/-- `ssh-add -d file...` removes each key, and dies with status 255 at the first key file that
loads while its `-cert.pub` does not: for a key with no certificate, the usual case. -/
theorem main_delete_fatal_iff (E : Env) (A : AgentEnv Key) (fuel : Nat) (args : List String)
    (hE : E.agent = .ok) (hd : ∀ f k, E.delete_file f k = (delete_file A f k).status)
    (hargs : args ≠ []) :
    (∃ st, main E fuel [.d] args {} = .exit 255 st) ↔
      ∃ f ∈ args, (A.load_public f).isOk ∧
        (A.load_public (f ++ "-cert.pub")).isOk = false := by
  have hfatal : ∀ f, E.delete_file f false = none ↔
      (A.load_public f).isOk ∧ (A.load_public (f ++ "-cert.pub")).isOk = false := fun f => by
    rw [hd, (delete_file_removes_key_only f false).2]
    simp
  unfold main
  simp only [hE, getoptLoop, bind_apply, pure_apply, hargs, if_false]
  rcases @argLoop_deleting E fuel { deleting := true } rfl args 0 {} with
    ⟨⟨f, hf, h⟩, he⟩ | ⟨hn, r, he⟩
  · rw [he]
    exact ⟨fun _ => ⟨f, hf, (hfatal f).1 h⟩, fun _ => ⟨_, rfl⟩⟩
  · rw [he]
    simp only [clear_pass, getPass_bind, pure_bind, pure_apply]
    exact ⟨fun ⟨_, h⟩ => (nomatch h),
      fun ⟨f, hf, h⟩ => absurd ((hfatal f).2 h) (hn f hf)⟩

def keyOnly : AgentEnv Unit where
  load_public f := if f = "id_rsa" then .ok () else .error (.other 24)
  equal_public _ _ := true
  remove_identity _ := 0
  remove_all_identities _ := 0
  fetch_identitylist _ := .error .noIdentities
  write _ := 0

theorem main_delete_fatal_id_rsa :
    ∃ st, main (withAgent keyOnly) 0 [.d] ["id_rsa"] {} = .exit 255 st :=
  (main_delete_fatal_iff (withAgent keyOnly) keyOnly 0 ["id_rsa"] rfl (fun _ _ => rfl)
    (by simp)).2 ⟨"id_rsa", by simp, by decide⟩

end Delete

/-! ### `ssh-add -l` and `-L` -/

section List

variable {A}

def fetchedKeys (r : Except FetchErr (List (Key × String))) : Bool :=
  match r with
  | .ok keys => !keys.isEmpty
  | .error _ => false

theorem listKeys_had (do_fp : Bool) (keys : List (Key × String)) (had : Bool)
    (out : List (Listed Key)) : (listKeys A do_fp keys had out).1 = (had || !keys.isEmpty) := by
  induction keys generalizing had out with
  | nil => simp [listKeys]
  | cons kc keys ih =>
    obtain ⟨k, c⟩ := kc
    simp only [listKeys]
    split
    · simp [ih]
    · split <;> simp [ih]

theorem listVersions_had (do_fp : Bool) (vs : List Nat) (had : Bool) (out : List (Listed Key)) :
    (listVersions A do_fp vs had out).1 =
      (had || vs.any fun v => fetchedKeys (A.fetch_identitylist v)) := by
  induction vs generalizing had out with
  | nil => simp [listVersions]
  | cons v vs ih =>
    simp only [listVersions, List.any_cons]
    cases h : A.fetch_identitylist v with
    | error e => cases e <;> simp [h, ih, fetchedKeys]
    | ok keys => simp [h, ih, fetchedKeys, listKeys_had, Bool.or_assoc]

/-- `list_identities` fails exactly when neither protocol's list holds a key: a list that
cannot be fetched, or a key that cannot be written, does not make it fail. -/
theorem list_identities_fails_iff (do_fp : Bool) :
    (list_identities A do_fp).1 = -1 ↔
      ∀ v ∈ [1, 2], ∀ keys, A.fetch_identitylist v = .ok keys → keys = [] := by
  have hf : ∀ v, (∀ keys, A.fetch_identitylist v = .ok keys → keys = []) ↔
      fetchedKeys (A.fetch_identitylist v) = false := fun v => by
    cases A.fetch_identitylist v <;> simp [fetchedKeys]
  have h := listVersions_had (A := A) do_fp [1, 2] false []
  unfold list_identities
  generalize listVersions A do_fp [1, 2] false [] = r at h
  obtain ⟨had, out⟩ := r
  subst h
  simp only [List.forall_mem_cons, List.not_mem_nil, false_imp_iff, implies_true, and_true, hf]
  cases h1 : fetchedKeys (A.fetch_identitylist 1) <;>
    cases h2 : fetchedKeys (A.fetch_identitylist 2) <;> simp [h1, h2]

/-- `ssh-add -l` (fingerprints) and `ssh-add -L` (public keys) stop the option loop, whatever
options and files follow, and exit 1 exactly when neither protocol's list held a key. -/
theorem main_list_exit_iff (E : Env) (A : AgentEnv Key) (fuel : Nat) (do_fp : Bool)
    (rest : List Opt) (args : List String) (hE : E.agent = .ok)
    (hl : ∀ b, E.list_identities b = (list_identities A b).1) :
    (main E fuel ((if do_fp then .l else .L) :: rest) args {} = .ok 1 {} ↔
      ∀ v ∈ [1, 2], ∀ keys, A.fetch_identitylist v = .ok keys → keys = []) ∧
    (main E fuel ((if do_fp then .l else .L) :: rest) args {} = .ok 1 {} ∨
      main E fuel ((if do_fp then .l else .L) :: rest) args {} = .ok 0 {}) := by
  have hm : main E fuel ((if do_fp then .l else .L) :: rest) args {} =
      .ok (if (list_identities A do_fp).1 = -1 then 1 else 0) {} := by
    cases do_fp <;> simp [main, hE, getoptLoop, hl]
  rw [hm, ← list_identities_fails_iff do_fp]
  by_cases h : (list_identities A do_fp).1 = -1 <;> simp [h]

theorem main_list_exit_iff_empty :
    main (withAgent keyOnly) 0 [.l] [] {} = .ok 1 {} :=
  (main_list_exit_iff (withAgent keyOnly) keyOnly 0 true [] [] rfl fun _ => rfl).1.2
    fun _ _ _ h => nomatch h

end List

end Libopenssh.SshAdd

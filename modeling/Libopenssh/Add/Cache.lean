import Libopenssh.Add.Zeroize

/-! The passphrase loop and the one-passphrase cache of `ssh-add.c`'s `add_file`: how many
times the loop asks and what it returns, and that keys sharing a passphrase are unlocked by
a single prompt over a whole run. -/
namespace Libopenssh.SshAdd

/-- The prompts of `add_file`, as opposed to the PIN's and the lock password's. -/
def Prompt.forKey : Prompt → Bool
  | .enter _ | .retry _ => true
  | _ => false

def Ev.keyPrompt : Ev → Bool
  | .read _ p => p.forKey
  | _ => false

/-- How many times a run asked for a key's passphrase. -/
def keyPrompts (tr : List Ev) : Nat := tr.countP Ev.keyPrompt

@[simp] theorem keyPrompts_nil : keyPrompts [] = 0 := rfl

@[simp] theorem keyPrompts_snoc (tr : List Ev) (e : Ev) :
    keyPrompts (tr ++ [e]) = keyPrompts tr + if e.keyPrompt then 1 else 0 := by
  cases h : e.keyPrompt <;> simp [keyPrompts, List.countP_append, h]

/-! ### Stretches that keep a property of the process -/

/-- However `m` ends, it keeps `I`. -/
def Keeps {α : Type} (I : St → Prop) (m : Sa α) : Prop := ∀ st, I st → I (m st).state

section Keeps

variable {α β : Type} {I : St → Prop} {m : Sa α} {f : α → Sa β} {E : Env}

/-- A stretch that keeps `I`, followed by ones that keep the weaker `J`. -/
theorem Keeps.seq {J : St → Prop} (hm : Keeps I m) (hIJ : ∀ st, I st → J st)
    (hf : ∀ a, Keeps J (f a)) (st : St) (h : I st) : J ((m >>= f) st).state := by
  have h' := hm st h
  rw [bind_apply]
  generalize m st = r at h' ⊢
  cases r with
  | ok a st' => exact hf a st' (hIJ _ h')
  | exit _ st' | fault st' | running st' => exact hIJ _ h'

theorem Keeps.bind (hm : Keeps I m) (hf : ∀ a, Keeps I (f a)) : Keeps I (m >>= f) :=
  hm.seq (fun _ h => h) hf

theorem Keeps.pure {a : α} : Keeps I (pure a) := fun _ h => h

theorem Keeps.of_state (h : ∀ st, (m st).state = st) : Keeps I m :=
  fun st hi => (h st).symm ▸ hi

theorem str_keeps {id : Nat} : Keeps I (str E id) :=
  Keeps.of_state fun st => by unfold str; cases E.answer id <;> rfl

theorem getPass_keeps : Keeps I Sa.getPass := Keeps.of_state fun _ => rfl

end Keeps

section Quiet

variable {E : Env} {k : Nat}

/-- The property a stretch that asks for no key's passphrase keeps. -/
def Prompted (k : Nat) (st : St) : Prop := keyPrompts st.trace = k

/-- A stretch that asks for no key's passphrase keeps every property of the count. -/
theorem Keeps.prompts {α : Type} {m : Sa α} (h : ∀ k, Keeps (Prompted k) m) (P : Nat → Prop) :
    Keeps (fun st => P (keyPrompts st.trace)) m := fun st hp => by
  have h' : keyPrompts (m st).state.trace = keyPrompts st.trace := h _ st rfl
  show P _
  rwa [h']

theorem quiet_emit {e : Ev} (he : e.keyPrompt = false) : Keeps (Prompted k) (Sa.emit e) :=
  fun _ h => by simp_all [Prompted, Sa.emit]

theorem quiet_read {p : Prompt} (hp : p.forKey = false) : Keeps (Prompted k) (read_passphrase p) :=
  fun _ h => by simp_all [Prompted, read_passphrase, Ev.keyPrompt]

theorem quiet_zero {id : Nat} : Keeps (Prompted k) (zero E id) :=
  str_keeps.bind fun _ => quiet_emit rfl

theorem quiet_free {id : Nat} : Keeps (Prompted k) (free id) := quiet_emit rfl

theorem quiet_clear_pass : Keeps (Prompted k) (clear_pass E) := by
  unfold clear_pass
  refine getPass_keeps.bind fun p => ?_
  cases p with
  | none => exact Keeps.pure
  | some id => exact quiet_zero.bind fun _ => quiet_free.bind fun _ _ h => h

theorem quiet_lock_agent (lock : Bool) : Keeps (Prompted k) (lock_agent E lock) := by
  have tail : ∀ id (r : Int), Keeps (Prompted k) (do zero E id; free id; pure r) :=
    fun _ _ => quiet_zero.bind fun _ => quiet_free.bind fun _ => Keeps.pure
  unfold lock_agent
  refine (quiet_read (p := .lock) rfl).bind fun _ => ?_
  dsimp only
  split
  · exact (quiet_read (p := .again) rfl).bind fun _ => str_keeps.bind fun _ => str_keeps.bind
      fun _ => quiet_zero.bind fun _ => quiet_free.bind fun _ => Keeps.pure.bind fun _ => tail _ _
  · exact Keeps.pure.bind fun _ => tail _ _

theorem quiet_update_card (add : Bool) (p : String) : Keeps (Prompted k) (update_card E add p) :=
  fun st h => by
    obtain ⟨r, hr⟩ := update_card_apply E add p st
    rw [hr]
    subst h
    cases E.answer st.asked <;> simp [Prompted, keyPrompts, List.countP_append, Ev.keyPrompt,
      Prompt.forKey]

/-- The option loop asks for no key's passphrase: `-x` and `-X` read lock passwords. -/
theorem quiet_getoptLoop (opts : List Opt) (fl : Flags) :
    Keeps (Prompted k) (getoptLoop E opts fl) := by
  induction opts generalizing fl with
  | nil => exact Keeps.pure
  | cons o opts ih =>
    cases o with
    | k | d | s | e => exact ih _
    | l | L | D | unknown => exact Keeps.pure
    | x | X => exact (quiet_lock_agent _).bind fun _ => Keeps.pure
    | c => exact Keeps.bind (fun _ h => h) fun _ => ih _
    | t optarg =>
      refine Keeps.bind (fun _ h => h) fun _ => ?_
      split
      · exact Keeps.pure
      · exact ih _

end Quiet

/-! ### The passphrase loop -/

/-- The `n`th answer is a passphrase, not empty, that `sshkey_parse_private` rejects as
wrong: the answer on which the loop asks again. -/
def WrongAnswer (E : Env) (keyblob : Bytes) (n : Nat) : Prop :=
  ∃ a, E.answer n = some a ∧ a.bytes ≠ [] ∧
    E.parse_private keyblob a.bytes = .wrongPassphrase

section Loop

variable {E : Env} {keyblob comment : Bytes} {prompt : Prompt} {st : St}

theorem readPass_apply (hpass : st.pass = none) :
    readPass E prompt st = .ok st.asked { st with
      asked := st.asked + 1
      pass := (E.answer st.asked).map fun _ => st.asked
      trace := st.trace ++ [.read st.asked prompt] } := by
  simp [readPass, read_passphrase, bind_apply, Sa.getPass, Sa.setPass, hpass]

theorem clear_pass_apply {id : Nat} {a : CStr} (hp : st.pass = some id)
    (ha : E.answer id = some a) :
    clear_pass E st = .ok () { st with pass := none, trace := st.trace ++ [.zero id, .free id] } := by
  simp [clear_pass, zero, free, str, bind_apply, Sa.getPass, Sa.setPass, Sa.emit, hp, ha]

/-- One turn of the loop, from a `NULL` `pass`: read, then stop, or clear and ask again. -/
theorem passLoop_succ (n : Nat) (hpass : st.pass = none) :
    passLoop E keyblob comment (n + 1) prompt st =
      let st1 : St := { st with
        asked := st.asked + 1
        pass := (E.answer st.asked).map fun _ => st.asked
        trace := st.trace ++ [.read st.asked prompt] }
      match E.answer st.asked with
      | none => .fault st1
      | some a =>
        if a.bytes = [] then .ok false st1 else
        match E.parse_private keyblob a.bytes with
        | .ok => .ok true st1
        | .error => .ok false st1
        | .wrongPassphrase => passLoop E keyblob comment n (.retry (comment.take 200))
            { st1 with pass := none, trace := st1.trace ++ [.zero st.asked, .free st.asked] } := by
  rw [passLoop, bind_apply, readPass_apply hpass]
  dsimp only
  rw [bind_apply]
  cases ha : E.answer st.asked with
  | none => simp only [str, ha]; rfl
  | some a =>
    simp only [str, ha, pure_apply]
    split
    · rfl
    · cases E.parse_private keyblob a.bytes with
      | ok | error => rfl
      | wrongPassphrase =>
        dsimp only
        rw [bind_apply, clear_pass_apply (by simp) ha]

/-- The loop on any answers: after `k` wrong passphrases it stops at the next answer, and it
has then read `k + 1` strings and left the last in `pass`. It returns `true` when that answer
decodes the key, `false` when it is empty or the key fails to decode, and a `NULL` answer is
undefined behaviour (`strlen(NULL)`). With fuel for fewer turns it is still asking. -/
theorem passLoop_answers (k fuel : Nat) (hpass : st.pass = none)
    (hwrong : ∀ j < k, WrongAnswer E keyblob (st.asked + j))
    (hk : k < fuel → ¬ WrongAnswer E keyblob (st.asked + k)) :
    ∃ st', st'.asked = st.asked + min (k + 1) fuel ∧
      st'.pass =
        (if k < fuel then (E.answer (st.asked + k)).map fun _ => st.asked + k else none) ∧
      passLoop E keyblob comment fuel prompt st =
        if k < fuel then
          match E.answer (st.asked + k) with
          | none => .fault st'
          | some a => .ok (decide (a.bytes ≠ []) && E.parse_private keyblob a.bytes == .ok) st'
        else .running st' := by
  induction k generalizing st fuel prompt with
  | zero =>
    cases fuel with
    | zero => exact ⟨st, by simp, by simp [hpass], rfl⟩
    | succ n =>
      have hk0 := hk (Nat.succ_pos n)
      simp only [Nat.add_zero] at hk0 ⊢
      rw [passLoop_succ n hpass]
      let st1 : St := { st with
        asked := st.asked + 1
        pass := (E.answer st.asked).map fun _ => st.asked
        trace := st.trace ++ [.read st.asked prompt] }
      refine ⟨st1, by simp [st1], by simp [st1], ?_⟩
      cases ha : E.answer st.asked with
      | none => simp [st1, ha]
      | some a =>
        by_cases hb : a.bytes = []
        · simp [st1, ha, hb]
        · cases hp : E.parse_private keyblob a.bytes with
          | ok | error => simp [st1, ha, hb, hp]
          | wrongPassphrase => exact absurd ⟨a, ha, hb, hp⟩ hk0
  | succ k ih =>
    cases fuel with
    | zero => exact ⟨st, by simp, by simp [hpass], rfl⟩
    | succ n =>
      obtain ⟨a, ha, hb, hp⟩ := hwrong 0 (Nat.succ_pos k)
      simp only [Nat.add_zero] at ha
      rw [passLoop_succ n hpass]
      simp only [ha, hb, hp, if_false]
      have shift : ∀ j, st.asked + 1 + j = st.asked + (j + 1) := fun _ => by omega
      let st2 : St := { st with
        asked := st.asked + 1, pass := none
        trace := st.trace ++ [.read st.asked prompt, .zero st.asked, .free st.asked] }
      obtain ⟨st', h1, h2, h3⟩ := ih n (show st2.pass = none from rfl)
        (fun j hj => shift j ▸ hwrong (j + 1) (by omega)) (fun hn => shift k ▸ hk (by omega))
      refine ⟨st', by simp [h1]; omega, ?_, ?_⟩
      · simpa [shift] using h2
      · simpa [shift] using h3

end Loop

/-- A user who types `answers` at the prompts, and key files that all decode with the
passphrase "key" and no other. -/
def typist (answers : List CStr) : Env where
  answer n := answers[n]?
  agent := .ok
  load_file _ := some []
  parse_private _ p := if p = [0x6b, 0x65, 0x79] then .ok else .wrongPassphrase
  parse_comment _ := none
  add_identity _ _ _ := true
  delete_file _ _ := some 0
  delete_all := 0
  list_identities _ := 0
  update_card _ _ _ _ _ := true
  lock_agent _ _ := true
  convtime _ := 0
  pw_dir := none
  stat _ := false

/-- "kye", a typo. -/
def kye : CStr := ⟨[0x6b, 0x79, 0x65], by decide, by decide⟩

/-- "key". -/
def key : CStr := ⟨[0x6b, 0x65, 0x79], by decide, by decide⟩

/-- A typo, then the passphrase: the loop asks twice and decodes the key. -/
theorem passLoop_answers_typo :
    ∃ st', st'.asked = 2 ∧ st'.pass = some 1 ∧
      passLoop (typist [kye, key]) [] [] 3 (.enter []) {} = .ok true st' := by
  obtain ⟨st', h1, h2, h3⟩ := @passLoop_answers (typist [kye, key]) [] [] (.enter []) {} 1 3 rfl
    (fun j hj => by
      obtain rfl : j = 0 := by omega
      exact ⟨kye, rfl, by decide, by decide⟩)
    (fun _ ⟨a, ha, _, hp⟩ => by cases ha; exact absurd hp (by decide))
  exact ⟨st', h1, h2, by simpa using h3⟩

/-! ### The cache over a run -/

/-- Every key file `ssh-add` can load decodes with no passphrase, or with `s` when the empty
passphrase is rejected as wrong. -/
def SharedPassphrase (E : Env) (s : CStr) : Prop :=
  ∀ f keyblob, E.load_file f = some keyblob →
    E.parse_private keyblob [] = .ok ∨
      E.parse_private keyblob [] = .wrongPassphrase ∧ E.parse_private keyblob s.bytes = .ok

/-- Between two files: nothing read yet, or the first answer cached after one key prompt. -/
def Cached (st : St) : Prop :=
  st.pass = none ∧ st.asked = 0 ∧ keyPrompts st.trace = 0 ∨
    st.pass = some 0 ∧ keyPrompts st.trace = 1

section Cache

variable {E : Env} {keyblob : Bytes} {st : St}

theorem addDecoded_state : (addDecoded E keyblob st).state = st := rfl

theorem tryLast_none (hp : st.pass = none) : tryLast E keyblob st = .ok (some false) st := by
  simp [tryLast, hp]

theorem tryLast_decodes {id : Nat} {a : CStr} (hp : st.pass = some id) (ha : E.answer id = some a)
    (hd : E.parse_private keyblob a.bytes = .ok) : tryLast E keyblob st = .ok (some true) st := by
  simp [tryLast, hp, str, ha, hd]

theorem clear_pass_none (hp : st.pass = none) : clear_pass E st = .ok () st := by
  simp [clear_pass, hp]

/-- `add_file` keeps the cache: a key is decoded with no passphrase, with the cached one, or
with the first answer, read at the one key prompt of the run. -/
theorem add_file_cached {s : CStr} (h0 : E.answer 0 = some s) (hshared : SharedPassphrase E s)
    (fuel : Nat) (f : String) : Keeps Cached (add_file E fuel f) := by
  intro st hc
  unfold add_file
  cases hl : E.load_file f with
  | none => exact hc
  | some kb =>
    rcases hshared f kb hl with hok | ⟨hw, hs⟩
    · simp only [hok, reduceIte, pure_bind]
      exact hc
    · simp only [hw, reduceCtorEq, if_false]
      rcases hc with ⟨hp, h0', hk⟩ | ⟨hp, hk⟩
      · rw [bind_apply, tryLast_none hp]
        dsimp only
        rw [bind_apply, clear_pass_none hp]
        dsimp only
        have hne : s.bytes ≠ [] := fun h => by rw [h, hw] at hs; cases hs
        cases fuel with
        | zero => exact .inl ⟨hp, h0', hk⟩
        | succ n =>
          rw [bind_apply, passLoop_succ n hp]
          simp only [h0', h0, hne, hs, if_false]
          refine .inr ⟨rfl, ?_⟩
          simp [addDecoded_state, hk, Ev.keyPrompt, Prompt.forKey]
      · rw [bind_apply, tryLast_decodes hp h0 hs]
        exact .inr ⟨hp, hk⟩

theorem Cached.le_one (h : Cached st) : keyPrompts st.trace ≤ 1 := by
  rcases h with ⟨-, -, h⟩ | ⟨-, h⟩ <;> omega

section
variable {s : CStr} (h0 : E.answer 0 = some s) (hshared : SharedPassphrase E s)
include h0 hshared

theorem do_file_cached (fuel : Nat) (deleting key_only : Bool) (f : String) :
    Keeps Cached (do_file E fuel deleting key_only f) := by
  unfold do_file
  split
  · split
    · exact fun _ h => h
    · exact Keeps.pure
  · exact (add_file_cached h0 hshared fuel f).bind fun _ => Keeps.pure

theorem defaultLoop_cached (fuel : Nat) (fl : Flags) (dir : String) (files : List String)
    (ret : Int) (count : Nat) : Keeps Cached (defaultLoop E fuel fl dir files ret count) := by
  induction files generalizing ret count with
  | nil => exact Keeps.pure
  | cons f fs ih =>
    show Keeps _ (if _ then _ else _)
    split
    · exact (do_file_cached h0 hshared _ _ _ _).bind fun _ => by split <;> exact ih _ _
    · exact ih _ _

theorem argLoop_cached (fuel : Nat) (fl : Flags) (args : List String) (ret : Int) :
    Keeps Cached (argLoop E fuel fl args ret) := by
  induction args generalizing ret with
  | nil => exact Keeps.pure
  | cons a args ih => exact (do_file_cached h0 hshared _ _ _ _).bind fun _ => ih _

end

/-- The option loop leaves `pass`, the strings read and the trace alone when it falls through
to the files: every option that reads a string ends in `goto done`. -/
theorem getoptLoop_inl {opts : List Opt} {fl fl' : Flags} {st' : St}
    (h : getoptLoop E opts fl st = .ok (.inl fl') st') :
    st'.pass = st.pass ∧ st'.asked = st.asked ∧ st'.trace = st.trace := by
  induction opts generalizing fl st with
  | nil => cases h; exact ⟨rfl, rfl, rfl⟩
  | cons o opts ih =>
    cases o with
    | k | d | s | e => exact ih h
    | l | L | D | unknown => cases h
    | x | X =>
      rw [getoptLoop, bind_apply] at h
      generalize lock_agent E _ st = r at h
      cases r <;> cases h
    | c => obtain ⟨h1, h2, h3⟩ := ih h; exact ⟨h1, h2, h3⟩
    | t optarg =>
      simp only [getoptLoop, Sa.setLifetime, bind_apply] at h
      split at h
      · cases h
      · obtain ⟨h1, h2, h3⟩ := ih h; exact ⟨h1, h2, h3⟩

end Cache

/-- When every key file `ssh-add` can load decodes with no passphrase or with the user's first
answer, a whole run (any options, any files or the default ones, any number of turns of the
loop) asks for a key's passphrase at most once: after the first prompt, `add_file` tries the
cached passphrase before it asks again. -/
theorem main_one_key_prompt (E : Env) (s : CStr) (fuel : Nat) (opts : List Opt)
    (args : List String) (h0 : E.answer 0 = some s) (hshared : SharedPassphrase E s) :
    keyPrompts (main E fuel opts args {}).state.trace ≤ 1 := by
  have hq : keyPrompts (getoptLoop E opts {} {}).state.trace = 0 := quiet_getoptLoop opts {} {} rfl
  have done : ∀ {α} (m : Sa α), Keeps Cached m → ∀ (g : α → Int) st, Cached st →
      keyPrompts ((do let r ← m; clear_pass E; pure (g r)) st).state.trace ≤ 1 :=
    fun m hm g => hm.seq (fun _ h => h.le_one) fun _ =>
      (Keeps.prompts (fun _ => quiet_clear_pass) (· ≤ 1)).bind fun _ => Keeps.pure
  unfold main
  cases E.agent with
  | notPresent | error => simp [Sa.exit]
  | ok =>
    dsimp only
    rw [bind_apply]
    generalize hr : getoptLoop E opts {} {} = r at hq
    cases r with
    | ok r st =>
      rcases r with fl | ret
      · obtain ⟨hp, ha, ht⟩ := getoptLoop_inl hr
        have hc : Cached st := .inl ⟨hp, ha, by rw [ht]; rfl⟩
        dsimp only
        cases fl.pkcs11provider with
        | some p =>
          exact (Keeps.prompts (fun _ => quiet_update_card _ p) (· ≤ 1)).bind
            (fun _ => Keeps.pure) st hc.le_one
        | none =>
          dsimp only
          split
          · cases E.pw_dir with
            | none => exact hc.le_one
            | some dir => exact done _ (defaultLoop_cached h0 hshared _ _ _ _ _ _) _ st hc
          · exact done _ (argLoop_cached h0 hshared _ _ _ _) id st hc
      · exact (Res.state_ok _ st ▸ hq).le.trans (Nat.zero_le 1)
    | exit _ st | fault st | running st => exact hq.le.trans (Nat.zero_le 1)

/-- Two key files with the passphrase "key", typed once. -/
theorem main_one_key_prompt_two_files :
    keyPrompts (main (typist [key]) 3 [] ["id_rsa", "id_ecdsa"] {}).state.trace ≤ 1 :=
  main_one_key_prompt (typist [key]) key 3 [] ["id_rsa", "id_ecdsa"] rfl
    fun _ _ _ => .inr ⟨rfl, rfl⟩

end Libopenssh.SshAdd

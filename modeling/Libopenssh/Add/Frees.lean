import Libopenssh.Add.Cache

/-! The passphrase strings of `ssh-add.c` are never leaked and never freed twice: every
string `read_passphrase` returns is freed once, or is the one `pass` still holds, and nothing
else is freed; no pointer to a live string is overwritten. -/
namespace Libopenssh.SshAdd

/-- The ledger of the strings `read_passphrase` returned. -/
structure Owned (E : Env) (st : St) : Prop where
  /-- A non-`NULL` string read is freed once unless `pass` holds it; nothing else is freed. -/
  frees : ∀ id, st.trace.count (.free id) =
    if id < st.asked ∧ (E.answer id).isSome ∧ st.pass ≠ some id then 1 else 0
  /-- `pass` holds a non-`NULL` string read so far. -/
  pass : ∀ id, st.pass = some id → id < st.asked ∧ (E.answer id).isSome
  /-- No `pass = read_passphrase(...)` while `pass` held a string. -/
  no_replace : ∀ id, Ev.replace id ∉ st.trace

/-- When `m` returns from a state satisfying `P`, it leaves one satisfying `Q`. -/
def Triple {α : Type} (P : St → Prop) (m : Sa α) (Q : St → Prop) : Prop :=
  ∀ st a st', P st → m st = .ok a st' → Q st'

section Triple

variable {α β : Type} {P Q R : St → Prop} {m : Sa α} {f : α → Sa β}

theorem Triple.bind (hm : Triple P m Q) (hf : ∀ a, Triple Q (f a) R) : Triple P (m >>= f) R := by
  intro st b st' hp h
  rw [bind_apply] at h
  cases hm' : m st with
  | ok a st₁ => rw [hm'] at h; exact hf a st₁ b st' (hm st a st₁ hp hm') h
  | exit | fault | running => rw [hm'] at h; cases h

theorem Triple.pure {a : α} (h : ∀ st, P st → Q st) : Triple P (pure a) Q :=
  fun st _ _ hp he => by cases he; exact h st hp

theorem Triple.mono {P' Q' : St → Prop} (hm : Triple P m Q) (hp : ∀ st, P' st → P st)
    (hq : ∀ st, Q st → Q' st) : Triple P' m Q' :=
  fun st a st' h he => hq st' (hm st a st' (hp st h) he)

/-- A stretch that leaves the process as it was. -/
theorem Triple.of_state (hm : ∀ st, (m st).state = st) (h : ∀ st, P st → Q st) : Triple P m Q :=
  fun st a st' hp he => by
    have hs := hm st
    rw [he, Res.state_ok] at hs
    exact hs ▸ h st hp

theorem Triple.exit {n : Nat} : Triple P (Sa.exit n : Sa α) Q := fun _ _ _ _ h => nomatch h

end Triple

/-! ### The ledger across the calls on strings -/

section Ledger

variable {E : Env} {st st' : St}

theorem Owned.init : Owned E {} :=
  ⟨fun _ => by simp, fun _ h => (nomatch h), fun _ h => nomatch h⟩

/-- The ledger reads only the trace, the count of strings read and `pass`. -/
theorem Owned.of_eq (h : Owned E st) (ht : st'.trace = st.trace) (ha : st'.asked = st.asked)
    (hp : st'.pass = st.pass) : Owned E st' :=
  ⟨by rw [ht, ha, hp]; exact h.frees, by rw [ha, hp]; exact h.pass, by rw [ht]; exact h.no_replace⟩

/-- Reading strings `st.asked` to `st.asked + n - 1` and freeing exactly the non-`NULL`
ones among them, with `pass` left alone. -/
theorem Owned.extend (h : Owned E st) (n : Nat) (evs : List Ev)
    (hf : ∀ id, evs.count (.free id) =
      if st.asked ≤ id ∧ id < st.asked + n ∧ (E.answer id).isSome then 1 else 0)
    (hr : ∀ id, Ev.replace id ∉ evs) :
    Owned E { st with asked := st.asked + n, trace := st.trace ++ evs } := by
  refine ⟨fun id => ?_, fun id hp => ?_, fun id hm => ?_⟩
  · have hp : st.pass = some id → id < st.asked := fun hp => (h.pass id hp).1
    rw [List.count_append, h.frees id, hf id]
    by_cases hid : id < st.asked
    · simp [hid, show id < st.asked + n by omega]
    · have hq : st.pass ≠ some id := fun hq => hid (hp hq)
      simp [hid, hq, Nat.le_of_not_lt hid]
  · exact ⟨by have := (h.pass id hp).1; simp only; omega, (h.pass id hp).2⟩
  · rcases List.mem_append.1 hm with hm | hm
    exacts [h.no_replace id hm, hr id hm]

/-- `pass = read_passphrase(...)` from a `NULL` `pass`: the new string is held by `pass`. -/
theorem Owned.readPass (h : Owned E st) (hpass : st.pass = none) (prompt : Prompt) :
    Owned E { st with
      asked := st.asked + 1
      pass := (E.answer st.asked).map fun _ => st.asked
      trace := st.trace ++ [.read st.asked prompt] } := by
  refine ⟨fun id => ?_, fun id hp => ?_, fun id hm => ?_⟩
  · simp only [List.count_append, h.frees id, hpass, List.count_singleton', reduceCtorEq,
      if_false, Nat.add_zero]
    by_cases hid : id = st.asked
    · subst hid
      cases E.answer st.asked <;> simp
    · have hne : (E.answer st.asked).map (fun _ => st.asked) ≠ some id := by
        cases E.answer st.asked <;> simp [Ne.symm hid]
      by_cases hlt : id < st.asked
      · simp [hlt, hne, show id < st.asked + 1 by omega]
      · simp [hlt, hne, show ¬ id < st.asked + 1 by omega]
  · cases ha : E.answer st.asked with
    | none => simp [ha] at hp
    | some a => simp only [ha, Option.map_some', Option.some.injEq] at hp; simp [← hp, ha]
  · rcases List.mem_append.1 hm with hm | hm
    · exact h.no_replace id hm
    · simp at hm

/-- `clear_pass` on a string `pass` holds: it is freed, and `pass` is `NULL` again. -/
theorem Owned.clear {id : Nat} (h : Owned E st) (hpass : st.pass = some id) :
    Owned E { st with pass := none, trace := st.trace ++ [.zero id, .free id] } := by
  obtain ⟨hlt, hs⟩ := h.pass id hpass
  refine ⟨fun j => ?_, fun _ hp => (nomatch hp), fun j hm => ?_⟩
  · simp only [List.count_append, h.frees j, hpass, List.count_cons, List.count_nil]
    by_cases hj : j = id
    · subst hj
      simp [hlt, hs]
    · simp [hj, Ne.symm hj]
  · rcases List.mem_append.1 hm with hm | hm
    · exact h.no_replace j hm
    · simp at hm

end Ledger

/-! ### Each function of `ssh-add.c` -/

section Functions

variable {E : Env} {keyblob comment : Bytes}

theorem clear_pass_owned : Triple (Owned E) (clear_pass E) (fun st => Owned E st ∧ st.pass = none) := by
  intro st _ st' h he
  cases hp : st.pass with
  | none => rw [clear_pass_none hp] at he; cases he; exact ⟨h, hp⟩
  | some id =>
    obtain ⟨a, ha⟩ := Option.isSome_iff_exists.1 (h.pass id hp).2
    rw [clear_pass_apply hp ha] at he
    cases he
    exact ⟨h.clear hp, rfl⟩

theorem fail_load_owned : Triple (Owned E) (fail_load E) (Owned E) :=
  clear_pass_owned.bind fun _ => Triple.pure fun _ h => h.1

theorem tryLast_state (st : St) : (tryLast E keyblob st).state = st := by
  simp only [tryLast, getPass_bind]
  cases st.pass with
  | none => rfl
  | some id =>
    dsimp only
    rw [bind_apply]
    unfold str
    cases E.answer id with
    | none => rfl
    | some a => dsimp only; cases E.parse_private keyblob a.bytes <;> rfl

/-- Each turn reads into a `NULL` `pass` and, on a wrong passphrase, frees it before the
next. -/
theorem passLoop_owned (fuel : Nat) (prompt : Prompt) :
    Triple (fun st => Owned E st ∧ st.pass = none) (passLoop E keyblob comment fuel prompt)
      (Owned E) := by
  induction fuel generalizing prompt with
  | zero => exact fun _ _ _ _ he => nomatch he
  | succ n ih =>
    intro st b st' ⟨h, hpass⟩ he
    rw [passLoop_succ n hpass] at he
    have h1 := h.readPass hpass prompt
    dsimp only at he
    cases ha : E.answer st.asked with
    | none => rw [ha] at he; cases he
    | some a =>
      rw [ha] at he h1
      dsimp only at he
      split_ifs at he
      · cases he; exact h1
      · split at he
        · cases he; exact h1
        · cases he; exact h1
        · exact ih _ _ _ _ ⟨h1.clear rfl, rfl⟩ he

theorem add_file_owned (fuel : Nat) (filename : String) :
    Triple (Owned E) (add_file E fuel filename) (Owned E) := by
  unfold add_file
  split
  · exact Triple.pure fun _ h => h
  · split
    · exact fail_load_owned
    · refine Triple.bind (Q := Owned E) ?_ fun d => ?_
      · split
        · exact Triple.pure fun _ h => h
        · exact Triple.of_state tryLast_state fun _ h => h
      · rcases d with _ | _ | _
        · exact fail_load_owned
        · refine clear_pass_owned.bind fun _ => (passLoop_owned fuel _).bind fun b => ?_
          split
          · exact Triple.of_state (fun _ => addDecoded_state) fun _ h => h
          · exact fail_load_owned
        · exact Triple.of_state (fun _ => addDecoded_state) fun _ h => h

/-- `update_card` frees the PIN it read, unless it is `NULL`, and leaves `pass` alone. -/
theorem update_card_owned {V : Option Nat → Prop} (add : Bool) (id : String) :
    Triple (fun st => Owned E st ∧ V st.pass) (update_card E add id)
      (fun st => Owned E st ∧ V st.pass) := by
  intro st r st' ⟨h, hv⟩ he
  obtain ⟨r', hr⟩ := update_card_apply E add id st
  rw [hr] at he
  cases he
  refine ⟨h.extend 1 _ (fun j => ?_) (by simp), hv⟩
  by_cases hj : j = st.asked
  · subst hj
    simp only [le_refl, Nat.lt_add_one, true_and]
    split_ifs <;> simp
  · have : ¬ (st.asked ≤ j ∧ j < st.asked + 1 ∧ (E.answer j).isSome) := fun ⟨h1, h2, _⟩ => by
      omega
    simp only [this, if_false]
    split_ifs <;> simp [List.count_cons, hj]

/-- `lock_agent` zeroes and frees both passwords it read, and leaves `pass` alone. -/
theorem lock_agent_owned {V : Option Nat → Prop} (lock : Bool) :
    Triple (fun st => Owned E st ∧ V st.pass) (lock_agent E lock)
      (fun st => Owned E st ∧ V st.pass) := by
  intro st r st' ⟨h, hv⟩ he
  cases lock
  · cases ha : E.answer st.asked with
    | none => simp [lock_agent, bind_apply, read_passphrase, zero, str, ha, Sa.emit, Sa.fault] at he
    | some a =>
      simp [lock_agent, bind_apply, read_passphrase, zero, str, free, ha, Sa.emit] at he
      obtain ⟨-, rfl⟩ := he
      refine ⟨h.extend 1 _ (fun j => ?_) (by simp), hv⟩
      by_cases h0 : j = st.asked
      · subst h0; simp [ha]
      · have : ¬ (st.asked ≤ j ∧ j < st.asked + 1 ∧ (E.answer j).isSome) :=
          fun ⟨h1, h2, _⟩ => by omega
        simp [List.count_cons, h0, this]
  · cases ha : E.answer st.asked with
    | none => simp [lock_agent, bind_apply, read_passphrase, zero, str, ha, Sa.emit, Sa.fault] at he
    | some a =>
      cases hb : E.answer (st.asked + 1) with
      | none => simp [lock_agent, bind_apply, read_passphrase, zero, str, ha, hb, Sa.emit, Sa.fault] at he
      | some b =>
        simp [lock_agent, bind_apply, read_passphrase, zero, str, free, ha, hb, Sa.emit] at he
        obtain ⟨-, rfl⟩ := he
        refine ⟨h.extend 2 _ (fun j => ?_) (by simp), hv⟩
        by_cases h0 : j = st.asked
        · subst h0; simp [ha]
        by_cases h1 : j = st.asked + 1
        · subst h1; simp [hb]
        have : ¬ (st.asked ≤ j ∧ j < st.asked + 2 ∧ (E.answer j).isSome) :=
          fun ⟨h2, h3, _⟩ => by omega
        simp [List.count_cons, h0, h1, this]

theorem do_file_owned (fuel : Nat) (deleting key_only : Bool) (file : String) :
    Triple (Owned E) (do_file E fuel deleting key_only file) (Owned E) := by
  unfold do_file
  split
  · split
    · exact Triple.exit
    · exact Triple.pure fun _ h => h
  · exact (add_file_owned fuel file).bind fun _ => Triple.pure fun _ h => h

/-- A stretch that sets only `lifetime` or `confirm`. -/
theorem statics_owned {α : Type} {m : Sa α}
    (hm : ∀ st a st', m st = .ok a st' → st'.trace = st.trace ∧ st'.asked = st.asked ∧ st'.pass = st.pass) :
    Triple (fun st => Owned E st ∧ st.pass = none) m (fun st => Owned E st ∧ st.pass = none) :=
  fun st a st' ⟨h, hp⟩ he =>
    have ⟨ht, ha, hq⟩ := hm st a st' he
    ⟨h.of_eq ht ha hq, hq.trans hp⟩

/-- The option loop reads only lock passwords and frees them; `pass` stays `NULL`. -/
theorem getoptLoop_owned (opts : List Opt) (fl : Flags) :
    Triple (fun st => Owned E st ∧ st.pass = none) (getoptLoop E opts fl)
      (fun st => Owned E st ∧ st.pass = none) := by
  induction opts generalizing fl with
  | nil => exact Triple.pure fun _ h => h
  | cons o opts ih =>
    cases o with
    | k | d | s | e => exact ih _
    | l | L | D | unknown => exact Triple.pure fun _ h => h
    | x | X => exact (lock_agent_owned (V := (· = none)) _).bind fun _ => Triple.pure fun _ h => h
    | c =>
      exact (statics_owned fun _ _ _ he => by cases he; exact ⟨rfl, rfl, rfl⟩).bind fun _ => ih _
    | t optarg =>
      refine (statics_owned fun _ _ _ he => by cases he; exact ⟨rfl, rfl, rfl⟩).bind fun _ => ?_
      split
      · exact Triple.pure fun _ h => h
      · exact ih _

theorem defaultLoop_owned (fuel : Nat) (fl : Flags) (dir : String) (files : List String)
    (ret : Int) (count : Nat) : Triple (Owned E) (defaultLoop E fuel fl dir files ret count) (Owned E) := by
  induction files generalizing ret count with
  | nil => exact Triple.pure fun _ h => h
  | cons f fs ih =>
    show Triple _ (if _ then _ else _) _
    split
    · exact (do_file_owned _ _ _ _).bind fun _ => by split <;> exact ih _ _
    · exact ih _ _

theorem argLoop_owned (fuel : Nat) (fl : Flags) (args : List String) (ret : Int) :
    Triple (Owned E) (argLoop E fuel fl args ret) (Owned E) := by
  induction args generalizing ret with
  | nil => exact Triple.pure fun _ h => h
  | cons a args ih => exact (do_file_owned _ _ _ _).bind fun _ => ih _

end Functions

/-- `main` from the start: every string it read and did not give back to the user is freed,
and `pass` is `NULL` when it returns. -/
theorem main_owned (E : Env) (fuel : Nat) (opts : List Opt) (args : List String) :
    Triple (· = {}) (main E fuel opts args) (fun st => Owned E st ∧ st.pass = none) := by
  have done : ∀ {α} (m : Sa α) (g : α → Int), Triple (Owned E) m (Owned E) →
      Triple (fun st => Owned E st ∧ st.pass = none) (do let r ← m; clear_pass E; pure (g r))
        (fun st => Owned E st ∧ st.pass = none) :=
    fun m g hm => (hm.mono (fun _ h => h.1) fun _ h => h).bind fun _ =>
      clear_pass_owned.bind fun _ => Triple.pure fun _ h => h
  unfold main
  split
  · exact Triple.exit
  · exact Triple.exit
  · refine ((getoptLoop_owned opts {}).mono (fun st h => h ▸ ⟨Owned.init, rfl⟩)
      fun _ h => h).bind fun r => ?_
    rcases r with fl | ret
    · dsimp only
      split
      · exact (update_card_owned (V := (· = none)) _ _).bind fun _ => Triple.pure fun _ h => h
      · split
        · split
          · exact Triple.pure fun _ h => h
          · exact done _ _ (defaultLoop_owned _ _ _ _ _ _)
        · exact done _ id (argLoop_owned _ _ _ _)
    · exact Triple.pure fun _ h => h

/-- Every run of `ssh-add` that returns (any options, files and answers, any number of
turns of the passphrase loop) has freed each non-`NULL` string `read_passphrase` returned
exactly once and freed nothing else: the cached passphrase is freed by the last
`clear_pass`, no string is freed twice, and `pass` is never overwritten while it holds one. -/
theorem main_frees_once (E : Env) (fuel : Nat) (opts : List Opt) (args : List String) (r : Int)
    (st : St) (h : main E fuel opts args {} = .ok r st) :
    (∀ id, st.trace.count (.free id) = if id < st.asked ∧ (E.answer id).isSome then 1 else 0) ∧
      ∀ id, Ev.replace id ∉ st.trace := by
  obtain ⟨ho, hp⟩ := main_owned E fuel opts args {} r st rfl h
  exact ⟨fun id => by simp [ho.frees id, hp], ho.no_replace⟩

/-- A typo, then the passphrase: both strings are freed once. -/
theorem main_frees_once_typo :
    ∃ st, main (typist [kye, key]) 3 [] ["id_rsa"] {} = .ok 0 st ∧
      (∀ id, st.trace.count (.free id) =
        if id < st.asked ∧ ((typist [kye, key]).answer id).isSome then 1 else 0) ∧
      ∀ id, Ev.replace id ∉ st.trace :=
  ⟨_, rfl, main_frees_once (typist [kye, key]) 3 [] ["id_rsa"] 0 _ rfl⟩

end Libopenssh.SshAdd

import Libopenssh.Add.Model

/-! The passphrase law of `ssh-add.c`: a string `read_passphrase` returned is zeroed while
it lives, before `free` or an assignment gives it up. `clear_pass`, `add_file` and
`lock_agent` keep the law on every path; `update_card` frees its PIN without zeroing it. -/
namespace Libopenssh.SshAdd

/-- The string an event gives up: `free`, or overwriting the pointer to it. -/
def Ev.releases : Ev → Option Nat
  | .free id | .replace id => some id
  | _ => none

/-- Every string given up was zeroed after it was last read. -/
def ZeroedFirst (tr : List Ev) : Prop :=
  ∀ pre e id, pre ++ [e] <+: tr → e.releases = some id →
    ∃ before after, pre = before ++ Ev.zero id :: after ∧ ∀ p, Ev.read id p ∉ after

/-- The law, on a trace with no PKCS#11 prompt in it. -/
structure Clean (tr : List Ev) : Prop where
  zeroed : ZeroedFirst tr
  no_pin : ∀ id, Ev.read id .pkcs11 ∉ tr

section Law

variable {tr : List Ev} {e : Ev}

theorem Clean.nil : Clean [] :=
  ⟨fun _ _ _ h => by simp at h, fun _ h => nomatch h⟩

theorem ZeroedFirst.snoc (h : ZeroedFirst tr)
    (he : ∀ id, e.releases = some id → ∃ pre, tr = pre ++ [Ev.zero id]) :
    ZeroedFirst (tr ++ [e]) := by
  intro pre e' id hp hr
  rcases List.prefix_concat_iff.1 hp with hp | hp
  · obtain ⟨rfl, he'⟩ := List.append_inj' hp rfl
    cases he'
    obtain ⟨before, rfl⟩ := he id hr
    exact ⟨before, [], rfl, fun _ h => nomatch h⟩
  · exact h pre e' id hp hr

theorem Clean.snoc (h : Clean tr) (hp : ∀ id, e ≠ .read id .pkcs11)
    (he : ∀ id, e.releases = some id → ∃ pre, tr = pre ++ [Ev.zero id]) : Clean (tr ++ [e]) :=
  ⟨h.zeroed.snoc he, fun id hm => by
    rcases List.mem_append.1 hm with hm | hm
    · exact h.no_pin id hm
    · exact hp id (List.mem_singleton.1 hm).symm⟩

/-- A string freed right after it was read was never zeroed. -/
theorem not_zeroedFirst_read_free {n : Nat} {p : Prompt} :
    ¬ ZeroedFirst (tr ++ [.read n p, .free n]) := by
  intro h
  obtain ⟨before, after, hpre, hafter⟩ :=
    h (tr ++ [.read n p]) (.free n) n (by simp) rfl
  cases after using List.reverseRecOn with
  | nil => nomatch (List.append_inj' hpre rfl).2
  | append_singleton after x _ =>
    rw [← List.cons_append, ← List.append_assoc] at hpre
    obtain ⟨-, hx⟩ := List.append_inj' hpre rfl
    cases hx
    exact hafter p (by simp)

end Law

/-! ### Specifications -/

/-- Started from a state with a clean trace that satisfies `P`, `m` leaves a clean trace on
every outcome, and a state satisfying `Q` of its result when it returns. -/
def Spec {α : Type} (P : St → Prop) (m : Sa α) (Q : α → St → Prop) : Prop :=
  ∀ st, Clean st.trace → P st → Clean (m st).state.trace ∧ ∀ a st', m st = .ok a st' → Q a st'

section Spec

variable {α β : Type} {P P' : St → Prop} {m : Sa α} {Q Q' : α → St → Prop} {f : α → Sa β}
  {R : β → St → Prop} {E : Env}

theorem Spec.bind (hm : Spec P m Q) (hf : ∀ a, Spec (Q a) (f a) R) : Spec P (m >>= f) R := by
  intro st hc hp
  obtain ⟨hc', hq⟩ := hm st hc hp
  rw [bind_apply]
  cases h : m st with
  | ok a st' => rw [h] at hc'; exact hf a st' hc' (hq a st' h)
  | exit n st' => rw [h] at hc'; exact ⟨hc', fun _ _ h => nomatch h⟩
  | fault st' => rw [h] at hc'; exact ⟨hc', fun _ _ h => nomatch h⟩
  | running st' => rw [h] at hc'; exact ⟨hc', fun _ _ h => nomatch h⟩

theorem Spec.pure {a : α} (h : ∀ st, P st → Q a st) : Spec P (pure a) Q :=
  fun st hc hp => ⟨hc, fun _ _ he => by cases he; exact h st hp⟩

theorem Spec.mono (h : Spec P m Q) (hp : ∀ st, P' st → P st) (hq : ∀ a st, Q a st → Q' a st) :
    Spec P' m Q' :=
  fun st hc hp' => (h st hc (hp st hp')).imp id fun hr a st' he => hq a st' (hr a st' he)

/-- A stretch that stops without returning keeps the law if it leaves the state alone. -/
theorem Spec.stop (h : ∀ st, (m st).state = st ∧ ∀ a st', m st ≠ .ok a st') : Spec P m Q :=
  fun st hc _ => ⟨by rw [(h st).1]; exact hc, fun a st' he => absurd he ((h st).2 a st')⟩

theorem exit_spec {n : Nat} : Spec P (Sa.exit n : Sa α) Q := Spec.stop fun _ => ⟨rfl, nofun⟩

theorem fault_spec : Spec P (Sa.fault : Sa α) Q := Spec.stop fun _ => ⟨rfl, nofun⟩

theorem getPass_spec : Spec P Sa.getPass (fun p st => P st ∧ st.pass = p) :=
  fun _ hc hp => ⟨hc, fun _ _ h => by cases h; exact ⟨hp, rfl⟩⟩

theorem setPass_spec (v : Option Nat) : Spec P (Sa.setPass v) (fun _ st => st.pass = v) :=
  fun _ hc _ => ⟨hc, fun _ _ h => by cases h; rfl⟩

theorem statics_spec : Spec P Sa.statics (fun _ => P) :=
  fun _ hc hp => ⟨hc, fun _ _ h => by cases h; exact hp⟩

theorem setLifetime_spec {v : Int} : Spec P (Sa.setLifetime v) (fun _ _ => True) :=
  fun _ hc _ => ⟨hc, fun _ _ _ => trivial⟩

theorem setConfirm_spec : Spec P Sa.setConfirm (fun _ _ => True) :=
  fun _ hc _ => ⟨hc, fun _ _ _ => trivial⟩

theorem str_spec {id : Nat} : Spec P (str E id) (fun _ => P) := by
  unfold str
  split
  · exact Spec.pure fun _ h => h
  · exact fault_spec

/-- Reading a passphrase at any prompt but the PIN's keeps the law and `pass`. -/
theorem read_passphrase_spec {prompt : Prompt} (hp : prompt ≠ .pkcs11) (V : Option Nat → Prop) :
    Spec (fun st => V st.pass) (read_passphrase prompt) (fun _ st => V st.pass) :=
  fun _ hc hv => ⟨hc.snoc (fun _ h => hp (Ev.read.inj h).2) (fun _ h => nomatch h),
    fun _ _ h => by cases h; exact hv⟩

theorem zero_spec {id : Nat} :
    Spec P (zero E id) (fun _ st => ∃ pre, st.trace = pre ++ [Ev.zero id]) :=
  str_spec.bind fun _ _ hc _ =>
    ⟨hc.snoc (fun _ h => nomatch h) (fun _ h => nomatch h), fun _ _ h => by cases h; exact ⟨_, rfl⟩⟩

theorem free_spec {id : Nat} :
    Spec (fun st => ∃ pre, st.trace = pre ++ [Ev.zero id]) (free id) (fun _ _ => True) :=
  fun _ hc hz => ⟨hc.snoc (fun _ h => nomatch h) (fun _ h => by cases h; exact hz),
    fun _ _ _ => trivial⟩

theorem clear_pass_spec : Spec P (clear_pass E) (fun _ st => st.pass = none) := by
  unfold clear_pass
  refine getPass_spec.bind fun p => ?_
  cases p with
  | none => exact Spec.pure fun _ h => h.2
  | some id => exact zero_spec.bind fun _ => free_spec.bind fun _ => setPass_spec none

/-- `pass = read_passphrase(...)` keeps the law when `pass` is `NULL`. -/
theorem readPass_spec {prompt : Prompt} (hp : prompt ≠ .pkcs11) :
    Spec (fun st => st.pass = none) (readPass E prompt) (fun _ _ => True) := by
  unfold readPass
  refine (read_passphrase_spec hp (· = none)).bind fun id => getPass_spec.bind fun p => ?_
  cases p with
  | some old => exact fun _ _ h => absurd (h.1.symm.trans h.2) nofun
  | none =>
    exact (Spec.pure (Q := fun _ _ => True) fun _ _ => trivial).bind fun _ =>
      (setPass_spec _).bind fun _ => Spec.pure fun _ _ => trivial

/-! ### The functions of `ssh-add.c` -/

theorem fail_load_spec : Spec P (fail_load E) (fun _ _ => True) :=
  clear_pass_spec.bind fun _ => Spec.pure fun _ _ => trivial

theorem addDecoded_spec {keyblob : Bytes} : Spec P (addDecoded E keyblob) (fun _ _ => True) :=
  statics_spec.bind fun ⟨_, _⟩ => Spec.pure fun _ _ => trivial

theorem tryLast_spec {keyblob : Bytes} : Spec P (tryLast E keyblob) (fun _ _ => True) := by
  unfold tryLast
  refine getPass_spec.bind fun p => ?_
  cases p with
  | none => exact Spec.pure fun _ _ => trivial
  | some id => exact str_spec.bind fun _ => by split <;> exact Spec.pure fun _ _ => trivial

/-- Each turn of the passphrase loop reads into a `NULL` `pass` and clears it before the
next turn. -/
theorem passLoop_spec {keyblob comment : Bytes} (fuel : Nat) {prompt : Prompt}
    (hp : prompt ≠ .pkcs11) :
    Spec (fun st => st.pass = none) (passLoop E keyblob comment fuel prompt) (fun _ _ => True) := by
  induction fuel generalizing prompt with
  | zero => exact Spec.stop fun _ => ⟨rfl, nofun⟩
  | succ n ih =>
    refine (readPass_spec hp).bind fun _ => str_spec.bind fun _ => ?_
    split
    · exact Spec.pure fun _ _ => trivial
    · split
      · exact Spec.pure fun _ _ => trivial
      · exact Spec.pure fun _ _ => trivial
      · exact clear_pass_spec.bind fun _ => ih nofun

theorem add_file_spec (fuel : Nat) (filename : String) :
    Spec P (add_file E fuel filename) (fun _ _ => True) := by
  unfold add_file
  split
  · exact Spec.pure fun _ _ => trivial
  · split
    · exact fail_load_spec
    · refine Spec.bind (Q := fun _ _ => True) ?_ fun d => ?_
      · split
        · exact Spec.pure fun _ _ => trivial
        · exact tryLast_spec
      · rcases d with _ | _ | _
        · exact fail_load_spec
        · exact clear_pass_spec.bind fun _ => (passLoop_spec fuel (by simp)).bind fun _ => by
            split
            · exact addDecoded_spec
            · exact fail_load_spec
        · exact addDecoded_spec

theorem lock_agent_spec (lock : Bool) : Spec P (lock_agent E lock) (fun _ _ => True) := by
  have tail : ∀ id (r : Int), Spec (fun _ => True) (do zero E id; free id; pure r) (fun _ _ => True) :=
    fun _ _ => zero_spec.bind fun _ => free_spec.bind fun _ => Spec.pure fun _ _ => trivial
  unfold lock_agent
  refine (read_passphrase_spec (by simp) (fun _ => True)).mono (fun _ _ => trivial) (fun _ _ h => h)
    |>.bind fun _ => ?_
  dsimp only
  split
  · exact (read_passphrase_spec (by simp) (fun _ => True)).bind fun _ => str_spec.bind fun _ =>
      str_spec.bind fun _ => zero_spec.bind fun _ => free_spec.bind fun _ =>
        (Spec.pure fun _ _ => trivial).bind fun _ => tail _ _
  · exact (Spec.pure fun _ _ => trivial).bind fun _ => tail _ _

theorem do_file_spec (fuel : Nat) (deleting key_only : Bool) (file : String) :
    Spec P (do_file E fuel deleting key_only file) (fun _ _ => True) := by
  unfold do_file
  split
  · split
    · exact exit_spec
    · exact Spec.pure fun _ _ => trivial
  · exact (add_file_spec fuel file).bind fun _ => Spec.pure fun _ _ => trivial

theorem getoptLoop_spec (opts : List Opt) (fl : Flags) :
    Spec P (getoptLoop E opts fl) (fun _ _ => True) := by
  induction opts generalizing P fl with
  | nil => exact Spec.pure fun _ _ => trivial
  | cons o opts ih =>
    cases o with
    | k | d | s | e => exact ih _
    | l | L | D | unknown => exact Spec.pure fun _ _ => trivial
    | x | X => exact (lock_agent_spec _).bind fun _ => Spec.pure fun _ _ => trivial
    | c => exact setConfirm_spec.bind fun _ => ih _
    | t optarg =>
      refine setLifetime_spec.bind fun _ => ?_
      split
      · exact Spec.pure fun _ _ => trivial
      · exact ih _

theorem defaultLoop_spec (fuel : Nat) (fl : Flags) (dir : String) (files : List String)
    (ret : Int) (count : Nat) :
    Spec P (defaultLoop E fuel fl dir files ret count) (fun _ _ => True) := by
  induction files generalizing P ret count with
  | nil => exact Spec.pure fun _ _ => trivial
  | cons f fs ih =>
    show Spec _ (if _ then _ else _) _
    split
    · exact (do_file_spec _ _ _ _).bind fun _ => by split <;> exact ih _ _
    · exact ih _ _

theorem argLoop_spec (fuel : Nat) (fl : Flags) (args : List String) (ret : Int) :
    Spec P (argLoop E fuel fl args ret) (fun _ _ => True) := by
  induction args generalizing P ret with
  | nil => exact Spec.pure fun _ _ => trivial
  | cons a args ih => exact (do_file_spec _ _ _ _).bind fun _ => ih _

end Spec

/-- `update_card` reads the PIN and, unless it is `NULL`, frees it at once. -/
theorem update_card_apply (E : Env) (add : Bool) (p : String) (st : St) :
    ∃ r, update_card E add p st = .ok r { st with
      asked := st.asked + 1
      trace := st.trace ++ Ev.read st.asked .pkcs11 ::
        if (E.answer st.asked).isSome then [.free st.asked] else [] } := by
  unfold update_card
  rw [bind_apply]
  cases h : E.answer st.asked <;> simp [read_passphrase, h, free, Sa.emit]

/-- Every run of `ssh-add` keeps the law, unless it ends in `update_card`, whose PIN is
the last string read. -/
theorem main_cases (E : Env) (fuel : Nat) (opts : List Opt) (args : List String) :
    Clean (main E fuel opts args {}).state.trace ∨
      ∃ tr n, Clean tr ∧ (main E fuel opts args {}).state.trace =
        tr ++ Ev.read n .pkcs11 :: if (E.answer n).isSome then [.free n] else [] := by
  unfold main
  cases hE : E.agent with
  | notPresent | error => exact .inl Clean.nil
  | ok =>
    obtain ⟨hc, -⟩ := getoptLoop_spec (P := fun _ => True) (E := E) opts {} {} Clean.nil trivial
    dsimp only
    rw [bind_apply]
    generalize getoptLoop E opts {} {} = r at hc ⊢
    cases r with
    | ok r st =>
      rcases r with fl | ret
      · dsimp only
        cases fl.pkcs11provider with
        | some p =>
          obtain ⟨r, hr⟩ := update_card_apply E (!fl.deleting) p st
          dsimp only
          rw [bind_apply, hr]
          exact .inr ⟨st.trace, st.asked, hc, rfl⟩
        | none =>
          dsimp only
          refine .inl ((?_ : Spec (fun _ => True) _ fun (_ : Int) _ => True) st hc trivial).1
          split
          · split
            · exact Spec.pure (Q := fun _ _ => True) fun _ _ => trivial
            · exact (defaultLoop_spec _ _ _ _ _ _).bind fun ⟨_, _⟩ =>
                clear_pass_spec.bind fun _ => Spec.pure fun _ _ => trivial
          · exact (argLoop_spec _ _ _ _).bind fun _ =>
              clear_pass_spec.bind fun _ => Spec.pure fun _ _ => trivial
      · exact .inl hc
    | exit _ st | fault st | running st => exact .inl hc

/-- Over every run of `ssh-add` (any options, files and answers, any number of turns of the
passphrase loop), every string `read_passphrase` returned is zeroed before it is freed or
replaced exactly when no PKCS#11 PIN was read: `update_card` frees a non-`NULL` PIN without
zeroing it. -/
theorem passphrases_zeroed_iff (E : Env) (fuel : Nat) (opts : List Opt) (args : List String) :
    ZeroedFirst (main E fuel opts args {}).state.trace ↔
      ∀ id, Ev.read id .pkcs11 ∈ (main E fuel opts args {}).state.trace → E.answer id = none := by
  rcases main_cases E fuel opts args with hc | ⟨tr, n, hc, htr⟩
  · exact ⟨fun _ id h => absurd h (hc.no_pin id), fun _ => hc.zeroed⟩
  · rw [htr]
    cases ha : E.answer n with
    | none =>
      simp only [Option.isSome_none, Bool.false_eq_true, ↓reduceIte]
      refine ⟨fun _ id hm => ?_, fun _ => hc.zeroed.snoc fun _ h => nomatch h⟩
      rcases List.mem_append.1 hm with hm | hm
      · exact absurd hm (hc.no_pin id)
      · cases List.mem_singleton.1 hm; exact ha
    | some s =>
      simp only [Option.isSome_some, ↓reduceIte]
      exact ⟨fun h => absurd h not_zeroedFirst_read_free,
        fun h => nomatch (h n (by simp)).symm.trans ha⟩

/-- An agent and a user for `ssh-add -s provider`: every prompt is answered "1234". -/
def pinEnv : Env where
  answer _ := some ⟨[0x31, 0x32, 0x33, 0x34], by decide, by decide⟩
  agent := .ok
  load_file _ := none
  parse_private _ _ := .error
  parse_comment _ := none
  add_identity _ _ _ := true
  delete_file _ _ := some 0
  delete_all := 0
  list_identities _ := 0
  update_card _ _ _ _ _ := true
  lock_agent _ _ := true
  convtime _ := 0
  pw_dir := none
  stat _ := false

/-- `ssh-add -s provider` frees the PIN it read without zeroing it. -/
theorem passphrases_zeroed_iff_example :
    ¬ ZeroedFirst (main pinEnv 0 [.s "provider"] [] {}).state.trace := fun h =>
  nomatch (passphrases_zeroed_iff pinEnv 0 [.s "provider"] []).1 h 0 (List.mem_cons_self _ _)

end Libopenssh.SshAdd

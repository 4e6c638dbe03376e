import CoreApi.Foundation.Retry
import CoreApi.Foundation.Json

/-!
# Retries of a transaction

`withTxRetry` looks for the numbers of a deadlock and of a lock wait timeout in
`code`, and in `errno` only where `code` is empty. The driver fills in both, and
its `code` is a name: what it reports is never recognised.
-/

namespace CoreApi.Automation

open CoreApi.Foundation

/-- What the retry test reads of a thrown value; a property it does not have, or one of a
value without properties, is `none`. -/
structure Thrown where
  code : Option Json
  errno : Option Json
  message : String
deriving DecidableEq

/-- The value `undefined`. -/
def Thrown.undefined : Thrown := { code := none, errno := none, message := "undefined" }

/-- `err?.code || err?.errno`. -/
def Thrown.codeOrErrno (err : Thrown) : Option Json :=
  match err.code with
  | some code => if code.truthy then some code else err.errno
  | none => err.errno

/-- `code === 1205 || code === 1213`: a lock wait timeout or a deadlock. -/
def Thrown.isTransient (err : Thrown) : Bool :=
  err.codeOrErrno == some (.num 1205) || err.codeOrErrno == some (.num 1213)

/-- An InnoDB deadlock or lock wait timeout as the driver reports it: a name in `code`, the
number in `errno`. -/
def Thrown.IsReported (err : Thrown) : Prop :=
  (∃ name, err.code = some (.str name) ∧ name ≠ "") ∧
    (err.errno = some (.num 1205) ∨ err.errno = some (.num 1213))

/-- The driver's errors do not pass the retry test. -/
theorem Thrown.IsReported.not_isTransient {err : Thrown} (reported : err.IsReported) :
    err.isTransient = false := by
  obtain ⟨⟨name, isName, nonempty⟩, _⟩ := reported
  have isCode : err.codeOrErrno = some (.str name) := by
    unfold codeOrErrno
    simp [isName, Json.truthy, nonempty]
  unfold isTransient
  rw [isCode]
  rfl

section Retries

variable {σ α : Type}

/-- `ProcessInstantiationService.withTxRetry`; `restore` is what a rollback leaves, and
`elapse` what the rest of the system does in that many milliseconds. -/
def withTxRetry (restore : σ → σ → σ) (elapse : Nat → σ → σ) (fn : Program σ Thrown α)
    (attempts : Nat := 4) : Program σ Thrown α :=
  Program.retry Thrown.isTransient (fun i => elapse (50 * i)) .undefined attempts
    (Program.atomically restore fn)

/-- The rollback and the pauses of a run whose attempts are counted. -/
def restoreCounted (restore : σ → σ → σ) (before after : σ × Nat) : σ × Nat :=
  (restore before.1 after.1, after.2)

/-- The transactions of a body that counts its runs. -/
theorem atomically_counting (restore : σ → σ → σ) (fn : Program σ Thrown α) :
    Program.atomically (restoreCounted restore) (Program.counting fn) =
      Program.counting (Program.atomically restore fn) := by
  funext s
  unfold Program.atomically Program.counting
  rcases run : fn s.1 with ⟨e | value, t⟩
  · simp only [run]
    rfl
  · simp only [run]

/-- The run, with the number of times the body was run. -/
def withTxRetryCounted (restore : σ → σ → σ) (elapse : Nat → σ → σ) (fn : Program σ Thrown α)
    (s : σ) : Except Thrown α × (σ × Nat) :=
  withTxRetry (restoreCounted restore) (Program.uncounted elapse) (Program.counting fn) 4 (s, 0)

variable {restore : σ → σ → σ} {elapse : Nat → σ → σ} {fn : Program σ Thrown α} {s : σ}

/-- The attempts of a run, and their number. -/
theorem withTxRetryCounted_eq :
    withTxRetryCounted restore elapse fn s =
      Program.retry Thrown.isTransient (Program.uncounted fun i => elapse (50 * i)) .undefined 4
        (Program.counting (Program.atomically restore fn)) (s, 0) := by
  unfold withTxRetryCounted withTxRetry
  rw [atomically_counting]
  rfl

variable (restore elapse fn) in
/-- Transient failures of the first attempts are retried, and any other error of the first
attempt is passed on after it. -/
structure RetriesTransients (s : σ) : Prop where
  retried : ∀ k < 4, ∀ t value u,
    Program.FailsFirst Thrown.IsReported (fun i => elapse (50 * i))
      (Program.atomically restore fn) 1 k s t →
    Program.atomically restore fn t = (.ok value, u) →
    withTxRetryCounted restore elapse fn s = (.ok value, (u, k + 1))
  rethrown : ∀ err t, Program.atomically restore fn s = (.error err, t) → ¬ err.IsReported →
    withTxRetryCounted restore elapse fn s = (.error err, (t, 1))

variable (restore elapse fn) in
/-- No retry is called for, and the retry test recognises nothing: no deadlock or lock wait
timeout of the first attempts is followed by an attempt that returns, and the error of the
first attempt does not have the number where the test looks for it. -/
structure NeedsNoRetry (s : σ) : Prop where
  unneeded : ∀ k < 4, ∀ t value u,
    Program.FailsFirst Thrown.IsReported (fun i => elapse (50 * i))
      (Program.atomically restore fn) 1 k s t →
    Program.atomically restore fn t = (.ok value, u) → k = 0
  unrecognised : ∀ err t, Program.atomically restore fn s = (.error err, t) →
    err.isTransient = false

/-- A failure the test does not recognise is passed on after the first attempt. -/
theorem withTxRetryCounted_of_unrecognised {err : Thrown} {t : σ}
    (failed : Program.atomically restore fn s = (.error err, t))
    (unrecognised : err.isTransient = false) :
    withTxRetryCounted restore elapse fn s = (.error err, (t, 1)) := by
  rw [withTxRetryCounted_eq]
  exact Program.retryFrom_of_unrecognised (Program.counting_eq failed) unrecognised

/-- What the driver reports is retried in the runs that call for no retry only. -/
theorem withTxRetry_retries_iff :
    RetriesTransients restore elapse fn s ↔ NeedsNoRetry restore elapse fn s := by
  constructor
  · intro retries
    refine ⟨?_, ?_⟩
    · intro k few t value u failures returned
      have run := retries.retried k few t value u failures returned
      cases failures with
      | none => rfl
      | more failed reported _ =>
          rw [withTxRetryCounted_of_unrecognised failed reported.not_isTransient] at run
          cases run
    · intro err t failed
      cases test : err.isTransient with
      | false => rfl
      | true =>
          have unreported : ¬ err.IsReported := by
            intro reported
            rw [reported.not_isTransient] at test
            cases test
          -- a second attempt is made, and counted
          have run := retries.rethrown err t failed unreported
          rw [withTxRetryCounted_eq, Program.retry,
            Program.retryFrom_of_recognised (Program.counting_eq failed) test (by decide)] at run
          have more := @Program.lt_count σ Thrown α Thrown.isTransient
            (fun i => elapse (50 * i)) .undefined (Program.atomically restore fn) 2 1 2
            (elapse (50 * 1) t)
          have once := congrArg (fun outcome => outcome.2.2) run
          simp only at once
          exact absurd (once ▸ more) (lt_irrefl 1)
  · intro unneeded
    refine ⟨?_, ?_⟩
    · intro k few t value u failures returned
      obtain rfl := unneeded.unneeded k few t value u failures returned
      cases failures with
      | none =>
          rw [withTxRetryCounted_eq]
          exact Program.retryFrom_of_ok (Program.counting_eq returned)
    · intro err t failed _
      exact withTxRetryCounted_of_unrecognised failed (unneeded.unrecognised err t failed)

end Retries

/-- The deadlock of the driver. -/
def deadlock : Thrown where
  code := some (.str "ER_LOCK_DEADLOCK")
  errno := some (.num 1213)
  message := "Deadlock found when trying to get lock; try restarting transaction"

/-- A transaction in the way of that many others; the last one gets through. -/
def contended : Program Nat Thrown Unit := fun others =>
  if others = 0 then (.ok (), 0) else (.error deadlock, others - 1)

/-- The others stay as they are, whatever a rollback restores. -/
def keepOthers (_before after : Nat) : Nat := after

/-- One deadlock: the second attempt would return, and is not made. -/
theorem deadlock_not_retried :
    withTxRetryCounted keepOthers (fun _ others => others) contended 1 =
        (.error deadlock, (0, 1)) ∧
      ¬ RetriesTransients keepOthers (fun _ others => others) contended 1 := by
  refine ⟨by rfl, fun retries => ?_⟩
  have reported : deadlock.IsReported := ⟨⟨_, rfl, by decide⟩, .inr rfl⟩
  have run := retries.retried 1 (by decide) 0 () 0 (.more rfl reported .none) rfl
  cases run

end CoreApi.Automation

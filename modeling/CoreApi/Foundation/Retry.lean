import CoreApi.Foundation.Program

/-!
# Bounded retries

A body is attempted a number of times: an error the test recognises is followed
by a pause and the next attempt, as long as there is one, and any other is passed
on. `FailsFirst` is a run of failures in front of an attempt; a counter beside the
state tells how many attempts a run made.
-/

namespace CoreApi.Foundation.Program

variable {σ ε α : Type}

/-- The attempts from number `i` on, `left` of them. -/
def retryFrom (recognised : ε → Bool) (pause : Nat → σ → σ) (exhausted : ε)
    (body : Program σ ε α) (i : Nat) : Nat → Program σ ε α
  | 0 => raise exhausted
  | left + 1 => attempt body fun e =>
      if recognised e ∧ left ≠ 0 then
        andThen (write (pause i)) fun _ =>
          retryFrom recognised pause exhausted body (i + 1) left
      else raise e

/-- `attempts` attempts, the first of them number 1. -/
def retry (recognised : ε → Bool) (pause : Nat → σ → σ) (exhausted : ε) (attempts : Nat)
    (body : Program σ ε α) : Program σ ε α :=
  retryFrom recognised pause exhausted body 1 attempts

/-- The `k` attempts from number `i` on raise such errors; the next one starts in the state
`t`. -/
inductive FailsFirst (expected : ε → Prop) (pause : Nat → σ → σ) (body : Program σ ε α) :
    Nat → Nat → σ → σ → Prop where
  | none {i s} : FailsFirst expected pause body i 0 s s
  | more {i k s t u e} (failed : body s = (.error e, u)) (isExpected : expected e)
      (others : FailsFirst expected pause body (i + 1) k (pause i u) t) :
      FailsFirst expected pause body i (k + 1) s t

section Runs

variable {recognised : ε → Bool} {pause : Nat → σ → σ} {exhausted : ε} {body : Program σ ε α}
  {i k left : Nat} {s t : σ}

theorem retryFrom_of_ok {value : α} (returned : body s = (.ok value, t)) :
    retryFrom recognised pause exhausted body i (left + 1) s = (.ok value, t) := by
  unfold retryFrom attempt
  rw [returned]

theorem retryFrom_of_recognised {e : ε} (failed : body s = (.error e, t))
    (isRecognised : recognised e = true) (more : left ≠ 0) :
    retryFrom recognised pause exhausted body i (left + 1) s =
      retryFrom recognised pause exhausted body (i + 1) left (pause i t) := by
  rw [retryFrom]
  unfold attempt
  simp only [failed, if_pos (And.intro isRecognised more)]
  rfl

theorem retryFrom_of_unrecognised {e : ε} (failed : body s = (.error e, t))
    (unrecognised : recognised e = false) :
    retryFrom recognised pause exhausted body i (left + 1) s = (.error e, t) := by
  unfold retryFrom attempt
  simp only [failed, unrecognised, Bool.false_eq_true, false_and, if_false]
  rfl

/-- Recognised failures bring a run to the attempt behind them. -/
theorem retryFrom_of_failsFirst
    (failures : FailsFirst (fun e => recognised e = true) pause body i k s t) :
    retryFrom recognised pause exhausted body i (k + (left + 1)) s =
      retryFrom recognised pause exhausted body (i + k) (left + 1) t := by
  induction failures with
  | none =>
      rw [Nat.zero_add]
      rfl
  | @more i k s t u e failed isRecognised _ ih =>
      rw [show k + 1 + (left + 1) = (k + (left + 1)) + 1 by omega,
        retryFrom_of_recognised failed isRecognised (by omega), ih,
        show i + 1 + k = i + (k + 1) by omega]

/-- What the body keeps at either end, and the pauses keep, a run keeps. -/
theorem wp_retryFrom {inv : σ → Prop}
    (keeps : ∀ s, inv s → wp body (fun _ t => inv t) (fun _ t => inv t) s)
    (pauses : ∀ i s, inv s → inv (pause i s)) (holds : inv s) :
    wp (retryFrom recognised pause exhausted body i left) (fun _ t => inv t) (fun _ t => inv t)
      s := by
  induction left generalizing i s with
  | zero => exact holds
  | succ left ih =>
      rw [retryFrom, wp_attempt]
      refine wp_mono (keeps s holds) (fun _ _ kept => kept) ?_
      intro e t kept
      rw [wp_ite, wp_andThen, wp_write, wp_raise]
      exact ⟨fun _ => ih (pauses i t kept), fun _ => kept⟩

end Runs

/-! ## The number of attempts -/

/-- A body that counts its runs beside the state. -/
def counting (body : Program σ ε α) : Program (σ × Nat) ε α := fun s =>
  ((body s.1).1, ((body s.1).2, s.2 + 1))

/-- A pause makes no attempt. -/
def uncounted (pause : Nat → σ → σ) (i : Nat) (s : σ × Nat) : σ × Nat := (pause i s.1, s.2)

section Counts

variable {recognised : ε → Bool} {pause : Nat → σ → σ} {exhausted : ε} {body : Program σ ε α}
  {i k n left : Nat} {s t : σ}

theorem counting_eq {outcome : Except ε α} (run : body s = (outcome, t)) :
    counting body (s, n) = (outcome, (t, n + 1)) := by
  unfold counting
  rw [run]

/-- What is left of a run makes an attempt. -/
theorem lt_count : n < (retryFrom recognised (uncounted pause) exhausted (counting body) i
    (left + 1) (s, n)).2.2 := by
  induction left generalizing i n s with
  | zero =>
      rcases run : body s with ⟨e | value, t⟩
      · unfold retryFrom attempt
        simp only [counting_eq run, ne_eq, not_true_eq_false, and_false, if_false]
        exact Nat.lt_succ_self n
      · rw [retryFrom_of_ok (counting_eq run)]
        exact Nat.lt_succ_self n
  | succ left ih =>
      rcases run : body s with ⟨e | value, t⟩
      · cases test : recognised e with
        | false =>
            rw [retryFrom_of_unrecognised (counting_eq run) test]
            exact Nat.lt_succ_self n
        | true =>
            rw [retryFrom_of_recognised (counting_eq run) test (Nat.succ_ne_zero left)]
            exact Nat.lt_trans (Nat.lt_succ_self n) ih
      · rw [retryFrom_of_ok (counting_eq run)]
        exact Nat.lt_succ_self n

end Counts

end CoreApi.Foundation.Program

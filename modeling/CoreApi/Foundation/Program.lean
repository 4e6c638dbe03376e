/-!
# Programs with state and exceptions

A program runs from a state and either returns a value or raises, and in both
cases it leaves a state behind. `Program.wp` states what every end of a run
satisfies; its rules follow the shape of the program. `Program.atomically` is a
transaction: `restore` decides what survives when the body raises, so that
effects outside the store are not forgotten with the writes that are.
-/

namespace CoreApi.Foundation

/-- A computation that returned went through each of its parts. -/
theorem bind_eq_ok {ε α β : Type} {first : Except ε α} {next : α → Except ε β} {value : β} :
    (first >>= next) = .ok value ↔ ∃ x, first = .ok x ∧ next x = .ok value := by
  rcases first with failure | x
  · exact iff_of_false nofun fun ⟨_, ended, _⟩ => nomatch ended
  · exact ⟨fun ended => ⟨x, rfl, ended⟩, fun ⟨_, same, ended⟩ => by cases same; exact ended⟩

/-- A computation that follows one that returned. -/
theorem ok_bind {ε α β : Type} (value : α) (next : α → Except ε β) :
    (Except.ok value >>= next) = next value := rfl

theorem map_eq_ok {ε α β : Type} {f : α → β} {result : Except ε α} {value : β} :
    f <$> result = .ok value ↔ ∃ x, result = .ok x ∧ f x = value := by
  rcases result with failure | x
  · exact iff_of_false nofun fun ⟨_, returned, _⟩ => nomatch returned
  · exact ⟨fun same => ⟨x, rfl, Except.ok.inj same⟩,
      fun ⟨_, same, isValue⟩ => by cases same; exact congrArg Except.ok isValue⟩

theorem toOption_eq_some {ε α : Type} {result : Except ε α} {value : α} :
    result.toOption = some value ↔ result = .ok value := by
  rcases result with failure | other
  · exact iff_of_false nofun nofun
  · exact ⟨fun same => congrArg Except.ok (Option.some.inj same),
      fun same => congrArg some (Except.ok.inj same)⟩

/-- A computation on each element returns where it does on every one. -/
theorem mapM_eq_ok {ε α β : Type} {check : α → Except ε β} {make : α → β} {valid : α → Prop}
    (checked : ∀ x out, check x = .ok out ↔ valid x ∧ out = make x) {xs : List α}
    {outs : List β} :
    xs.mapM check = .ok outs ↔ (∀ x ∈ xs, valid x) ∧ outs = xs.map make := by
  induction xs generalizing outs with
  | nil =>
      rw [List.mapM_nil]
      exact ⟨fun isEmpty => ⟨nofun, (Except.ok.inj isEmpty).symm⟩, fun isEmpty => isEmpty.2 ▸ rfl⟩
  | cons x rest ih =>
      rw [List.mapM_cons]
      constructor
      · intro isMapped
        obtain ⟨first, isFirst, isMapped⟩ := bind_eq_ok.mp isMapped
        obtain ⟨others, areOthers, isMapped⟩ := bind_eq_ok.mp isMapped
        obtain ⟨firstValid, rfl⟩ := (checked x first).mp isFirst
        obtain ⟨othersValid, rfl⟩ := ih.mp areOthers
        exact ⟨List.forall_mem_cons.mpr ⟨firstValid, othersValid⟩, (Except.ok.inj isMapped).symm⟩
      · rintro ⟨areValid, rfl⟩
        obtain ⟨firstValid, othersValid⟩ := List.forall_mem_cons.mp areValid
        rw [(checked x (make x)).mpr ⟨firstValid, rfl⟩,
          ih.mpr ⟨othersValid, rfl⟩]
        rfl

/-- What a computation on each element returns is returned for one of them. -/
theorem exists_of_mapM {ε α β : Type} {check : α → Except ε β} {xs : List α} {outs : List β}
    (isMapped : xs.mapM check = .ok outs) {x : α} (member : x ∈ xs) :
    ∃ out ∈ outs, check x = .ok out := by
  induction xs generalizing outs with
  | nil => cases member
  | cons first rest ih =>
      rw [List.mapM_cons] at isMapped
      obtain ⟨out, isOut, isMapped⟩ := bind_eq_ok.mp isMapped
      obtain ⟨others, areOthers, isMapped⟩ := bind_eq_ok.mp isMapped
      cases isMapped
      rcases List.mem_cons.mp member with rfl | member
      · exact ⟨out, List.mem_cons_self, isOut⟩
      · obtain ⟨found, inOthers, isFound⟩ := ih areOthers member
        exact ⟨found, List.mem_cons_of_mem out inOthers, isFound⟩

/-- A computation on each element that keeps its label keeps the labels of all of them. -/
theorem labels_of_mapM {ε α β κ : Type} {check : α → Except ε β} {label : α → κ} {labelOut : β → κ}
    (keeps : ∀ x out, check x = .ok out → labelOut out = label x) {xs : List α} {outs : List β}
    (isMapped : xs.mapM check = .ok outs) : outs.map labelOut = xs.map label := by
  induction xs generalizing outs with
  | nil =>
      rw [List.mapM_nil] at isMapped
      cases isMapped
      rfl
  | cons first rest ih =>
      rw [List.mapM_cons] at isMapped
      obtain ⟨out, isOut, isMapped⟩ := bind_eq_ok.mp isMapped
      obtain ⟨others, areOthers, isMapped⟩ := bind_eq_ok.mp isMapped
      cases isMapped
      rw [List.map_cons, List.map_cons, keeps first out isOut, ih areOthers]

/-- Wording the errors of a computation otherwise leaves what it returns. -/
theorem mapError_eq_ok {ε ε' α : Type} {result : Except ε α} {reword : ε → ε'} {value : α} :
    result.mapError reword = .ok value ↔ result = .ok value := by
  rcases result with failure | other
  · exact iff_of_false nofun nofun
  · exact ⟨fun same => congrArg Except.ok (Except.ok.inj same),
      fun same => congrArg Except.ok (Except.ok.inj same)⟩

/-- A program over `σ` that returns an `α` or raises an `ε`. -/
def Program (σ ε α : Type) : Type := σ → Except ε α × σ

namespace Program

variable {σ ε α β : Type}

/-- Return a value and leave the state alone. -/
def result (value : α) : Program σ ε α := fun s => (.ok value, s)

/-- Run `first`, and continue with its value unless it raised. -/
def andThen (first : Program σ ε α) (next : α → Program σ ε β) : Program σ ε β := fun s =>
  match first s with
  | (.ok value, t) => next value t
  | (.error e, t) => (.error e, t)

instance : Monad (Program σ ε) where
  pure := result
  bind := andThen

/-- Raise `e`; nothing after it runs. -/
def raise (e : ε) : Program σ ε α := fun s => (.error e, s)

/-- Look at the state. -/
def read (view : σ → α) : Program σ ε α := fun s => (.ok (view s), s)

/-- Replace the state. -/
def write (update : σ → σ) : Program σ ε Unit := fun s => (.ok (), update s)

/-- Replace the state and return what the update reports. -/
def writeReturning (update : σ → α × σ) : Program σ ε α := fun s =>
  (.ok (update s).1, (update s).2)

/-- Lift a pure computation that may raise. -/
def lift : Except ε α → Program σ ε α
  | .ok value => result value
  | .error e => raise e

/-- Run `body` when the condition holds. -/
def when (c : Prop) [Decidable c] (body : Program σ ε Unit) : Program σ ε Unit :=
  if c then body else result ()

/-- Run `body` on every element, in order, until one raises. -/
def forEach (body : β → Program σ ε Unit) : List β → Program σ ε Unit
  | [] => result ()
  | x :: rest => andThen (body x) fun _ => forEach body rest

/-- Run `body`, and `handler` on what it raised; the writes of `body` stay. -/
def attempt (body : Program σ ε α) (handler : ε → Program σ ε α) : Program σ ε α := fun s =>
  match body s with
  | (.ok value, t) => (.ok value, t)
  | (.error e, t) => handler e t

/-- Run `body` as one transaction: when it raises, `restore before after` is the
state that remains, and the exception is passed on. -/
def atomically (restore : σ → σ → σ) (body : Program σ ε α) : Program σ ε α := fun s =>
  match body s with
  | (.ok value, t) => (.ok value, t)
  | (.error e, t) => (.error e, restore s t)

/-- Run a program on a part of the state. -/
def within {τ : Type} (view : τ → σ) (put : σ → τ → τ) (program : Program σ ε α) :
    Program τ ε α := fun t =>
  ((program (view t)).1, put (program (view t)).2 t)

/-- Every end of a run from `s` satisfies `ok` on return and `err` on a raise. -/
def wp (program : Program σ ε α) (ok : α → σ → Prop) (err : ε → σ → Prop) (s : σ) : Prop :=
  match program s with
  | (.ok value, t) => ok value t
  | (.error e, t) => err e t

section Rules

variable {ok : α → σ → Prop} {err : ε → σ → Prop} {s : σ}

@[simp] theorem wp_result (value : α) : wp (result value) ok err s ↔ ok value s := Iff.rfl

@[simp] theorem wp_pure (value : α) :
    wp (pure value : Program σ ε α) ok err s ↔ ok value s := Iff.rfl

@[simp] theorem wp_raise (e : ε) : wp (raise e : Program σ ε α) ok err s ↔ err e s := Iff.rfl

@[simp] theorem wp_read (view : σ → α) :
    wp (read view : Program σ ε α) ok err s ↔ ok (view s) s := Iff.rfl

@[simp] theorem wp_write (update : σ → σ) (ok : Unit → σ → Prop) :
    wp (write update : Program σ ε Unit) ok err s ↔ ok () (update s) := Iff.rfl

@[simp] theorem wp_writeReturning (update : σ → α × σ) :
    wp (writeReturning update : Program σ ε α) ok err s ↔ ok (update s).1 (update s).2 :=
  Iff.rfl

theorem wp_andThen (first : Program σ ε α) (next : α → Program σ ε β) (ok : β → σ → Prop) :
    wp (andThen first next) ok err s ↔
      wp first (fun value t => wp (next value) ok err t) err s := by
  unfold wp andThen
  rcases first s with ⟨_ | _, _⟩ <;> rfl

@[simp] theorem wp_bind (first : Program σ ε α) (next : α → Program σ ε β)
    (ok : β → σ → Prop) :
    wp (first >>= next) ok err s ↔
      wp first (fun value t => wp (next value) ok err t) err s :=
  wp_andThen first next ok

@[simp] theorem wp_ite (c : Prop) [Decidable c] (yes no : Program σ ε α) :
    wp (if c then yes else no) ok err s ↔
      (c → wp yes ok err s) ∧ (¬ c → wp no ok err s) := by
  split <;> simp_all

@[simp] theorem wp_when (c : Prop) [Decidable c] (body : Program σ ε Unit)
    (ok : Unit → σ → Prop) :
    wp (when c body) ok err s ↔ (c → wp body ok err s) ∧ (¬ c → ok () s) := by
  unfold when
  split <;> simp_all

@[simp] theorem wp_lift_ok (value : α) :
    wp (lift (.ok value) : Program σ ε α) ok err s ↔ ok value s := Iff.rfl

@[simp] theorem wp_lift_error (e : ε) :
    wp (lift (.error e) : Program σ ε α) ok err s ↔ err e s := Iff.rfl

@[simp] theorem wp_attempt (body : Program σ ε α) (handler : ε → Program σ ε α) :
    wp (attempt body handler) ok err s ↔
      wp body ok (fun e t => wp (handler e) ok err t) s := by
  unfold wp attempt
  rcases body s with ⟨_ | _, _⟩ <;> rfl

@[simp] theorem wp_atomically (restore : σ → σ → σ) (body : Program σ ε α) :
    wp (atomically restore body) ok err s ↔
      wp body ok (fun e t => err e (restore s t)) s := by
  unfold wp atomically
  rcases body s with ⟨_ | _, _⟩ <;> rfl

theorem wp_within {τ : Type} (view : τ → σ) (put : σ → τ → τ) (program : Program σ ε α)
    {ok : α → τ → Prop} {err : ε → τ → Prop} {t : τ} :
    wp (within view put program) ok err t ↔
      wp program (fun value s => ok value (put s t)) (fun e s => err e (put s t)) (view t) := by
  unfold wp within
  rcases program (view t) with ⟨_ | _, _⟩ <;> rfl

/-- Postconditions may be weakened. -/
theorem wp_mono {ok' : α → σ → Prop} {err' : ε → σ → Prop} {program : Program σ ε α}
    (holds : wp program ok err s)
    (onReturn : ∀ value t, ok value t → ok' value t)
    (onRaise : ∀ e t, err e t → err' e t) : wp program ok' err' s := by
  unfold wp at holds ⊢
  rcases run : program s with ⟨_ | _, t⟩
  · rw [run] at holds
    exact onRaise _ _ holds
  · rw [run] at holds
    exact onReturn _ _ holds

/-- What a postcondition says of a run that returned. -/
theorem wp_ok {program : Program σ ε α} (holds : wp program ok err s) {value : α} {t : σ}
    (run : program s = (.ok value, t)) : ok value t := by
  unfold wp at holds
  rwa [run] at holds

/-- What a postcondition says of a run that raised. -/
theorem wp_error {program : Program σ ε α} (holds : wp program ok err s) {e : ε} {t : σ}
    (run : program s = (.error e, t)) : err e t := by
  unfold wp at holds
  rwa [run] at holds

/-- What both postconditions say of the state a run ends in. -/
theorem wp_end (holdsAt : σ → Prop) {program : Program σ ε α}
    (holds : wp program (fun _ t => holdsAt t) (fun _ t => holdsAt t) s) :
    holdsAt (program s).2 := by
  unfold wp at holds
  rcases run : program s with ⟨_ | _, t⟩ <;> rw [run] at holds <;> exact holds

/-- Two postconditions of one program hold together. -/
theorem wp_and {ok' : α → σ → Prop} {err' : ε → σ → Prop} {program : Program σ ε α}
    (first : wp program ok err s) (second : wp program ok' err' s) :
    wp program (fun value t => ok value t ∧ ok' value t)
      (fun e t => err e t ∧ err' e t) s := by
  unfold wp at first second ⊢
  rcases run : program s with ⟨_ | _, t⟩ <;> rw [run] at first second <;> exact ⟨first, second⟩

/-- Every program ends somewhere. -/
theorem wp_trivial (program : Program σ ε α) :
    wp program (fun _ _ => True) (fun _ _ => True) s := by
  unfold wp
  rcases program s with ⟨_ | _, _⟩ <;> trivial

/-- A run ends as the program does. -/
theorem wp_run (program : Program σ ε α) :
    wp program (fun value t => program s = (.ok value, t))
      (fun e t => program s = (.error e, t)) s := by
  unfold wp
  rcases program s with ⟨_ | _, _⟩ <;> rfl

/-- The run returns. -/
def Returns (program : Program σ ε α) (s : σ) : Prop := ∃ value, (program s).1 = .ok value

theorem returns_iff {program : Program σ ε α} :
    program.Returns s ↔ wp program (fun _ _ => True) (fun _ _ => False) s := by
  unfold Returns wp
  rcases program s with ⟨_ | value, _⟩
  · exact iff_of_false nofun id
  · exact iff_of_true ⟨value, rfl⟩ trivial

theorem returns_of_isOk {program : Program σ ε α} (isOk : (program s).1.isOk = true) :
    program.Returns s := by
  rcases run : (program s).1 with e | value
  · rw [run] at isOk
    exact absurd isOk (by simp [Except.isOk, Except.toBool])
  · exact ⟨value, run⟩

/-- A value that is not looked at leaves the state of the run. -/
theorem state_of_discarded (program : Program σ ε α) (s : σ) :
    ((do let _ ← program : Program σ ε Unit) s).2 = (program s).2 := by
  change (andThen program (fun _ => result ()) s).2 = _
  unfold andThen
  rcases program s with ⟨_ | _, _⟩ <;> rfl

/-- What is returned, whatever is done before. -/
theorem wp_returns {first : Program σ ε α} {value : α → β} {holds : β → Prop}
    (all : ∀ x, holds (value x)) :
    wp (first >>= fun x => pure (value x)) (fun y _ => holds y) (fun _ _ => True) s := by
  rw [wp_bind]
  exact wp_mono (wp_trivial first) (fun x _ _ => all x) (fun _ _ _ => trivial)

/-- A loop keeps an invariant that every iteration keeps, whether it returns or
raises. The invariant may mention the elements still to come. -/
theorem wp_forEach {body : β → Program σ ε Unit} (inv : List β → σ → Prop) :
    ∀ (xs : List β) (s : σ), inv xs s →
      (∀ x rest t, inv (x :: rest) t → wp (body x) (fun _ u => inv rest u) err t) →
      wp (forEach body xs) (fun _ t => inv [] t) err s := by
  intro xs
  induction xs with
  | nil => intro s start _; exact start
  | cons x rest ih =>
      intro s start each
      rw [forEach, wp_andThen]
      refine wp_mono (each x rest s start) ?_ (fun _ _ h => h)
      intro _ t kept
      exact ih t kept each

end Rules

end Program

end CoreApi.Foundation

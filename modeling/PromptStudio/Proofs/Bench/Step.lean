import PromptStudio.Studio.Desk

/-!
# Steps and their results

A step applied to a state is its result with the state after it. The lemmas say how steps put
together act on a state, so that later proofs run a step and never open the monad it lives in.
-/

namespace PromptStudio

section

variable {ε ε' α : Type}

@[simp]
theorem mapError_ok (f : ε → ε') (a : α) : (Except.ok a).mapError f = .ok a := rfl

@[simp]
theorem mapError_error (f : ε → ε') (e : ε) :
    (Except.error e : Except ε α).mapError f = .error (f e) := rfl

theorem isOk_iff {r : Except ε α} : r.isOk = true ↔ ∃ a, r = .ok a := by
  cases r <;> simp [Except.isOk, Except.toBool]

theorem eq_ok_of_toOption {r : Except ε α} {a : α} (h : r.toOption = some a) : r = .ok a := by
  cases r with
  | error e => cases h
  | ok a' => rw [Option.some.inj h]

end

namespace Step

variable {σ α γ : Type}

theorem bind_apply (x : Step σ α) (f : α → Step σ γ) (s : σ) :
    (x >>= f) s = match x s with
      | (.ok a, s) => f a s
      | (.error fault, s) => (.error fault, s) := by
  change ExceptT.bindCont f (x s).1 (x s).2 = _
  rcases x s with ⟨_ | _, _⟩ <;> rfl

@[simp]
theorem pure_apply (a : α) (s : σ) : (pure a : Step σ α) s = (.ok a, s) := rfl

@[simp]
theorem throw_apply (fault : Fault) (s : σ) : (throw fault : Step σ α) s = (.error fault, s) := rfl

@[simp]
theorem get_apply (s : σ) : (get : Step σ σ) s = (.ok s, s) := rfl

@[simp]
theorem modify_apply (f : σ → σ) (s : σ) : (modify f : Step σ PUnit) s = (.ok ⟨⟩, f s) := rfl

@[simp]
theorem set_apply (s s' : σ) : (set s' : Step σ PUnit) s = (.ok ⟨⟩, s') := rfl

@[simp]
theorem orFail_apply (r : Except Fault α) (s : σ) : (orFail r : Step σ α) s = (r, s) := rfl

@[simp]
theorem outcome_apply (x : Step σ α) (s : σ) : outcome x s = (.ok (x s).1, (x s).2) := rfl

variable {f : α → Step σ γ} {x : Step σ α}

theorem bind_of_ok {s s' : σ} {a : α} (h : x s = (.ok a, s')) : (x >>= f) s = f a s' := by
  rw [bind_apply, h]

theorem get_bind (g : σ → Step σ γ) (s : σ) : (get >>= g) s = g s s := bind_of_ok (get_apply s)

theorem orFail_bind (a : α) (s : σ) : (orFail (.ok a) >>= f) s = f a s :=
  bind_of_ok (orFail_apply (.ok a) s)

theorem outcome_bind (g : Except Fault α → Step σ γ) (s : σ) :
    (outcome x >>= g) s = g (x s).1 (x s).2 := bind_of_ok (outcome_apply x s)

theorem bind_of_error {s s' : σ} {fault : Fault} (h : x s = (.error fault, s')) :
    (x >>= f) s = (.error fault, s') := by
  rw [bind_apply, h]

theorem eq_of_toOption {s : σ} {a : α} (h : (x s).1.toOption = some a) :
    x s = (.ok a, (x s).2) := Prod.ext (eq_ok_of_toOption h) rfl

theorem bind_eq_ok {s s'' : σ} {c : γ} (h : (x >>= f) s = (.ok c, s'')) :
    ∃ a s', x s = (.ok a, s') ∧ f a s' = (.ok c, s'') := by
  rw [bind_apply] at h
  split at h
  · rename_i a s' heq
    exact ⟨a, s', heq, h⟩
  · cases h

theorem bind_keeps {s : σ} {Inv : σ → Prop} (hx : Inv (x s).2) (hf : ∀ a s, Inv s → Inv (f a s).2) :
    Inv ((x >>= f) s).2 := by
  rw [bind_apply]
  split
  · rename_i a s' heq
    exact hf a s' (by simpa [heq] using hx)
  · rename_i fault s' heq
    simpa [heq] using hx

end Step

theorem liftM_bench {α : Type} (x : BenchStep α) : (liftM x : DeskStep α) = onBench x := rfl

theorem onBench_apply {α : Type} (x : BenchStep α) (d : Desk) :
    onBench x d = ((x d.bench).1, { d with bench := (x d.bench).2 }) := rfl

theorem onBench_eq {α : Type} {x : BenchStep α} {d : Desk} {r : Except Fault α} {b : Bench}
    (h : x d.bench = (r, b)) : onBench x d = (r, { d with bench := b }) := by
  rw [onBench_apply, h]

theorem onBench_refreshWindow_apply (window : Nat) (d : Desk) :
    onBench (refreshWindow window) d = ((d.bench.refresh window).elim (.ok ()) .error, d) := by
  rw [onBench_apply, refreshWindow, Step.get_bind]
  cases d.bench.refresh window <;> rfl

end PromptStudio

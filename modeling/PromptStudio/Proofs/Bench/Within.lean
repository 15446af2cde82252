import Mathlib.Order.Defs.Unbundled
import PromptStudio.Proofs.Bench.Step

/-!
# What steps keep and what they return

What a step may change is said by a relation between the states before and after it. Where the
relation is a preorder, a step stays within it if all its parts do, whatever faults end it early.
What a step returns is said by a predicate, whatever the state, and so is that it succeeds.
-/

namespace PromptStudio.Step

variable {σ α γ : Type} {R : σ → σ → Prop}

/-- What is read from both states is the same. -/
def Same (read : σ → γ) (s s' : σ) : Prop := read s' = read s

theorem Same.eq {read : σ → γ} {s s' : σ} (h : Same read s s') : read s' = read s := h

instance (read : σ → γ) : IsPreorder σ (Same read) where
  refl _ := rfl
  trans _ _ _ h h' := Eq.trans h' h

/-- What holds of the first state holds of the second. -/
def Keeps (P : σ → Prop) (s s' : σ) : Prop := P s → P s'

instance (P : σ → Prop) : IsPreorder σ (Keeps P) where
  refl _ := id
  trans _ _ _ h h' hs := h' (h hs)

/-- The states before and after a step are related, also if the step ends in a fault. -/
def Within (R : σ → σ → Prop) (x : Step σ α) : Prop := ∀ s, R s (x s).2

theorem Within.mono {R' : σ → σ → Prop} {x : Step σ α} (h : Within R x)
    (hle : ∀ s s', R s s' → R' s s') : Within R' x := fun s => hle _ _ (h s)

theorem Within.of_eq {x : Step σ α} {r : Except Fault α} {s s' : σ} (hx : Within R x)
    (h : x s = (r, s')) : R s s' := by
  have hs := hx s
  rwa [h] at hs

theorem within_modify {f : σ → σ} (h : ∀ s, R s (f s)) : Within R (modify f : Step σ PUnit) := h

theorem within_get_bind {f : σ → Step σ γ} (h : ∀ s, R s (f s s).2) :
    Within R (get >>= f) := by
  intro s
  rw [bind_of_ok (get_apply s)]
  exact h s

theorem Within.outcome {x : Step σ α} (hx : Within R x) :
    Within R (PromptStudio.outcome x) := hx

theorem Within.ite {c : Prop} [Decidable c] {x y : Step σ α} (hx : Within R x)
    (hy : Within R y) : Within R (if c then x else y) := by
  split
  · exact hx
  · exact hy

/-! ### What steps return -/

/-- From a state as described by `P`, a step that succeeds gives a result and a state as described
by `Q`. -/
def Triple (P : σ → Prop) (x : Step σ α) (Q : α → σ → Prop) : Prop :=
  ∀ s, P s → ∀ a s', x s = (.ok a, s') → Q a s'

section

variable {P : σ → Prop} {Q : α → σ → Prop} {T : γ → σ → Prop} {x y : Step σ α}
  {f : α → Step σ γ}

theorem triple_pure {a : α} (h : ∀ s, P s → Q a s) : Triple P (pure a) Q := by
  rintro s hs b s' heq
  cases heq
  exact h s hs

theorem triple_throw (fault : Fault) : Triple P (throw fault) Q := by
  rintro s hs b s' heq
  cases heq

theorem triple_get_bind {f : σ → Step σ γ} (h : ∀ s, P s → Triple (· = s) (f s) T) :
    Triple P (get >>= f) T := by
  intro s hs c s' heq
  rw [bind_of_ok (get_apply s)] at heq
  exact h s hs s rfl c s' heq

theorem Triple.of_imp {P' : σ → Prop} (h : Triple P x Q) (himp : ∀ s, P' s → P s) :
    Triple P' x Q := fun s hs => h s (himp s hs)

theorem triple_modify {g : σ → σ} {Q : PUnit → σ → Prop} (h : ∀ s, P s → Q ⟨⟩ (g s)) :
    Triple P (modify g : Step σ PUnit) Q := by
  rintro s hs b s' heq
  cases heq
  exact h s hs

theorem Triple.bind (hx : Triple P x Q) (hf : ∀ a, Triple (Q a) (f a) T) :
    Triple P (x >>= f) T := by
  intro s hs c s'' h
  obtain ⟨a, s', hfirst, hrest⟩ := bind_eq_ok h
  exact hf a s' (hx s hs a s' hfirst) c s'' hrest

theorem Triple.ite {c : Prop} [Decidable c] (hx : Triple P x Q) (hy : Triple P y Q) :
    Triple P (if c then x else y) Q := by
  split
  · exact hx
  · exact hy

theorem Within.triple (h : Within (Keeps P) x) : Triple P x fun _ => P := by
  intro s hs a s' heq
  have hafter := h s hs
  rwa [heq] at hafter

/-- Every result of a step is as described, whatever the state. -/
abbrev Returns (Q : α → Prop) (x : Step σ α) : Prop := Triple (fun _ => True) x fun a _ => Q a

theorem returns_orFail (r : Except Fault α) : Returns (r = .ok ·) (orFail r : Step σ α) :=
  fun _ _ _ _ heq => congrArg Prod.fst heq

theorem returns_bind {T : γ → Prop} (hf : ∀ a, Returns T (f a)) : Returns T (x >>= f) :=
  Triple.bind (Q := fun _ _ => True) (fun _ _ _ _ _ => trivial) hf

theorem Triple.imp {Q' : α → σ → Prop} (h : Triple P x Q) (himp : ∀ a s, Q a s → Q' a s) :
    Triple P x Q' := fun s hs a s' heq => himp a s' (h s hs a s' heq)

theorem Returns.outcome {Q : α → Prop} (h : Returns Q x) :
    Returns (fun r => ∀ a, r = .ok a → Q a) (PromptStudio.outcome x) := by
  rintro s - r s' heq a rfl
  rw [outcome_apply] at heq
  exact h s trivial a _ (Prod.ext (Except.ok.inj (Prod.mk.inj heq).1) rfl)

end

/-! ### Steps that succeed -/

section

variable {P : σ → Prop} {Q : α → σ → Prop} {T : γ → σ → Prop} {x : Step σ α} {f : α → Step σ γ}

/-- From a state as described by `P` a step succeeds, and gives a result and a state as described by
`Q`. -/
def Succeeds (P : σ → Prop) (x : Step σ α) (Q : α → σ → Prop) : Prop :=
  ∀ s, P s → ∃ a s', x s = (.ok a, s') ∧ Q a s'

theorem succeeds_pure {a : α} (h : ∀ s, P s → Q a s) : Succeeds P (pure a) Q :=
  fun s hs => ⟨a, s, rfl, h s hs⟩

theorem Succeeds.bind (hx : Succeeds P x Q) (hf : ∀ a, Succeeds (Q a) (f a) T) :
    Succeeds P (x >>= f) T := by
  intro s hs
  obtain ⟨a, s', hfirst, ha⟩ := hx s hs
  obtain ⟨c, s'', hrest, hc⟩ := hf a s' ha
  exact ⟨c, s'', (bind_of_ok hfirst).trans hrest, hc⟩

theorem Succeeds.bind_eq {a : α} (hx : ∀ s, P s → x s = (.ok a, s)) (hf : Succeeds P (f a) T) :
    Succeeds P (x >>= f) T := by
  intro s hs
  rw [bind_of_ok (hx s hs)]
  exact hf s hs

end

/-! ### Steps within a preorder -/

variable [IsPreorder σ R]

theorem within_pure (a : α) : Within R (pure a : Step σ α) := fun s => refl_of R s

theorem within_throw (fault : Fault) : Within R (throw fault : Step σ α) := fun s => refl_of R s

theorem within_get : Within R (get : Step σ σ) := fun s => refl_of R s

theorem within_orFail (r : Except Fault α) : Within R (orFail r : Step σ α) :=
  fun s => refl_of R s

theorem Within.bind {x : Step σ α} {f : α → Step σ γ} (hx : Within R x) (hf : ∀ a, Within R (f a)) :
    Within R (x >>= f) :=
  fun s => bind_keeps (hx s) fun a s' hs => trans_of R hs (hf a s')

theorem within_rest {x : Step σ α} {f : α → Step σ γ} (hf : ∀ a, Within R (f a))
    (s : σ) : R (x s).2 ((x >>= f) s).2 :=
  bind_keeps (refl_of R _) fun a s' h => trans_of R h (hf a s')

theorem within_mapM {f : α → Step σ γ} (hf : ∀ a, Within R (f a)) (as : List α) :
    Within R (as.mapM f) := by
  induction as with
  | nil => exact within_pure []
  | cons a as ih =>
    rw [List.mapM_cons]
    exact (hf a).bind fun c => ih.bind fun cs => within_pure (c :: cs)

end PromptStudio.Step

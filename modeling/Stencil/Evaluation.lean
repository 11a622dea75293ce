import Stencil.RenderError

/-! Computations that may fail and that tell which accessors of host objects they called, in order, also
when they fail. -/

set_option autoImplicit false

namespace Stencil

structure Call where
  object : Nat
  accessor : String
  deriving DecidableEq, Repr

structure Evaluation (α : Type) where
  calls : List Call
  outcome : Except RenderError α

namespace Evaluation

variable {α β γ : Type}

def value (a : α) : Evaluation α := ⟨[], .ok a⟩

def fail (error : RenderError) : Evaluation α := ⟨[], .error error⟩

/-- A first computation and, if it gives a value, a second one from that value. -/
def andThen (x : Evaluation α) (f : α → Evaluation β) : Evaluation β :=
  match x.outcome with
  | .ok a => ⟨x.calls ++ (f a).calls, (f a).outcome⟩
  | .error e => ⟨x.calls, .error e⟩

instance : Monad Evaluation where
  pure := value
  bind := andThen

def ofHost (outcome : Except HostFailure α) : Evaluation α := ⟨[], outcome.mapError HostFailure.toRenderError⟩

/-- The same computation, in which a name that cannot be looked up is no failure. -/
def orMissing (x : Evaluation α) : Evaluation (Option α) :=
  match x.outcome with
  | .ok a => ⟨x.calls, .ok (some a)⟩
  | .error (.missing ..) => ⟨x.calls, .ok none⟩
  | .error e => ⟨x.calls, .error e⟩

@[ext] theorem ext {x y : Evaluation α} (calls : x.calls = y.calls) (outcome : x.outcome = y.outcome) : x = y := by
  cases x; cases y; cases calls; cases outcome; rfl

@[simp] theorem pure_eq (a : α) : (pure a : Evaluation α) = ⟨[], .ok a⟩ := rfl

theorem bind_ok {x : Evaluation α} {a : α} (h : x.outcome = .ok a) (f : α → Evaluation β) :
    x >>= f = ⟨x.calls ++ (f a).calls, (f a).outcome⟩ := by
  change andThen x f = _
  rw [andThen, h]

theorem bind_error {x : Evaluation α} {e : RenderError} (h : x.outcome = .error e) (f : α → Evaluation β) :
    x >>= f = ⟨x.calls, .error e⟩ := by
  change andThen x f = _
  rw [andThen, h]

theorem bind_assoc (x : Evaluation α) (f : α → Evaluation β) (g : β → Evaluation γ) :
    (x >>= f) >>= g = x >>= fun a => f a >>= g := by
  rcases h : x.outcome with e | a
  · rw [bind_error h, bind_error h, bind_error rfl]
  · rw [bind_ok h, bind_ok h]
    rcases k : (f a).outcome with e | b
    · rw [bind_error k, bind_error rfl]
    · rw [bind_ok k, bind_ok rfl, List.append_assoc]

theorem id_map (x : Evaluation α) : id <$> x = x := by
  change andThen x (fun a => value (id a)) = x
  rcases h : x.outcome with e | a
  · rw [andThen, h]; exact ext rfl h.symm
  · rw [andThen, h]; exact ext (List.append_nil _) h.symm

instance : LawfulMonad Evaluation :=
  .mk' Evaluation id_map (fun a f => by rw [bind_ok rfl]; rfl) bind_assoc

end Evaluation

end Stencil

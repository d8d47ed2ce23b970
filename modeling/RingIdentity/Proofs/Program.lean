import RingIdentity.Proofs.Registry.Invariant
import RingIdentity.Registry.Access
/-! # Programs as trees of calls

The identity logic is written for any monad.  Run in `Prog`, it becomes a tree of calls: a
program has finished with a value, or it makes a call and continues with whatever the call
answers.  The tree shows every call a program makes, in the order it makes them, and leaves
each answer to the environment; a property of the tree is a property of every behaviour of the
environment at once.

`RegistryProg` is the environment of a node racing others on a shared registry: its only calls
are the registry's, and the registry answers them (`Registry.serve`) in whatever order a
scheduler picks.
-/
namespace RingIdentity

/-- A program making calls `q : Q`, each answered by a value of `A q`. -/
inductive Prog (Q : Type) (A : Q → Type) (α : Type) : Type where
  /-- The program has finished with a value. -/
  | done (a : α)
  /-- The program makes a call and continues with its answer. -/
  | call (q : Q) (k : A q → Prog Q A α)

namespace Prog

variable {Q : Type} {A : Q → Type} {α β γ : Type}

/-- Runs a program, then continues from its value. -/
def bind : Prog Q A α → (α → Prog Q A β) → Prog Q A β
  | done a, f => f a
  | call q k, f => call q fun x => (k x).bind f

instance : Monad (Prog Q A) where
  pure := done
  bind := bind

@[simp] theorem pure_eq_done (a : α) : (pure a : Prog Q A α) = done a := rfl

@[simp] theorem done_bind (a : α) (f : α → Prog Q A β) : done a >>= f = f a := rfl

@[simp] theorem call_bind (q : Q) (k : A q → Prog Q A α) (f : α → Prog Q A β) :
    call q k >>= f = call q fun x => k x >>= f := rfl

theorem bind_done (p : Prog Q A α) : p >>= done = p := by
  induction p with
  | done a => rfl
  | call q k ih => simp only [call_bind, ih]

theorem bind_bind (p : Prog Q A α) (f : α → Prog Q A β) (g : β → Prog Q A γ) :
    p >>= f >>= g = p >>= fun a => f a >>= g := by
  induction p with
  | done a => rfl
  | call q k ih => simp only [call_bind, ih]

instance : LawfulMonad (Prog Q A) :=
  LawfulMonad.mk' _ (fun p => bind_done p) (fun _ _ => rfl) bind_bind

/-- The registry reached through calls of a program, one per operation. -/
def registryVia (lift : (c : RegistryCall) → Prog Q A c.Answer) : RegistryAccess (Prog Q A) where
  allIds app := lift (.allIds app)
  get app rac i := lift (.get app rac i)
  register r := lift (.register r)
  update c r := lift (.update c r)
  delete r := lift (.delete r)

end Prog

/-- Programs whose only calls are registry calls. -/
abbrev RegistryProg := Prog RegistryCall RegistryCall.Answer

/-- The registry as a racing node sees it: every operation is one call. -/
def RegistryProg.registry : RegistryAccess RegistryProg := Prog.registryVia fun c => .call c .done

end RingIdentity

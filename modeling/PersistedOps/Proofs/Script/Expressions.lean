import PersistedOps.Script.Syntax

/-!
Induction over expressions, together with the lists of expressions in displays and calls and the parts
of dictionary displays.
-/

namespace PersistedOps.Script

/-- What is shown of every expression from its parts, along with its lists and its dictionary parts. -/
theorem Expr.induction {P : Expr → Prop} {Q : List Expr → Prop}
    {R : List (Option Expr × Expr) → Prop}
    (literal : ∀ l v, P (.literal l v))
    (name : ∀ l n, P (.name l n))
    (list : ∀ l items, Q items → P (.list l items))
    (tuple : ∀ l items, Q items → P (.tuple l items))
    (dict : ∀ l parts, R parts → P (.dict l parts))
    (subscript : ∀ l container key, P container → P key → P (.subscript l container key))
    (call : ∀ l function arguments keywords, (∀ a ∈ arguments, P a) →
      P (.call l function arguments keywords))
    (negate : ∀ l operand, P operand → P (.negate l operand))
    (add : ∀ l left right, P left → P right → P (.add l left right))
    (starred : ∀ l value, P (.starred l value))
    (other : ∀ l kind, P (.other l kind))
    (nil : Q [])
    (cons : ∀ e rest, P e → Q rest → Q (e :: rest))
    (done : R [])
    (unpack : ∀ value rest, P value → R rest → R ((none, value) :: rest))
    (entry : ∀ key value rest, P key → P value → R rest → R ((some key, value) :: rest))
    (e : Expr) : P e :=
  Expr.rec (motive_1 := P) (motive_2 := fun es => Q es ∧ ∀ e ∈ es, P e) (motive_3 := R)
    (motive_4 := fun part => ∀ rest, R rest → R (part :: rest))
    (motive_5 := fun key => ∀ value rest, P value → R rest → R ((key, value) :: rest))
    literal name
    (fun l items hitems => list l items hitems.1)
    (fun l items hitems => tuple l items hitems.1)
    dict subscript
    (fun l function arguments keywords _ harguments =>
      call l function arguments keywords harguments.2)
    negate add (fun l value _ => starred l value) other
    ⟨nil, by simp⟩
    (fun e rest he hrest => ⟨cons e rest he hrest.1, List.forall_mem_cons.mpr ⟨he, hrest.2⟩⟩)
    done
    (fun _ rest hpart hrest => hpart rest hrest)
    (fun _ value hkey hvalue rest hrest => hkey value rest hvalue hrest)
    (fun value rest hvalue hrest => unpack value rest hvalue hrest)
    (fun key hkey value rest hvalue hrest => entry key value rest hkey hvalue hrest) e

end PersistedOps.Script

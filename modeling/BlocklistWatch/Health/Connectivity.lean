/-!
# Reachability of the outside

When many zones fail at once, two public resolvers are asked about a name that is always there. If
neither answers, the fault lies on this side.

* `Connectivity` is what came of it; `Connectivity.ofCheck` and `Connectivity.skipped` are the two
  forms that a run produces.
* `Connectivity.allUnreachable` says that the check was made and nobody answered.
-/

namespace BlocklistWatch

structure Connectivity where
  enabled : Bool
  cloudflare : Option Bool
  google : Option Bool
deriving DecidableEq, Repr, Inhabited

namespace Connectivity

def skipped : Connectivity :=
  ⟨false, none, none⟩

def ofCheck (cloudflare google : Bool) : Connectivity :=
  ⟨true, some cloudflare, some google⟩

/-- Whether the resolvers were asked and none is known to have answered. -/
def allUnreachable (c : Connectivity) : Bool :=
  c.enabled && c.cloudflare != some true && c.google != some true

@[simp] theorem allUnreachable_skipped : skipped.allUnreachable = false := rfl

@[simp] theorem allUnreachable_ofCheck (cloudflare google : Bool) :
    (ofCheck cloudflare google).allUnreachable = (!cloudflare && !google) := by
  cases cloudflare <;> cases google <;> rfl

end Connectivity

end BlocklistWatch

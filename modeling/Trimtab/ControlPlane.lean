import Trimtab.Canary

set_option autoImplicit false

/-! Everything that other parties do to the store between two ticks of a loop. -/
namespace Trimtab
open Runs StoreHistory

inductive PlaneOp where
  | store (op : StoreOp)
  | client (op : ClientOp)

namespace PlaneOp

def apply (s : Store) : PlaneOp → Store
  | .store op => StoreHistory.apply s op
  | .client op => op.apply s

/-- No operation loses a version. -/
theorem apply_extends (s : Store) (op : PlaneOp) : Extends s (op.apply s) := by
  cases op with
  | store op => exact extends_of_advances (apply_advances s op)
  | client op => exact client_extends s op

theorem apply_history {s : Store} (hs : History s) (op : PlaneOp) : History (op.apply s) := by
  cases op with
  | store op => exact history_of_advances (apply_advances s op) hs
  | client op => exact client_history hs op

theorem history_run (ops : List PlaneOp) : History (run PlaneOp.apply Store.empty ops) :=
  run_invariant (I := History) (fun _ op hs => apply_history hs op) ops history_empty

end PlaneOp
end Trimtab

import Multiplexer.Proofs.History.Basic
import Multiplexer.System.Script

/-! Histories on the scripted system. They are computed, so what they lead to can be evaluated. -/
namespace Multiplexer
open Dialogue

namespace History

/-- A facility opened on the scripted system, unless that fails. -/
def rehearseOpening {α : Type} (create : Config → ExceptT Error Sys α) (wrap : α → Backend)
    (opened : ∀ {config p n t}, Follows ((create config).run n) t (.ok (.ok p)) →
      (wrap p).Opened config t)
    (config : Config) (stage : Script.Stage) : Option History :=
  let opening := ((create config).run stage.patience).perform Script.Stage.respond stage
  match result : opening.result with
  | .ok (.ok p) => some
      { config
        opening := opening.transcript
        start := wrap p
        exchanges := []
        finish := wrap p
        opened := opened (result ▸ follows_perform _ _ _)
        run := .start _ }
  | _ => none

/-- One more call, on the scripted system, unless it does not end. -/
def rehearseCall (h : History) (op : Operation) (stage : Script.Stage) : Option History :=
  let call := (h.finish.serve op stage.patience).perform Script.Stage.respond stage
  match result : call.result with
  | .ok (answer, after) =>
    let x : Exchange :=
      { before := h.finish
        operation := op
        transcript := call.transcript
        answer
        after
        served := ⟨stage.patience, result ▸ follows_perform _ _ _⟩ }
    some { h with exchanges := h.exchanges ++ [x], finish := x.after, run := .step h.run }
  | .error _ => none

def rehearse (h : History) (calls : List (Operation × Script.Stage)) : Option History :=
  calls.foldlM (fun h (op, stage) => h.rehearseCall op stage) h

end History
end Multiplexer

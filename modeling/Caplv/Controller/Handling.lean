import Caplv.Controller.Calls

namespace Caplv.Controller

open Text Api Libvirt Program

variable {ω α : Type}

-- What a specification of a step's function has to admit at the two places where every step
-- may leave it: after a terminal failure is recorded, and with an error.
structure Handling (step : Handler signature ω) (guard : ω → Op → Prop)
    (inv : RunState → ω → Prop) (exit : Option GoError → RunState → ω → Prop) : Prop where
  guard : ∀ st w reason message, inv st w → guard w (.recordFailure reason message)
  recorded : ∀ st before reason message after, inv st before →
    step before (.recordFailure reason message) () after →
    exit none { st with status := st.status.recordFailure reason message } after
  failed : ∀ st w err, inv st w → exit (some err) st w

namespace Handling

variable {step : Handler signature ω} {guard : ω → Op → Prop} {inv pre : RunState → ω → Prop}
  {exit : Option GoError → RunState → ω → Prop}

theorem handleLibvirtError (h : Handling step guard inv exit) (err : GoError) (operation : String)
    {post : α → RunState → ω → Prop} :
    Body.Triple step guard inv (Controller.handleLibvirtError err operation : StepBody α) post exit := by
  refine Body.Triple.ite (fun _ => ?_) fun _ => Body.Triple.leave fun st w hw => h.failed st w _ hw
  intro st w hw
  exact ⟨h.guard st w _ _ hw, fun _ after hs => h.recorded st w _ _ after hw hs⟩

theorem callOrHandle (h : Handling step guard inv exit) (rc : ReconcileCtx) (call : ClientCall)
    (operation : String) {post : call.Result → RunState → ω → Prop}
    (hguard : ∀ st w, pre st w → guard w (.client rc.hostKey call))
    (hok : ∀ st before value after, pre st before →
      step before (.client rc.hostKey call) (.ok value) after → post value st after)
    (herror : ∀ st before err after, pre st before →
      step before (.client rc.hostKey call) (.error err) after → inv st after) :
    Body.Triple step guard pre (Controller.callOrHandle rc call operation) post exit := by
  refine Body.Triple.perform_bind hguard fun reply => ?_
  cases reply with
  | ok value =>
    refine Body.Triple.pure fun st after hafter => ?_
    obtain ⟨before, hpre, hs⟩ := hafter
    exact hok st before value after hpre hs
  | error err =>
    intro st after hafter
    obtain ⟨before, hpre, hs⟩ := hafter
    exact h.handleLibvirtError err operation st after (herror st before err after hpre hs)

theorem orReturn (h : Handling step guard inv exit) (what : String) (result : Except GoError α)
    (hpre : ∀ st w, pre st w → inv st w) :
    Body.Triple step guard pre (Controller.orReturn what result)
      (fun value st w => pre st w ∧ result = .ok value) exit := by
  cases result with
  | ok value => exact Body.Triple.pure fun _ _ hw => ⟨hw, rfl⟩
  | error err => exact Body.Triple.leave fun st w hw => h.failed st w _ (hpre st w hw)

end Handling

-- A step's function ends like its body, which falls through with nil.
theorem stepFn_triple {step : Handler signature ω} {guard : ω → Op → Prop} {pre : RunState → ω → Prop}
    {exit : Option GoError → RunState → ω → Prop} {body : StepBody Unit}
    (h : Body.Triple step guard pre body (fun _ => exit none) exit) {st : RunState} {w : ω} (hw : pre st w) :
    Holds step guard (fun out after => exit out.1 out.2 after) (stepFn body st) w :=
  Body.Triple.run (h.bind fun _ => Body.Triple.pure fun _ _ hend => hend) hw

theorem eachInOrder_triple {step : Handler signature ω} {guard : ω → Op → Prop} {inv : RunState → ω → Prop}
    {exit : Option GoError → RunState → ω → Prop} {f : α → StepBody Unit}
    (hf : ∀ item, Body.Triple step guard inv (f item) (fun _ => inv) exit) (items : List α) :
    Body.Triple step guard inv (eachInOrder f items) (fun _ => inv) exit := by
  induction items with
  | nil => exact Body.Triple.pure fun _ _ h => h
  | cons item rest ih => exact (hf item).bind fun _ => ih

theorem runStep_triple {step : Handler signature ω} {guard : ω → Op → Prop} {pre post : RunState → ω → Prop}
    {exit : Return → RunState → ω → Prop} {fn : StepFn}
    (h : ∀ st w, pre st w → Holds step guard (fun out after =>
      (out.1 = none → post out.2 after) ∧ ∀ err, out.1 = some err → exit ({}, some err) out.2 after) (fn st) w) :
    Body.Triple step guard pre (runStep fn) (fun _ => post) exit := by
  have hcall : Body.Triple step guard pre (Body.call fn : NormalBody (Option GoError))
      (fun returned st after => (returned = none → post st after) ∧
        ∀ err, returned = some err → exit ({}, some err) st after) exit := Body.Triple.call h
  refine hcall.bind fun returned => ?_
  cases returned with
  | none => exact Body.Triple.pure fun _ _ hend => hend.1 rfl
  | some err => exact Body.Triple.leave fun _ _ hend => hend.2 err rfl

end Caplv.Controller

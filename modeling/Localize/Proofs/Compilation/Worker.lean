/-
  The work on one module in steps: a worker looks its window up, writes the entries of its scan one by
  one, and seals. Between these steps it touches nothing that others can see. `advance_stageAfter`
  says how far the worker and its window come with each step where nothing fails, and
  `advances_eq_build` that all its steps without a break are a build, whatever the windows were before
  and whether or not the build fails.
-/
import Localize.Proofs.Compilation.InTurn

namespace Localize

open Compilation

/-! ## Workers -/

/-- How far a worker has come with its module. -/
inductive Stage where
  /-- It has not looked its window up yet. -/
  | waiting
  /-- It writes to a window, and has some entries left. -/
  | scanning (number : Nat) (left : List Entry)
  /-- It has returned its module. -/
  | ended (m : Module)
  | failed (f : BuildFault)

/-- The module that a worker has returned. -/
def Stage.module? : Stage → Option Module
  | .ended m => some m
  | _ => none

/-- One step of the worker of a module: it looks its window up, writes its next entry, or seals its
window and returns. A worker that has come to its end does nothing. -/
def Stage.advance (config : Config) (files : List (String × Text.Bytes)) (job : String × String)
    (a : Aggregator) : Stage → Aggregator × Stage
  | .waiting =>
    let (a, number) := a.openWindow job.1
    (a, .scanning number (entriesOf config job.2))
  | .scanning number (e :: left) =>
    match a.addTo number e.severity e.miss with
    | .ok (a, _) => (a, .scanning number left)
    | .error f => (a, .failed (.scan (.fold (.closed f))))
  | .scanning number [] =>
    match bodyOf config files job.1 job.2 with
    | .error f => (a, .failed f)
    | .ok m =>
      match a.close? job.1 with
      | some (a, w) => (a, .ended (m.withRecords w))
      | none => (a, .scanning number [])
  | stage => (a, stage)

/-- The steps that a worker takes: one for each entry, one before and one behind them. -/
def stepsOf (config : Config) (job : String × String) : Nat := (entriesOf config job.2).length + 2

/-- The window of a module when its worker has taken some steps. -/
def windowAfter (config : Config) (job : String × String) (steps : Nat) : Window :=
  let w := Window.recordAll { module := job.1 } ((entriesOf config job.2).take (steps - 1))
  if steps < stepsOf config job then w else w.close

/-- A worker that has taken some steps, none of which failed. -/
def stageAfter (config : Config) (job : String × String) (number : Nat) (m : Module)
    (steps : Nat) : Stage :=
  if steps = 0 then .waiting
  else if steps < stepsOf config job then
    .scanning number ((entriesOf config job.2).drop (steps - 1))
  else .ended m

section Worker

variable {config : Config} {files : List (String × Text.Bytes)} {job : String × String}

theorem windowAfter_of_lt {steps : Nat} (h : steps < stepsOf config job) :
    windowAfter config job steps =
      Window.recordAll { module := job.1 } ((entriesOf config job.2).take (steps - 1)) := by
  unfold windowAfter
  rw [if_pos h]

/-- A worker that has taken all its steps has written all its entries and sealed its window. -/
theorem windowAfter_of_le {steps : Nat} (h : stepsOf config job ≤ steps) :
    windowAfter config job steps = sealedWindow config job := by
  have hall : (entriesOf config job.2).take (steps - 1) = entriesOf config job.2 := by
    rw [List.take_of_length_le]
    unfold stepsOf at h
    omega
  unfold windowAfter sealedWindow written
  rw [if_neg (Nat.not_lt.mpr h), hall]

theorem isSealed_windowAfter {steps : Nat} (h : steps < stepsOf config job) :
    (windowAfter config job steps).isSealed = false := by
  rw [windowAfter_of_lt h, Window.isSealed_recordAll]

theorem stageAfter_of_le {number steps : Nat} {m : Module} (h : stepsOf config job ≤ steps) :
    stageAfter config job number m steps = .ended m := by
  have hne : ¬ steps = 0 := by
    unfold stepsOf at h
    omega
  unfold stageAfter
  rw [if_neg hne, if_neg (Nat.not_lt.mpr h)]

theorem put_window {a : Aggregator} {number : Nat} {w : Window} (h : a.window number = w)
    (hgiven : number < a.windows.length) : a.put number w = a := by
  have hget : a.windows[number] = w := by
    rw [← h]
    unfold Aggregator.window
    rw [List.getD_eq_getElem?_getD, List.getElem?_eq_getElem hgiven]
    rfl
  unfold Aggregator.put
  rw [← hget, List.set_getElem_self]

/-- Looking the window up changes nothing that is shared. -/
theorem advance_waiting {a : Aggregator} {number : Nat} (hcurrent : a.current? job.1 = some number)
    (hopen : (a.window number).isSealed = false) :
    Stage.advance config files job a .waiting = (a, .scanning number (entriesOf config job.2)) := by
  unfold Stage.advance
  rw [Aggregator.openWindow_of_open hcurrent hopen]

theorem advance_entry {a : Aggregator} {number : Nat} (hopen : (a.window number).isSealed = false)
    (e : Entry) (left : List Entry) :
    Stage.advance config files job a (.scanning number (e :: left)) =
      (a.put number ((a.window number).record e), .scanning number left) := by
  obtain ⟨isNew, hadd⟩ := Window.add_of_open hopen e
  unfold Stage.advance Aggregator.addTo
  dsimp only
  rw [hadd]
  rfl

theorem advance_seal {a : Aggregator} {number : Nat} {body : Module}
    (hbody : bodyOf config files job.1 job.2 = .ok body)
    (hcurrent : a.current? job.1 = some number) (hgiven : number < a.windows.length) :
    Stage.advance config files job a (.scanning number []) =
      (a.put number (a.window number).close, .ended (body.withRecords (a.window number))) := by
  unfold Stage.advance Aggregator.close?
  rw [hbody, hcurrent]
  dsimp only [Option.map_some]
  unfold Aggregator.close
  rw [Aggregator.window_put hgiven, if_pos rfl]
  rfl

theorem stageAfter_succ {number k : Nat} {m : Module} (h : k + 1 < stepsOf config job) :
    stageAfter config job number m (k + 1) =
      .scanning number ((entriesOf config job.2).drop k) := by
  unfold stageAfter
  rw [if_neg (Nat.succ_ne_zero k), if_pos h, Nat.add_sub_cancel]

/-- A step behind the first one writes the next entry or, where none is left, seals. -/
theorem advance_scanning {a : Aggregator} {number k : Nat} {body : Module}
    (hlt : k + 1 < stepsOf config job) (hbody : bodyOf config files job.1 job.2 = .ok body)
    (hcurrent : a.current? job.1 = some number) (hgiven : number < a.windows.length)
    (hwindow : a.window number = windowAfter config job (k + 1)) :
    Stage.advance config files job a (.scanning number ((entriesOf config job.2).drop k)) =
      (a.put number (windowAfter config job (k + 2)),
        stageAfter config job number
          (body.withRecords (written config job.2 { module := job.1 })) (k + 2)) := by
  have htotal : stepsOf config job = (entriesOf config job.2).length + 2 := rfl
  have hopen : (a.window number).isSealed = false := by
    rw [hwindow]
    exact isSealed_windowAfter hlt
  rw [windowAfter_of_lt hlt, Nat.add_sub_cancel] at hwindow
  by_cases hk : k < (entriesOf config job.2).length
  · have hnext : k + 1 + 1 < stepsOf config job := by omega
    rw [stageAfter_succ hnext, windowAfter_of_lt hnext, List.drop_eq_getElem_cons hk,
      advance_entry hopen, hwindow, Nat.add_sub_cancel, List.take_succ_eq_append_getElem hk,
      Window.recordAll_append]
    rfl
  · have hlast : stepsOf config job ≤ k + 1 + 1 := by omega
    have hnil : (entriesOf config job.2).drop k = [] :=
      List.drop_eq_nil_of_le (Nat.le_of_not_lt hk)
    have hall : (entriesOf config job.2).take k = entriesOf config job.2 :=
      List.take_of_length_le (Nat.le_of_not_lt hk)
    rw [stageAfter_of_le hlast, windowAfter_of_le hlast, hnil,
      advance_seal hbody hcurrent hgiven, hwindow, hall]
    rfl

/-- One more step of a worker, whose window is the current one of its module, and whose module is
built without a fault. -/
theorem advance_stageAfter {a : Aggregator} {number : Nat} {body : Module} (steps : Nat)
    (hbody : bodyOf config files job.1 job.2 = .ok body)
    (hcurrent : a.current? job.1 = some number) (hgiven : number < a.windows.length)
    (hwindow : a.window number = windowAfter config job steps) :
    let m := body.withRecords (written config job.2 { module := job.1 })
    Stage.advance config files job a (stageAfter config job number m steps) =
      (a.put number (windowAfter config job (steps + 1)),
        stageAfter config job number m (steps + 1)) := by
  intro m
  by_cases hend : stepsOf config job ≤ steps
  · have hlast := windowAfter_of_le (Nat.le_succ_of_le hend)
    rw [windowAfter_of_le hend, ← hlast] at hwindow
    rw [stageAfter_of_le hend, stageAfter_of_le (Nat.le_succ_of_le hend),
      put_window hwindow hgiven]
    rfl
  · have hlt : steps < stepsOf config job := Nat.lt_of_not_le hend
    rcases steps with _ | k
    · have hone : 0 + 1 < stepsOf config job := by
        unfold stepsOf
        omega
      have hopen : (a.window number).isSealed = false := by
        rw [hwindow]
        exact isSealed_windowAfter hlt
      have hsame : a.window number = windowAfter config job (0 + 1) := by
        rw [hwindow, windowAfter_of_lt hlt, windowAfter_of_lt hone]
      rw [put_window hsame hgiven, stageAfter_succ hone]
      exact advance_waiting hcurrent hopen
    · rw [stageAfter_succ hlt]
      exact advance_scanning hlt hbody hcurrent hgiven hwindow

end Worker

/-! ## A worker on its own -/

namespace Stage

/-- Some steps of one worker, with no other one in between. -/
def advances (config : Config) (files : List (String × Text.Bytes)) (job : String × String) :
    Nat → Aggregator × Stage → Aggregator × Stage
  | 0, p => p
  | steps + 1, (a, stage) => advances config files job steps (stage.advance config files job a)

/-- How a build ends, as a worker does. -/
def ofResult : Except BuildFault Module → Stage
  | .ok m => .ended m
  | .error f => .failed f

section Advances

variable {config : Config} {files : List (String × Text.Bytes)} {job : String × String}

/-- A worker writes its entries, seals if its module is built, and ends. -/
theorem advances_scanning {a : Aggregator} {number : Nat} (hcurrent : a.current? job.1 = some number)
    (hgiven : number < a.windows.length) (hopen : (a.window number).isSealed = false)
    (left : List Entry) :
    advances config files job (left.length + 1) (a, .scanning number left) =
      match bodyOf config files job.1 job.2 with
      | .error f => (a.put number ((a.window number).recordAll left), .failed f)
      | .ok m =>
        (a.put number ((a.window number).recordAll left).close,
          .ended (m.withRecords ((a.window number).recordAll left))) := by
  induction left generalizing a with
  | nil =>
    show Stage.advance config files job a (.scanning number []) = _
    rcases hbody : bodyOf config files job.1 job.2 with f | m
    · have hsame : a.put number ((a.window number).recordAll []) = a := put_window rfl hgiven
      unfold Stage.advance
      rw [hbody, hsame]
    · rw [advance_seal hbody hcurrent hgiven]
      rfl
  | cons e left ih =>
    have hself : (a.put number ((a.window number).record e)).window number =
        (a.window number).record e := by
      rw [Aggregator.window_put hgiven, if_pos rfl]
    have hopen' : ((a.put number ((a.window number).record e)).window number).isSealed = false := by
      rw [hself, Window.isSealed_record]
      exact hopen
    have hgiven' : number < (a.put number ((a.window number).record e)).windows.length := by
      rw [Aggregator.length_put]
      exact hgiven
    have hrest := ih (a := a.put number ((a.window number).record e)) hcurrent hgiven' hopen'
    rw [hself] at hrest
    show advances config files job (left.length + 1)
      (Stage.advance config files job a (.scanning number (e :: left))) = _
    rw [advance_entry hopen, hrest]
    simp only [Aggregator.put_put]
    rfl

/-- A worker that takes all its steps at once does what a build does, also where a window was left
open or the build fails. -/
theorem advances_eq_build (c : Compilation) (hsound : c.aggregator.Sound) (job : String × String) :
    advances c.config c.files job (stepsOf c.config job) (c.aggregator, .waiting) =
      ((c.build job.1 job.2).1.aggregator, ofResult (c.build job.1 job.2).2) := by
  have hopened := Aggregator.openWindow_opened hsound job.1
  rcases hopen : c.aggregator.openWindow job.1 with ⟨b, number⟩
  rw [hopen] at hopened
  obtain ⟨events, hrun⟩ := build_run c job.1 job.2 hopen hopened.given hopened.isOpen
  have hwait : Stage.advance c.config c.files job c.aggregator .waiting =
      (b, .scanning number (entriesOf c.config job.2)) := by
    unfold Stage.advance
    rw [hopen]
  show advances c.config c.files job ((entriesOf c.config job.2).length + 1)
    (Stage.advance c.config c.files job c.aggregator .waiting) = _
  rw [hwait, advances_scanning hopened.current hopened.given hopened.isOpen, hrun]
  rcases bodyOf c.config c.files job.1 job.2 with f | m
  · rfl
  · rfl

end Advances

end Stage

end Localize

import CoverageGate.CommandLine.Session

/-!
# What is printed

An extraction and a comparison print one line, and only when all else has succeeded: every step
before it is silent.  A verification prints as it goes on.

* `Traced.Silent`: a computation that prints nothing; silent steps are silent together.
* `Traced.stdout`: all that a computation prints.
* `Task.stdout_run_extract_ok`, `Task.stdout_run_compare_ok`: the line of an extraction and that of
  a comparison.
* `Task.stdout_run_extract_error`, `Task.stdout_run_compare_error`: without success there is none.
-/

namespace CoverageGate

/-! ## 1. Silent steps -/

namespace Traced

variable {α β : Type}

/-- Nothing is printed. -/
def Silent (x : Traced α) : Prop := x.messages = []

theorem silent_pure (a : α) : Silent (pure a) := rfl

theorem silent_fail (fault : Fault) : Silent (fail fault : Traced α) := rfl

theorem silent_ofExcept (result : Except Fault α) : Silent (ofExcept result) := rfl

theorem silent_note (event : Log.Event) : Silent (note event) := rfl

/-- Silent steps are silent together. -/
theorem Silent.bind {x : Traced α} {f : α → Traced β} (hx : x.Silent) (hf : ∀ a, (f a).Silent) :
    (x >>= f).Silent := by
  cases h : x.result with
  | ok a => rw [Silent, messages_bind_ok f h, hx, hf a, List.append_nil]
  | error fault => rw [Silent, messages_bind_error f h, hx]

/-- Silent steps are silent in a row of any length. -/
theorem silent_foldlM {f : β → α → Traced β} (hf : ∀ b a, (f b a).Silent) (as : List α) (b : β) :
    (as.foldlM f b).Silent := by
  induction as generalizing b with
  | nil => exact silent_pure b
  | cons a as ih => exact (hf b a).bind ih

/-- All that is printed. -/
def stdout (coloured : Bool) (x : Traced α) : String :=
  String.join (x.messages.map (·.line coloured))

variable {coloured : Bool} {x : Traced α}

/-- Behind a silent computation with a value, what is printed is what the rest prints. -/
theorem Silent.stdout_bind_ok (hx : x.Silent) {a : α} (h : x.result = .ok a) (f : α → Traced β) :
    (x >>= f).stdout coloured = (f a).stdout coloured := by
  rw [stdout, messages_bind_ok _ h, hx]
  rfl

/-- Behind a silent computation a message is printed if there is a value. -/
theorem Silent.stdout_bind_print_ok (hx : x.Silent) {a : α} (h : x.result = .ok a)
    (message : α → Message) :
    (x >>= fun a => print (message a)).stdout coloured = (message a).line coloured := by
  rw [hx.stdout_bind_ok h, stdout]
  simp

/-- Behind a silent computation nothing is printed if there is a fault. -/
theorem Silent.stdout_bind_error (hx : x.Silent) {fault : Fault} (h : x.result = .error fault)
    (f : α → Traced β) : (x >>= f).stdout coloured = "" := by
  rw [stdout, messages_bind_error f h, hx]
  rfl

end Traced

open Traced

/-! ## 2. What is silent -/

namespace Report

theorem silent_locate (fs : FileSystem) (root : Path) : (locate fs root).Silent := by
  rw [locate]
  split
  · exact silent_fail _
  · dsimp only
    split
    · exact (silent_note _).bind fun _ => silent_pure _
    · refine (silent_ofExcept _).bind fun name => ?_
      cases name with
      | none => exact silent_fail _
      | some name =>
        refine (silent_note _).bind fun _ => ?_
        split
        · exact (silent_note _).bind fun _ => silent_pure _
        · exact silent_fail _

theorem silent_summaryText (page : String) : (summaryText page).Silent := by
  rw [summaryText, summaryPercentages]
  refine .bind ?_ fun percentages => ?_
  · cases SummaryBlock.find? page.toList with
    | none => exact silent_fail _
    | some block => exact (silent_note _).bind fun _ => silent_pure _
  · cases percentages[1]? with
    | none => exact silent_fail _
    | some text => exact silent_pure _

theorem silent_looseText (page : String) : (looseText page).Silent := by
  rw [looseText]
  cases looseText? page with
  | none => exact silent_fail _
  | some text => exact (silent_note _).bind fun _ => silent_pure _

theorem silent_extract (strategy : Strategy) (page : String) : (extract strategy page).Silent := by
  refine .bind ?_ fun _ => silent_ofExcept _
  cases strategy with
  | summary => exact silent_summaryText page
  | loose => exact silent_looseText page

theorem silent_score (fs : FileSystem) (strategy : Strategy) (root : Path) :
    (score fs strategy root).Silent :=
  (silent_locate fs root).bind fun _ => (silent_ofExcept _).bind fun _ => silent_extract strategy _

end Report

theorem Gate.silent_compare (gate : Gate) (previous current : String) :
    (gate.compare previous current).Silent := by
  refine (silent_ofExcept _).bind fun before => (silent_ofExcept _).bind fun after =>
    (silent_note _).bind fun _ => ?_
  split
  · exact silent_fail _
  · exact silent_pure _

namespace Settings

theorem silent_set (settings : Settings) (key value : String) :
    (settings.set key value).Silent := by
  rw [set]
  split
  · exact silent_ofExcept _
  · split
    · split
      · exact silent_pure _
      · exact silent_fail _
    · exact (silent_note _).bind fun _ => silent_pure _

theorem silent_ofAssignments (known : List (String × String)) : (ofAssignments known).Silent :=
  silent_foldlM (fun settings (entry : String × String) => silent_set settings entry.1 entry.2)
    known empty

theorem silent_load (fs : FileSystem) (home : Option Path) (visiting : VisitingOrder) :
    (load fs home visiting).Silent := by
  rw [load]
  split
  · exact silent_pure _
  · split
    · exact (silent_note _).bind fun _ => (silent_ofExcept _).bind fun text =>
        silent_ofAssignments (visiting.visit (assignments text))
    · exact silent_pure _

end Settings

/-! ## 3. The one line of a task -/

namespace Task

variable {fs : FileSystem} {strategy : Strategy} {root : Path} {gate : Gate}
  {previous current : String} {coloured : Bool} {fault : Fault}

theorem run_extract (fs : FileSystem) (strategy : Strategy) (root : Path) :
    (Task.extract strategy root).run fs
      = (Report.score fs strategy root >>= fun score => print (.score score.text)) := rfl

theorem run_compare (fs : FileSystem) (gate : Gate) (previous current : String) :
    (Task.compare gate previous current).run fs
      = (gate.compare previous current >>= fun comparison => print comparison.message) := rfl

/-- An extraction prints the score's text on a line. -/
theorem stdout_run_extract_ok {score : Score}
    (h : (Report.score fs strategy root).result = .ok score) :
    ((Task.extract strategy root).run fs).stdout coloured = score.text ++ "\n" := by
  rw [run_extract]
  exact (Report.silent_score fs strategy root).stdout_bind_print_ok h _

/-- An extraction that fails prints nothing. -/
theorem stdout_run_extract_error (h : (Report.score fs strategy root).result = .error fault) :
    ((Task.extract strategy root).run fs).stdout coloured = "" := by
  rw [run_extract]
  exact (Report.silent_score fs strategy root).stdout_bind_error h _

/-- A comparison prints its outcome on a line. -/
theorem stdout_run_compare_ok {comparison : Comparison}
    (h : (gate.compare previous current).result = .ok comparison) :
    ((Task.compare gate previous current).run fs).stdout coloured
      = comparison.message.body ++ "\n" := by
  rw [run_compare]
  exact (gate.silent_compare previous current).stdout_bind_print_ok h _

/-- A comparison that fails prints nothing. -/
theorem stdout_run_compare_error (h : (gate.compare previous current).result = .error fault) :
    ((Task.compare gate previous current).run fs).stdout coloured = "" := by
  rw [run_compare]
  exact (gate.silent_compare previous current).stdout_bind_error h _

end Task

end CoverageGate

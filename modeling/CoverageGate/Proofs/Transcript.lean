import CoverageGate.Proofs.Pipeline
import CoverageGate.Proofs.Verification

/-!
# What a verification prints

A verification prints a message at each of its steps, and the steps between can fail.  So the
messages tell how far it came, and with the last one what the answer is.

* `HasTop`, `topText`: a report with a page at its top, and the summary's text there.
* `Verifies`: the messages of a verification and its answer, one constructor for each way it can
  end; `verifies_iff` says that it ends in no other way.
* `transcript_tells_outcome`: which messages there are, and when.
-/

namespace CoverageGate

namespace Traced

variable {α β : Type} {x : Traced α} {a : α} {fault : Fault}

/-- A message is printed before what follows. -/
theorem messages_print_bind (message : Message) (f : Unit → Traced β) :
    (print message >>= f).messages = message :: (f ()).messages :=
  messages_bind_ok f rfl

theorem Silent.messages_bind_ok (hx : x.Silent) (h : x.result = .ok a) (f : α → Traced β) :
    (x >>= f).messages = (f a).messages := by
  rw [Traced.messages_bind_ok f h, hx, List.nil_append]

theorem Silent.messages_bind_error (hx : x.Silent) (h : x.result = .error fault)
    (f : α → Traced β) : (x >>= f).messages = [] := by
  rw [Traced.messages_bind_error f h, hx]

end Traced

namespace Report

open Traced

variable {fs : FileSystem} {strategy : Strategy} {root : Path} {fault : Fault}
  {messages : List Message} {result : Except Fault Score}

/-! ## 1. The page at the top -/

/-- The report is a folder with a page at its top. -/
structure HasTop (fs : FileSystem) (root : Path) : Prop where
  folder : fs.hasFolder root = true
  index : fs.has (root.child indexName) = true

/-- The summary's text in the page at the top. -/
def topText (fs : FileSystem) (root : Path) : Traced String := do
  let page ← .ofExcept (readPage fs (root.child indexName))
  summaryText page

theorem silent_topText (fs : FileSystem) (root : Path) : (topText fs root).Silent :=
  (silent_ofExcept _).bind fun page => silent_summaryText page

/-- A verification of a report with a page at its top, step by step. -/
theorem verify_of_top (htop : HasTop fs root) :
    verify fs strategy root =
      (print (.readingExpected (root.child indexName)) >>= fun _ =>
        topText fs root >>= fun expected =>
        print (.expected expected) >>= fun _ =>
        print (.running root) >>= fun _ =>
        score fs strategy root >>= fun actual =>
        print (.actual actual.text) >>= fun _ =>
        if actual.text = expected then
          print (.agreement actual.text) >>= fun _ => pure actual
        else
          print (.mismatch expected actual.text) >>= fun _ =>
          fail (.verificationMismatch expected actual.text)) := by
  simp [verify, expectedText, topText, htop.folder, htop.index, bind_assoc]

theorem topFault_of_topText (h : (topText fs root).result = .error fault) : TopFault fault := by
  rw [topText, result_bind, result_ofExcept] at h
  exact topFault_of_bind (fun page => pageFault_of_summaryText) h

theorem topFault_of_score (htop : HasTop fs root)
    (h : (score fs strategy root).result = .error fault) : TopFault fault := by
  rw [result_score_of_top htop.folder htop.index] at h
  exact topFault_of_bind (fun page => pageFault_of_extract) h

/-! ## 2. Messages and answers -/

/-- The message before the summary's text is read. -/
def readingLines (root : Path) : List Message := [.readingExpected (root.child indexName)]

/-- The messages up to the one before the strategy is run. -/
def runningLines (root : Path) (expected : String) : List Message :=
  readingLines root ++ [.expected expected, .running root]

/-- The messages up to the one with the strategy's text. -/
def actualLines (root : Path) (expected actual : String) : List Message :=
  runningLines root expected ++ [.actual actual]

/-- What a verification prints, and what it answers. -/
inductive Verifies (fs : FileSystem) (strategy : Strategy) (root : Path) :
    List Message → Except Fault Score → Prop
  /-- The root is no folder. -/
  | rootNotFound (hroot : fs.hasFolder root = false) :
      Verifies fs strategy root [] (.error (.rootNotFound root))
  /-- The folder has no page at its top. -/
  | indexMissing (hroot : fs.hasFolder root = true)
      (hindex : fs.has (root.child indexName) = false) :
      Verifies fs strategy root [] (.error (.indexMissing (root.child indexName)))
  /-- The page is not read, or has no summary's text. -/
  | noText {fault : Fault} (htop : HasTop fs root)
      (htext : (topText fs root).result = .error fault) :
      Verifies fs strategy root (readingLines root) (.error fault)
  /-- The strategy finds no score. -/
  | noScore {expected : String} {fault : Fault} (htop : HasTop fs root)
      (htext : (topText fs root).result = .ok expected)
      (hscore : (score fs strategy root).result = .error fault) :
      Verifies fs strategy root (runningLines root expected) (.error fault)
  /-- The strategy's text is another one. -/
  | mismatch {expected : String} {actual : Score} (htop : HasTop fs root)
      (htext : (topText fs root).result = .ok expected)
      (hscore : (score fs strategy root).result = .ok actual) (hne : actual.text ≠ expected) :
      Verifies fs strategy root
        (actualLines root expected actual.text ++ [.mismatch expected actual.text])
        (.error (.verificationMismatch expected actual.text))
  /-- The strategy's text is the same. -/
  | agreement {actual : Score} (htop : HasTop fs root)
      (htext : (topText fs root).result = .ok actual.text)
      (hscore : (score fs strategy root).result = .ok actual) :
      Verifies fs strategy root
        (actualLines root actual.text actual.text ++ [.agreement actual.text]) (.ok actual)

/-- A verification prints and answers what is said of it. -/
theorem Verifies.eq (h : Verifies fs strategy root messages result) :
    (verify fs strategy root).messages = messages ∧ (verify fs strategy root).result = result := by
  have htext := silent_topText fs root
  have hscore := silent_score fs strategy root
  cases h with
  | rootNotFound hroot =>
    refine ⟨?_, result_verify_of_noFolder hroot⟩
    simp only [verify, expectedText, hroot, Bool.not_false, if_true]
    rfl
  | indexMissing hroot hindex =>
    refine ⟨?_, result_verify_of_noIndex hroot hindex⟩
    simp only [verify, expectedText, hroot, hindex, Bool.not_true, Bool.not_false, if_true,
      Bool.false_eq_true, if_false]
    rfl
  | noText htop h =>
    rw [verify_of_top htop, messages_print_bind, htext.messages_bind_error h]
    exact ⟨rfl, by simp [h, Except.bind]⟩
  | noScore htop h h' =>
    rw [verify_of_top htop, messages_print_bind, htext.messages_bind_ok h, messages_print_bind,
      messages_print_bind, hscore.messages_bind_error h']
    exact ⟨rfl, by simp [h, h', Except.bind]⟩
  | mismatch htop h h' hne =>
    rw [verify_of_top htop, messages_print_bind, htext.messages_bind_ok h, messages_print_bind,
      messages_print_bind, hscore.messages_bind_ok h', messages_print_bind, if_neg hne,
      messages_print_bind]
    exact ⟨rfl, by simp [h, h', hne, Except.bind]⟩
  | agreement htop h h' =>
    rw [verify_of_top htop, messages_print_bind, htext.messages_bind_ok h, messages_print_bind,
      messages_print_bind, hscore.messages_bind_ok h', messages_print_bind, if_pos rfl,
      messages_print_bind]
    exact ⟨rfl, by simp [h, h', Except.bind, Except.map]⟩

/-- A verification ends in one of these ways. -/
theorem exists_verifies (fs : FileSystem) (strategy : Strategy) (root : Path) :
    ∃ messages result, Verifies fs strategy root messages result := by
  cases hroot : fs.hasFolder root with
  | false => exact ⟨_, _, .rootNotFound hroot⟩
  | true =>
    cases hindex : fs.has (root.child indexName) with
    | false => exact ⟨_, _, .indexMissing hroot hindex⟩
    | true =>
      have htop : HasTop fs root := ⟨hroot, hindex⟩
      cases htext : (topText fs root).result with
      | error fault => exact ⟨_, _, .noText htop htext⟩
      | ok expected =>
        cases hscore : (score fs strategy root).result with
        | error fault => exact ⟨_, _, .noScore htop htext hscore⟩
        | ok actual =>
          by_cases hsame : actual.text = expected
          · exact ⟨_, _, .agreement htop (hsame ▸ htext) hscore⟩
          · exact ⟨_, _, .mismatch htop htext hscore hsame⟩

/-- **And in no other.** -/
theorem verifies_iff :
    Verifies fs strategy root messages result ↔
      (verify fs strategy root).messages = messages ∧
        (verify fs strategy root).result = result := by
  refine ⟨Verifies.eq, ?_⟩
  rintro ⟨rfl, rfl⟩
  obtain ⟨messages, result, h⟩ := exists_verifies fs strategy root
  obtain ⟨rfl, rfl⟩ := h.eq
  exact h

/-! ## 3. What the messages tell -/

/-- No fault of a page is about the folder, and none is a mismatch. -/
theorem TopFault.ne (h : TopFault fault) :
    (∀ path, fault ≠ .rootNotFound path) ∧ (∀ path, fault ≠ .indexMissing path) ∧
      ∀ expected actual, fault ≠ .verificationMismatch expected actual := by
  cases h with
  | unreadable => exact ⟨nofun, nofun, nofun⟩
  | page h => cases h <;> exact ⟨nofun, nofun, nofun⟩

namespace Verifies

variable {expected actual text : String}

theorem nil_iff (h : Verifies fs strategy root messages result) :
    messages = [] ↔
      ∃ path, result = .error (.rootNotFound path) ∨ result = .error (.indexMissing path) := by
  cases h with
  | rootNotFound => simp
  | indexMissing => simp
  | noText htop htext =>
    obtain ⟨hroot, hindex, -⟩ := (topFault_of_topText htext).ne
    simp [readingLines, hroot, hindex]
  | noScore htop htext hscore =>
    obtain ⟨hroot, hindex, -⟩ := (topFault_of_score htop hscore).ne
    simp [runningLines, hroot, hindex]
  | mismatch => simp
  | agreement => simp

theorem of_reading (h : Verifies fs strategy root messages result)
    (hmessages : messages = readingLines root) :
    HasTop fs root ∧ ∃ fault, (topText fs root).result = .error fault ∧ result = .error fault := by
  cases h with
  | noText htop htext => exact ⟨htop, _, htext, rfl⟩
  | _ => simp [readingLines, runningLines, actualLines] at hmessages

theorem of_running (h : Verifies fs strategy root messages result)
    (hmessages : messages = runningLines root expected) :
    HasTop fs root ∧ (topText fs root).result = .ok expected ∧
      ∃ fault, (score fs strategy root).result = .error fault ∧ result = .error fault := by
  cases h with
  | noScore htop htext hscore =>
    obtain rfl : _ = expected := by simpa [runningLines] using hmessages
    exact ⟨htop, htext, _, hscore, rfl⟩
  | _ => simp [readingLines, runningLines, actualLines] at hmessages

theorem of_mismatch (h : Verifies fs strategy root messages result)
    (hmessages : messages = actualLines root expected actual ++ [.mismatch expected actual]) :
    HasTop fs root ∧ (topText fs root).result = .ok expected ∧
      ∃ found, (score fs strategy root).result = .ok found ∧ found.text = actual ∧
        actual ≠ expected ∧ result = .error (.verificationMismatch expected actual) := by
  cases h with
  | mismatch htop htext hscore hne =>
    simp only [actualLines, runningLines, readingLines, List.cons_append, List.nil_append,
      List.cons.injEq, Message.expected.injEq, Message.actual.injEq, true_and] at hmessages
    obtain ⟨rfl, rfl, -⟩ := hmessages
    exact ⟨htop, htext, _, hscore, rfl, hne, rfl⟩
  | _ => simp [readingLines, runningLines, actualLines] at hmessages

theorem of_agreement (h : Verifies fs strategy root messages result)
    (hmessages : messages = actualLines root text text ++ [.agreement text]) :
    HasTop fs root ∧ (topText fs root).result = .ok text ∧
      ∃ found, (score fs strategy root).result = .ok found ∧ found.text = text ∧
        result = .ok found := by
  cases h with
  | agreement htop htext hscore =>
    obtain rfl : _ = text := by simpa [actualLines, runningLines] using hmessages
    exact ⟨htop, htext, _, hscore, rfl, rfl⟩
  | _ => simp [readingLines, runningLines, actualLines] at hmessages

theorem agreement_mem_iff (h : Verifies fs strategy root messages result) :
    (∃ text, .agreement text ∈ messages) ↔ ∃ found, result = .ok found := by
  cases h <;> simp [readingLines, runningLines, actualLines]

theorem mismatch_mem_iff (h : Verifies fs strategy root messages result) :
    (∃ expected actual, .mismatch expected actual ∈ messages) ↔
      ∃ expected actual, result = .error (.verificationMismatch expected actual) := by
  cases h with
  | noText htop htext =>
    obtain ⟨-, -, hmismatch⟩ := (topFault_of_topText htext).ne
    simp [readingLines, hmismatch]
  | noScore htop htext hscore =>
    obtain ⟨-, -, hmismatch⟩ := (topFault_of_score htop hscore).ne
    simp [readingLines, runningLines, hmismatch]
  | _ => simp [readingLines, runningLines, actualLines]

end Verifies

theorem messages_run_verify :
    ((Task.verify strategy root).run fs).messages = (verify fs strategy root).messages := by
  show (verify fs strategy root >>= fun _ => pure ()).messages = _
  cases h : (verify fs strategy root).result with
  | ok found =>
    rw [messages_bind_ok _ h]
    exact List.append_nil _
  | error fault => exact messages_bind_error _ h

theorem result_run_verify :
    ((Task.verify strategy root).run fs).result
      = (verify fs strategy root).result.map fun _ => () := by
  show (verify fs strategy root >>= fun _ => pure ()).result = _
  rw [result_bind]
  cases (verify fs strategy root).result <;> rfl

/-- **What is printed tells the outcome.**  For all files, every root and every strategy, in the
order in which a verification goes on:

* nothing is printed exactly if the root is no folder or its page is missing;
* only the reading is announced exactly if the page at the top is not read or gives no summary's
  text, and this is the fault;
* the run of the strategy is announced, and nothing after it, exactly if the text was there but the
  strategy finds no score, and this is the fault;
* the strategy's text and the mismatch are printed exactly if the two texts differ, whatever their
  values, and the fault names both;
* the strategy's text and the agreement are printed exactly if they are the same, and the answer is
  that score.

So the agreement is printed exactly with a score, and the mismatch exactly with that fault.  A task
prints and answers just this. -/
theorem transcript_tells_outcome (fs : FileSystem) (strategy : Strategy) (root : Path) :
    let messages := (verify fs strategy root).messages
    let result := (verify fs strategy root).result
    (messages = [] ↔
      ∃ path, result = .error (.rootNotFound path) ∨ result = .error (.indexMissing path)) ∧
    (messages = readingLines root ↔
      HasTop fs root ∧ ∃ fault, (topText fs root).result = .error fault ∧ result = .error fault) ∧
    (∀ expected, messages = runningLines root expected ↔
      HasTop fs root ∧ (topText fs root).result = .ok expected ∧
        ∃ fault, (score fs strategy root).result = .error fault ∧ result = .error fault) ∧
    (∀ expected actual, messages = actualLines root expected actual ++ [.mismatch expected actual] ↔
      HasTop fs root ∧ (topText fs root).result = .ok expected ∧
        ∃ found, (score fs strategy root).result = .ok found ∧ found.text = actual ∧
          actual ≠ expected ∧ result = .error (.verificationMismatch expected actual)) ∧
    (∀ text, messages = actualLines root text text ++ [.agreement text] ↔
      HasTop fs root ∧ (topText fs root).result = .ok text ∧
        ∃ found, (score fs strategy root).result = .ok found ∧ found.text = text ∧
          result = .ok found) ∧
    ((∃ text, .agreement text ∈ messages) ↔ ∃ found, result = .ok found) ∧
    ((∃ expected actual, .mismatch expected actual ∈ messages) ↔
      ∃ expected actual, result = .error (.verificationMismatch expected actual)) ∧
    ((Task.verify strategy root).run fs).messages = messages ∧
    ((Task.verify strategy root).run fs).result = result.map fun _ => () := by
  have h : Verifies fs strategy root (verify fs strategy root).messages
      (verify fs strategy root).result := verifies_iff.mpr ⟨rfl, rfl⟩
  refine ⟨h.nil_iff, ⟨h.of_reading, ?_⟩, fun expected => ⟨h.of_running, ?_⟩,
    fun expected actual => ⟨h.of_mismatch, ?_⟩, fun text => ⟨h.of_agreement, ?_⟩,
    h.agreement_mem_iff, h.mismatch_mem_iff, messages_run_verify, result_run_verify⟩
  · rintro ⟨htop, fault, htext, -⟩
    exact (Verifies.noText htop htext).eq.1
  · rintro ⟨htop, htext, fault, hscore, -⟩
    exact (Verifies.noScore htop htext hscore).eq.1
  · rintro ⟨htop, htext, found, hscore, rfl, hne, -⟩
    exact (Verifies.mismatch htop htext hscore hne).eq.1
  · rintro ⟨htop, htext, found, hscore, rfl, -⟩
    exact (Verifies.agreement htop htext hscore).eq.1

/-- A page that spells one value in two ways, the second of them as its mutation coverage. -/
def twoSpellings : String :=
  "<h2>Project Summary</h2><th>Mutation Coverage</th><tbody><tr><td>80%</td><td>80.0%</td></tr>"

/-- Texts are compared, not values: the loose strategy finds the value that is expected, and a
mismatch is printed and answered. -/
theorem twoSpellings_mismatch :
    let fs := (pageReport twoSpellings).fileSystem
    let root := Path.ofString "/"
    (Score.ofText "80").map Score.value = (Score.ofText "80.0").map Score.value ∧
      (verify fs .loose root).messages = actualLines root "80.0" "80" ++ [.mismatch "80.0" "80"] ∧
      (verify fs .loose root).result = .error (.verificationMismatch "80.0" "80") := by
  intro fs root
  have hvalue : (Score.ofText "80").map Score.value = (Score.ofText "80.0").map Score.value := by
    decide +kernel
  have htop : HasTop fs root := ⟨hasFolder_pageReport twoSpellings, has_pageReport twoSpellings⟩
  have htext : (topText fs root).result = .ok "80.0" := by
    have hsummary : (summaryText twoSpellings).result = .ok "80.0" := by decide +kernel
    have hpage : readPage fs (root.child indexName) = .ok twoSpellings :=
      readPage_of_read (read_pageReport twoSpellings)
    rw [topText, hpage]
    simpa [Except.bind] using hsummary
  have hscore : (score fs .loose root).result = .ok ⟨"80", .ofDecimal false 80 0⟩ :=
    (result_score_pageReport twoSpellings .loose).trans (by decide +kernel)
  have hmessages : (verify fs .loose root).messages
      = actualLines root "80.0" "80" ++ [.mismatch "80.0" "80"] :=
    (Verifies.mismatch htop htext hscore (by decide)).eq.1
  obtain ⟨-, -, -, hmismatch, -⟩ := transcript_tells_outcome fs .loose root
  obtain ⟨-, -, found, -, -, -, hresult⟩ := (hmismatch _ _).mp hmessages
  exact ⟨hvalue, hmessages, hresult⟩

end Report

end CoverageGate

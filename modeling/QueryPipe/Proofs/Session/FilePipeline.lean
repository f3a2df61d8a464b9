import QueryPipe.Proofs.Dataset.Quoting
import QueryPipe.Proofs.Evaluation.FileQuery
import QueryPipe.Session.Evaluation

/-!
# Pipelines over one file

Tools that start from a file make one plan, and the file is the only one that it names. An evaluation
loads it before it asks anything.

* `eq_filePlan_of_applyAll`: the plan.
* `exists_load_of_prepared`: the file is loaded.
* `exists_report_of_evaluate`: what an evaluation that succeeds has reported.
* `evaluate_filePipeline`: what it means, for any library that loads files and answers questions as
  documented, as long as the statements of the settings leave the usual state behind.
-/

namespace QueryPipe.Session

open Command Dataset
open QueryPipe.Evaluation (AnswersTools IsFilePipeline Report Summary answers_databaseConnection
  filePlan)
open Sql (Rules)
open Storage (Workspace)

/-! ## The chain -/

section File

variable {file : String} {names : List String} {tools : List Tool} {chain : Chain}

theorem startsStage_of_isOver {t : Tool} (h : t.IsOver names) : t.startsStage = false := by
  cases t with
  | cat r => exact h.elim
  | sql text => exact h.elim
  | _ => rfl

theorem segments_of_isOver (h : ∀ t ∈ tools, t.IsOver names) : Tool.segments tools = [] := by
  induction tools with
  | nil => rfl
  | cons t rest ih =>
    rw [List.forall_mem_cons] at h
    rw [Tool.segments_cons_of_not (startsStage_of_isOver h.1), ih h.2]

theorem inside_of_isOver (h : ∀ t ∈ tools, t.IsOver names) : Tool.inside tools = tools := by
  rw [Tool.inside, List.takeWhile_eq_self_iff]
  intro t ht
  simp [startsStage_of_isOver (h t ht)]

/-- Tools over a file make one plan. -/
theorem eq_filePlan_of_applyAll (hover : ∀ t ∈ tools, t.IsOver names)
    (h : Tool.applyAll (.cat { datasets := [file] } :: tools) .empty = .ok chain) :
    chain = ⟨[filePlan file tools]⟩ := by
  have hplans := Tool.plans_of_applyAll_empty h
  rw [Tool.segments_cons_of_source rfl, segments_of_isOver hover, inside_of_isOver hover] at hplans
  exact congrArg Chain.mk hplans

theorem columns_ne_nil_of_apply {r : CutRequest} {c d : Chain} (h : (Tool.cut r).apply c = .ok d) :
    r.fields ++ r.operands ≠ [] := by
  rcases Tool.apply_cases h with ⟨s, hs, -⟩ | ⟨-, init, p, -, hfits, -⟩ | ⟨e, he, -⟩
  · cases hs
  · exact hfits.1
  · cases he

/-- Columns that are chosen last in a pipeline are some. -/
theorem shown_ne_nil_of_applyAll {c : Chain} (h : Tool.applyAll tools c = .ok chain)
    {shown : List String} (hshown : Tool.last? Tool.columns? tools = some shown) : shown ≠ [] := by
  obtain ⟨t, ht, hcolumns⟩ := mem_of_last? hshown
  obtain ⟨before, after, rfl⟩ := List.append_of_mem ht
  obtain ⟨d, -, hafter⟩ := Tool.applyAll_append_eq_ok_iff.1 h
  obtain ⟨e, he, -⟩ := Tool.applyAll_cons_eq_ok_iff.1 hafter
  cases t with
  | cut r =>
    obtain rfl := Option.some.inj hcolumns
    exact columns_ne_nil_of_apply he
  | _ => cases hcolumns

/-- The only file that a pipeline over a file names. -/
theorem files_filePlan (hfile : isFile file = true)
    (hquoted : reference file = quoteIdentifier file) (hover : ∀ t ∈ tools, t.IsOver names) :
    (⟨[filePlan file tools]⟩ : Chain).files = [file] := by
  have hname : Dataset.file? (quoteIdentifier file) = some file := by
    rw [file?_quoteIdentifier, Option.filter_some, hfile]
    rfl
  have hjoin : (filePlan file tools).join = none := (asks_planOf hover hquoted).join
  have hreferences : references (filePlan file tools) = [quoteIdentifier file] := by
    rw [references, hjoin]
    simp [filePlan, planOf, Source.selection?, hquoted]
  simp [Chain.files, hreferences, hname, distinct]

end File

/-! ## The file -/

section Loading

variable {δ τ : Type} {library : Library δ τ} {env : List (String × String)}
  {document bytes : List UInt8} {file : String} {settings : Settings} {chain : Chain} {e₀ e : δ}
  {w w' : Workspace}

theorem isFile_of_read (h : w.read file = .ok bytes) : w.isFile file = true := by
  rw [Workspace.read] at h
  rw [Workspace.isFile]
  split at h
  all_goals simp_all

theorem whole_of_read (h : w.read file = .ok bytes) : '\x00' ∉ file.toList := by
  intro hmem
  have hlocate : w.locate file = .error .nameless := by
    have hne : (file == "") = false := by
      rw [beq_eq_false_iff_ne]
      rintro rfl
      cases hmem
    simp [Workspace.locate, hne, hmem]
  simp [Workspace.read, hlocate] at h

/-- Loading the one file that a chain names. -/
theorem loadFiles_singleton (library : Library δ τ) (h : w.read file = .ok bytes) (e : δ) :
    (loadFiles library (Host.ofWorkspace env document) [file] e).run w =
      (((library.store.load file file (.ok bytes) e).1.map fun _ => (),
        (library.store.load file file (.ok bytes) e).2), w) := by
  have hthere := isFile_of_read h
  rcases hload : library.store.load file file (.ok bytes) e with ⟨fault | n, e'⟩
  all_goals
    simp [loadFiles, Host.ofWorkspace, hthere, h, hload]
    rfl

/-- Once everything is prepared, the only file that a chain names is loaded. -/
theorem exists_load_of_prepared (hfiles : chain.files = [file]) (hread : w.read file = .ok bytes)
    (h : (prepared library (Host.ofWorkspace env document) settings chain e₀).run w =
      ((.ok (), e), w')) :
    ∃ e₁ n, afterSetup library settings e₀ = (.ok (), e₁) ∧
      library.store.load file file (.ok bytes) e₁ = (.ok n, e) := by
  rw [prepared] at h
  rcases hsetup : afterSetup library settings e₀ with ⟨fault | _, e₁⟩
  · rw [hsetup] at h
    cases h
  · rw [hsetup, hfiles] at h
    have hrun := (loadFiles_singleton library hread e₁).symm.trans h
    rcases hload : library.store.load file file (.ok bytes) e₁ with ⟨fault | n, e₂⟩
    · rw [hload] at hrun
      cases hrun
    · rw [hload] at hrun
      cases hrun
      exact ⟨e₁, n, rfl, hload⟩

end Loading

/-! ## Evaluations on a workspace -/

section Evaluations

variable {α δ τ : Type} {library : Library δ τ} {env : List (String × String)}
  {document : List UInt8} {connect : StateM Workspace (Except Fault (α × δ))}
  {keep : α → δ → StateM Workspace Unit} {settings : Settings} {chain : Chain}
  {format : OutputFormat} {out? : Option String} {w w₀ : Workspace} {address : α} {e₀ : δ}
  {summary : Summary}

/-- The report of an evaluation on a workspace, once a database of a library is open. -/
structure IsReport (library : Library δ τ) (env : List (String × String)) (document : List UInt8)
    (settings : Settings) (chain : Chain) (format : OutputFormat) (out? : Option String) (e₀ : δ)
    (w₀ : Workspace) (report : Report δ Output.Writer) : Prop where
  /-- Everything is prepared, and then the chain is run on the database. -/
  ran : ∃ e w₁ accepted,
    (prepared library (Host.ofWorkspace env document) settings chain e₀).run w₀ =
      ((.ok (), e), w₁) ∧
    report = QueryPipe.Evaluation.run library.connection.engine
      (sinkOf format out?.isSome accepted) settings.batchSize chain {} e

theorem run_bind_of_run {β γ : Type} {action : StateM Workspace β} {w w' : Workspace} {b : β}
    (h : action.run w = (b, w')) (next : β → StateM Workspace γ) :
    (action >>= next).run w = (next b).run w' := by
  show (next (action.run w).1).run (action.run w).2 = _
  rw [h]

/-- An evaluation that succeeds has a report, from which its result and text are taken. -/
theorem exists_report_of_evaluate (hconnect : connect.run w = (.ok (address, e₀), w₀))
    (h : ((evaluateOn library (Host.ofWorkspace env document) connect keep settings chain format
      out?).run w).1.result = .ok summary) :
    ∃ report, IsReport library env document settings chain format out? e₀ w₀ report ∧
      ((evaluateOn library (Host.ofWorkspace env document) connect keep settings chain format
          out?).run w).1 =
        ⟨report.result, report.sink.map fun writer => writer.text?.getD ""⟩ := by
  rcases hprepared : (prepared library (Host.ofWorkspace env document) settings chain e₀).run w₀
    with ⟨⟨fault | _, e⟩, w₁⟩
  · rw [evaluateOn, run_bind_of_run hconnect, run_bind_of_run hprepared] at h
    cases h
  · rw [evaluateOn, run_bind_of_run hconnect, run_bind_of_run hprepared]
    cases out? with
    | none => exact ⟨_, ⟨e, w₁, _, hprepared, rfl⟩, rfl⟩
    | some name =>
      have haccepts : ((Host.ofWorkspace env document).accepts name).run w₁ =
          ((w₁.destination name).map fun _ => (), w₁) := rfl
      refine ⟨_, ⟨e, w₁, (w₁.destination name).map fun _ => (), hprepared, rfl⟩, ?_⟩
      simp only
      rw [run_bind_of_run haccepts]
      generalize QueryPipe.Evaluation.run _ _ _ _ _ _ = report
      obtain ⟨result, calls, phases, engine, _ | writer, supply⟩ := report <;> rfl

variable (library keep) in
/-- A pipeline over one file means what its tools say, with any library that keeps the rows it is
given and answers questions as documented. -/
theorem evaluate_filePipeline {rules : Rules} {view : View δ τ} {file : String}
    {bytes : List UInt8} {columns : List FileColumn} {tools : List Tool}
    (hkeeps : library.store.Keeps view) (hanswers : library.connection.Answers rules view)
    (hfile : isFile file = true) (hstart : Text.startsWith "\"" file = false)
    (hchain : Tool.applyAll (.cat { datasets := [file] } :: tools) .empty = .ok chain)
    (hconnect : connect.run w = (.ok (address, e₀), w₀))
    (husual : ∀ e, afterSetup library settings e₀ = (.ok (), e) → view.usual e)
    (hread : w₀.read file = .ok bytes)
    (hheader : (Table.ofBytes (delimiterOf (delimiter? file)) bytes).columns = .ok columns)
    (hplain : ∀ name ∈ namesOf columns, Sql.IsPlainName name)
    (hover : ∀ t ∈ tools, t.IsOver (namesOf columns))
    (hresult :
      ((evaluateOn library (Host.ofWorkspace env document) connect keep settings chain format
        out?).run w).1.result = .ok summary) :
    ∃ report, IsReport library env document settings chain format out? e₀ w₀ report ∧
      ((evaluateOn library (Host.ofWorkspace env document) connect keep settings chain format
          out?).run w).1 =
        ⟨report.result, report.sink.map fun writer => writer.text?.getD ""⟩ ∧
      AnswersTools rules columns tools (loadedRows columns (recordsOf file bytes)) report
        summary := by
  obtain ⟨report, hreport, hevaluated⟩ := exists_report_of_evaluate hconnect hresult
  refine ⟨report, hreport, hevaluated, ?_⟩
  obtain ⟨e, w₁, accepted, hprepared, rfl⟩ := hreport.ran
  rw [hevaluated] at hresult
  have hquoted := reference_eq hfile hstart
  obtain rfl := eq_filePlan_of_applyAll hover hchain
  obtain ⟨e₁, n, hsetup, hload⟩ :=
    exists_load_of_prepared (files_filePlan hfile hquoted hover) hread hprepared
  have hholds := hkeeps.holds_of_load (husual e₁ hsetup) hheader hload
  obtain ⟨d, -, htools⟩ := Tool.applyAll_cons_eq_ok_iff.1 hchain
  have hpipeline : IsFilePipeline file columns tools :=
    ⟨hquoted, whole_of_read hread, hplain, hover,
      fun shown hshown => shown_ne_nil_of_applyAll htools hshown⟩
  refine hpipeline.answersTools_run hanswers hholds (fun row hrow => ?_) hresult
  obtain ⟨cells, -, rfl⟩ := List.mem_map.1 hrow
  exact holds_storedRow columns cells

/-! ## Small files -/

/-- A directory with one file. -/
def oneFile (name content : String) : Workspace where
  files := [([name], .bytes (Text.bytesOf content))]

/-- Tools that leave the names of people younger than forty. -/
def youngPeople : List Tool :=
  [.sort { fields := ["name"] },
    .grep { field? := some "age", predicate? := some "<", value? := some "40" },
    .cut { fields := ["name"] }, .head {}]

theorem evaluate_youngPeople :
    let content := "name,age\nAda,42\nBob,7\n"
    let columns : List FileColumn := [⟨"name", .text⟩, ⟨"age", .integer⟩]
    let chain : Chain := ⟨[filePlan "people.csv" youngPeople]⟩
    let evaluated := ((evaluate (Host.ofWorkspace [] []) {} chain .csv none).run
      (oneFile "people.csv" content)).1
    ∃ report, IsReport .ofDatabases [] [] {} chain .csv none {} (oneFile "people.csv" content)
        report ∧
      evaluated = ⟨report.result, report.sink.map fun writer => writer.text?.getD ""⟩ ∧
      AnswersTools Rules.ofDatabase columns youngPeople
        (loadedRows columns (recordsOf "people.csv" (Text.bytesOf content))) report ⟨1, 1⟩ := by
  intro content columns chain evaluated
  have hfile : isFile "people.csv" = true := by decide +kernel
  have hstart : Text.startsWith "\"" "people.csv" = false := by decide +kernel
  have hchain : Tool.applyAll (.cat { datasets := ["people.csv"] } :: youngPeople) .empty =
      .ok chain := by decide +kernel
  have hconnect : ((Host.ofWorkspace [] []).connect ({} : Settings).database).run
      (oneFile "people.csv" content) = (.ok ({}, {}), oneFile "people.csv" content) := rfl
  have hread : (oneFile "people.csv" content).read "people.csv" =
      .ok (Text.bytesOf content) := by decide +kernel
  have hheader : (Table.ofBytes (delimiterOf (delimiter? "people.csv"))
      (Text.bytesOf content)).columns = .ok columns := by decide +kernel
  have hplain : ∀ name ∈ namesOf columns, Sql.IsPlainName name := by
    have hname : Sql.IsPlainName "name" :=
      ⟨.of_all (by decide) (by decide) (by decide), by decide +kernel⟩
    have hage : Sql.IsPlainName "age" :=
      ⟨.of_all (by decide) (by decide) (by decide), by decide +kernel⟩
    simp [columns, namesOf, hname, hage]
  have hover : ∀ t ∈ youngPeople, t.IsOver (namesOf columns) := by decide +kernel
  have hresult : evaluated.result = .ok ⟨1, 1⟩ := by decide +kernel
  exact evaluate_filePipeline .ofDatabases (Host.ofWorkspace [] []).keepDatabase
    keeps_databaseStore answers_databaseConnection hfile hstart hchain hconnect
    (fun _ _ => trivial) hread hheader hplain hover hresult

/-- Two files that a statement does not reach: the name of one starts with a quote, so it is taken
for a reference already, and the name of a column of the other is a number. -/
theorem evaluate_misread :
    (let file := "\"a\" -- .csv"
      let content := "id,age\n1,42\n2,7\n"
      let columns : List FileColumn := [⟨"id", .integer⟩, ⟨"age", .integer⟩]
      let settings : Settings :=
        { initSql := some "CREATE TABLE a (x INTEGER); INSERT INTO a VALUES (5);" }
      let chain : Chain := ⟨[filePlan file []]⟩
      let evaluated := ((evaluate (Host.ofWorkspace [] []) settings chain .csv none).run
        (oneFile file content)).1
      isFile file = true ∧
        (Table.ofBytes (delimiterOf (delimiter? file)) (Text.bytesOf content)).columns =
          .ok columns ∧
        Tool.applyAll [.cat { datasets := [file] }] .empty = .ok chain ∧
        evaluated.result = .ok ⟨1, 1⟩ ∧ evaluated.text? = some "x\n5\n" ∧
        Tool.answerRows Rules.ofDatabase columns [] (loadedRows columns (recordsOf file (Text.bytesOf content))) =
          [[.whole 1, .whole 42], [.whole 2, .whole 7]]) ∧
    (let file := "n.csv"
      let content := "1\n5\n7\n"
      let columns : List FileColumn := [⟨"1", .integer⟩]
      let tools : List Tool := [.cut { fields := ["1"] }]
      let chain : Chain := ⟨[filePlan file tools]⟩
      let evaluated := ((evaluate (Host.ofWorkspace [] []) {} chain .csv none).run
        (oneFile file content)).1
      isFile file = true ∧
        (Table.ofBytes (delimiterOf (delimiter? file)) (Text.bytesOf content)).columns =
          .ok columns ∧
        (∀ t ∈ tools, t.IsOver (namesOf columns)) ∧
        Tool.applyAll (.cat { datasets := [file] } :: tools) .empty = .ok chain ∧
        evaluated.result = .ok ⟨1, 2⟩ ∧ evaluated.text? = some "1\n1\n1\n" ∧
        Tool.answerRows Rules.ofDatabase columns tools
            (loadedRows columns (recordsOf file (Text.bytesOf content))) =
          [[.whole 5], [.whole 7]]) := by
  decide +kernel

end Evaluations

end QueryPipe.Session

import QueryPipe.Proofs.Evaluation.WholeFile
import QueryPipe.Proofs.Session.FilePipeline

/-!
# A file piped through

A file that is read whole and written as comma separated values comes out record by record, in
its order, with a field for each column of its header. A field is empty where the cell was missing
or empty. It is also empty where the cell was lost: where the word for no number stood among
floating point numbers.

That takes a library which loads a file where there is room for it and answers a question for all of
it, statements in the settings that leave the usual state behind, and memory for a batch.

* `exists_prepared`: the file is loaded.
* `evaluate_of_prepared`: what an evaluation without a file to write to comes to.
* `evaluate_wholeFile`: what is written of a file.
-/

namespace QueryPipe.Session

open Command Dataset
open QueryPipe.Evaluation (IsShownWhole Summary answers_databaseConnection filePlan
  serves_databaseConnection)
open Sql (Rules)
open Storage (Workspace)

section WholeFile

variable {α δ τ : Type} {library : Library δ τ} {rules : Rules} {view : View δ τ}
  {env : List (String × String)} {document bytes : List UInt8} {file : String}
  {connect : StateM Workspace (Except Fault (α × δ))} {keep : α → δ → StateM Workspace Unit}
  {settings : Settings} {chain : Chain} {w w₀ : Workspace} {address : α} {e₀ e : δ}
  {names : List String} {records : List (List String)}

/-- An evaluation whose result goes nowhere else, once everything is prepared. -/
theorem evaluate_of_prepared {w₁ : Workspace} (hconnect : connect.run w = (.ok (address, e₀), w₀))
    (hprepared : (prepared library (Host.ofWorkspace env document) settings chain e₀).run w₀ =
      ((.ok (), e), w₁)) :
    ((evaluateOn library (Host.ofWorkspace env document) connect keep settings chain .csv
        none).run w).1 =
      let report := QueryPipe.Evaluation.run library.connection.engine
        (Evaluation.Sink.ofFormat .csv) settings.batchSize chain {} e
      ⟨report.result, report.sink.map fun writer => writer.text?.getD ""⟩ := by
  rw [evaluateOn, run_bind_of_run hconnect, run_bind_of_run hprepared]
  rfl

/-- The file that a chain names is loaded where there is room for it. -/
theorem exists_prepared (hkeeps : library.store.Keeps view) (hserves : library.store.Serves view)
    (hfiles : chain.files = [file]) (hsetup : afterSetup library settings e₀ = (.ok (), e))
    (husual : view.usual e) (hvacant : view.vacant e file) (hread : w₀.read file = .ok bytes)
    (hreads : (Table.ofBytes (delimiterOf (delimiter? file)) bytes).Reads names records)
    (hheader : IsPlainHeader names) :
    ∃ columns e', (prepared library (Host.ofWorkspace env document) settings chain e₀).run w₀ =
        ((.ok (), e'), w₀) ∧
      (Table.ofBytes (delimiterOf (delimiter? file)) bytes).columns = .ok columns ∧
      namesOf columns = names ∧ view.holds e' file columns (loadedRows columns records) := by
  obtain ⟨columns, e', hcolumns, hnames, hload⟩ :=
    hserves.exists_load hkeeps husual hvacant (whole_of_read hread) hreads hheader
  have hholds := hkeeps.holds_of_load husual hcolumns hload
  rw [hreads.recordsOf_eq] at hholds
  refine ⟨columns, e', ?_, hcolumns, hnames, hholds⟩
  rw [prepared, hsetup, hfiles]
  have hrun : (loadFiles library (Host.ofWorkspace env document) [file] e).run w₀ = _ :=
    loadFiles_singleton library hread e
  rw [hload] at hrun
  exact hrun

variable (library keep) in
/-- A file that is piped through comes out whole, but for the word for no number among floating
point numbers. -/
theorem evaluate_wholeFile (hkeeps : library.store.Keeps view)
    (hloads : library.store.Serves view)
    (hanswers : library.connection.Answers rules view) (hserves : library.connection.Serves view)
    (hroom : library.connection.HasRoom settings.batchSize) (hfile : isFile file = true)
    (hstart : Text.startsWith "\"" file = false)
    (hchain : Tool.applyAll [.cat { datasets := [file] }] .empty = .ok chain)
    (hconnect : connect.run w = (.ok (address, e₀), w₀))
    (hsetup : afterSetup library settings e₀ = (.ok (), e)) (husual : view.usual e)
    (hvacant : view.vacant e file) (hread : w₀.read file = .ok bytes)
    (hreads : (Table.ofBytes (delimiterOf (delimiter? file)) bytes).Reads names records)
    (hheader : IsPlainHeader names) :
    ∃ summary text shown,
      ((evaluateOn library (Host.ofWorkspace env document) connect keep settings chain .csv
          none).run w).1 =
        ⟨.ok summary, some text⟩ ∧
      summary.rows = records.length ∧
      (Table.ofBytes commaByte (Text.bytesOf text)).Reads names shown ∧
      List.Forall₂ (ShowsRecord names.length records) records shown := by
  have hquoted := reference_eq hfile hstart
  have hover : ∀ t ∈ ([] : List Tool), t.IsOver names := nofun
  obtain rfl := eq_filePlan_of_applyAll hover hchain
  obtain ⟨columns, e', hprepared, hcolumns, hnames, hholds⟩ := exists_prepared hkeeps hloads
    (files_filePlan hfile hquoted hover) hsetup husual hvacant hread hreads hheader
  have hsome : columns ≠ [] := by
    rintro rfl
    exact hreads.named hnames.symm
  have hwhole : IsShownWhole file columns :=
    ⟨hquoted, whole_of_read hread, hsome, hnames ▸ hheader.nodup⟩
  obtain ⟨summary, text, hresult, hsink, hcount, htext⟩ :=
    hwhole.run_eq hanswers hserves hholds hroom
  have hshown := forall₂_showsRecord hreads hcolumns
  refine ⟨summary, text, _, ?_, hcount, ?_, hshown⟩
  · rw [evaluate_of_prepared hconnect hprepared]
    simp only [hresult, hsink]
    rfl
  · rw [htext, hnames]
    refine Output.Csv.reads_linesOf hreads.named (fun f hf => ?_) fun fields hfields => ?_
    · exact (hheader.plain f (List.mem_of_mem_head? hf)).markless
    · obtain ⟨cells, -, rfl⟩ := List.mem_map.1 hfields
      rw [ne_eq, ← List.length_eq_zero_iff, length_shownRecord, List.length_eq_zero_iff]
      exact hsome

end WholeFile

/-! ## Small files -/

section Scores

/-- A file of scores: one is no number, one is missing, and one record is short. -/
def scores : String := "id,score\n1,nan\n2,0.5\n3,\n4\n"

theorem evaluate_wholeFile_scores :
    let chain : Chain := ⟨[filePlan "m.csv" []]⟩
    let records := [["1", "nan"], ["2", "0.5"], ["3", ""], ["4"]]
    let evaluated := ((evaluate (Host.ofWorkspace [] []) {} chain .csv none).run
      (oneFile "m.csv" scores)).1
    ∃ summary text shown, evaluated = ⟨.ok summary, some text⟩ ∧ summary.rows = 4 ∧
      (Table.ofBytes commaByte (Text.bytesOf text)).Reads ["id", "score"] shown ∧
      List.Forall₂ (ShowsRecord 2 records) records shown := by
  intro chain records evaluated
  have hfile : isFile "m.csv" = true := by decide +kernel
  have hstart : Text.startsWith "\"" "m.csv" = false := by decide +kernel
  have hchain : Tool.applyAll [.cat { datasets := ["m.csv"] }] .empty = .ok chain := by
    decide +kernel
  have hconnect : ((Host.ofWorkspace [] []).connect ({} : Settings).database).run
      (oneFile "m.csv" scores) = (.ok ({}, {}), oneFile "m.csv" scores) := rfl
  have hsetup : afterSetup .ofDatabases {} {} = (.ok (), {}) := rfl
  have hroom : HasRoomFor {} "m.csv" :=
    ⟨rfl, by decide +kernel, by decide +kernel, by decide +kernel⟩
  have hread : (oneFile "m.csv" scores).read "m.csv" = .ok (Text.bytesOf scores) := by
    decide +kernel
  have hreads : (Table.ofBytes (delimiterOf (delimiter? "m.csv")) (Text.bytesOf scores)).Reads
      ["id", "score"] records :=
    ⟨by decide +kernel, by decide, by decide +kernel⟩
  have hheader : IsPlainHeader ["id", "score"] := by
    have hid : IsPlainHeading "id" :=
      ⟨by decide, by decide +kernel, by decide, by decide⟩
    have hscore : IsPlainHeading "score" :=
      ⟨by decide, by decide +kernel, by decide, by decide⟩
    exact ⟨by simp [hid, hscore], by decide +kernel, by decide⟩
  have hmemory : Library.ofDatabases.connection.HasRoom ({} : Settings).batchSize := by
    decide +kernel
  have hvacant : databaseView.vacant {} "m.csv" := hroom
  exact evaluate_wholeFile .ofDatabases (Host.ofWorkspace [] []).keepDatabase
    keeps_databaseStore serves_databaseStore answers_databaseConnection serves_databaseConnection
    hmemory hfile hstart hchain hconnect hsetup trivial hvacant hread hreads hheader

/-- The word for no number is not written again: the second field of the first record is empty,
though its cell is not. -/
theorem evaluate_lostScore :
    let content := "id,score\n1,nan\n2,0.5\n"
    let chain : Chain := ⟨[filePlan "m.csv" []]⟩
    let evaluated := ((evaluate (Host.ofWorkspace [] []) {} chain .csv none).run
      (oneFile "m.csv" content)).1
    Tool.applyAll [.cat { datasets := ["m.csv"] }] .empty = .ok chain ∧
      (Table.ofBytes (delimiterOf (delimiter? "m.csv")) (Text.bytesOf content)).names =
        .ok ["id", "score"] ∧
      (Table.ofBytes (delimiterOf (delimiter? "m.csv")) (Text.bytesOf content)).data =
        [.ok ["1", "nan"], .ok ["2", "0.5"]] ∧
      cellAt? 1 ["1", "nan"] = some "nan" ∧
      evaluated.result = .ok ⟨1, 2⟩ ∧ evaluated.text? = some "id,score\n1,\n2,0.5\n" ∧
      (Table.ofBytes commaByte (Text.bytesOf "id,score\n1,\n2,0.5\n")).data =
        [.ok ["1", ""], .ok ["2", "0.5"]] := by
  decide +kernel

end Scores

end QueryPipe.Session

import QueryPipe.Proofs.Command.Folding
import QueryPipe.Proofs.Wire.ChainDocument
import QueryPipe.Session.Run

/-!
# Tools in a pipe

Tools that run as programs of their own, each reading what the one before it wrote, do what they
do one after another on one chain. Between two of them stands the document of the chain, and it is
read back as that chain. Only the first tool has nothing to read: one that starts a stage makes do
with no chain there, and any other fails, as it would on the chain without plans.

* `step_traveling`: one tool, away from terminals, on the chain that travels to it.
* `pipe_append_of_ok`: tools that succeed hand on what they make.
* `Transparent`, `pipe_transparent`: a whole pipe, whether all its tools succeed or one fails.
-/

namespace QueryPipe.Chain

/-- What travels between tools: the document of the chain, or nothing where there is no plan. -/
def traveling (c : Chain) : List UInt8 := if c.isEmpty then [] else c.dump

theorem traveling_empty : Chain.empty.traveling = [] := rfl

theorem isEmpty_eq_false {c : Chain} (hc : c ≠ .empty) : c.isEmpty = false := by
  rcases c.eq_empty_or_push with rfl | ⟨init, p, rfl⟩
  · exact absurd rfl hc
  · simp [isEmpty]

theorem traveling_of_ne_empty {c : Chain} (hc : c ≠ .empty) : c.traveling = c.dump := by
  simp only [traveling, isEmpty_eq_false hc, Bool.false_eq_true, if_false]

end QueryPipe.Chain

namespace QueryPipe.Command.Tool

variable {t : Tool} {c d : Chain}

/-! ## One tool -/

theorem ne_empty_of_apply (ht : t.isEval = false) (h : t.apply c = .ok d) : d ≠ .empty := by
  rcases apply_cases h with ⟨s, -, rfl⟩ | ⟨-, init, p, -, -, rfl⟩ | ⟨r, rfl, -, -⟩
  · exact Chain.push_ne_empty c _
  · exact Chain.push_ne_empty init _
  · cases ht

theorem ne_empty_of_applyAll {tools : List Tool} (htools : ∀ t ∈ tools, t.isEval = false)
    (hne : tools ≠ []) (h : applyAll tools c = .ok d) : d ≠ .empty := by
  obtain ⟨front, t, rfl⟩ := (List.eq_nil_or_concat tools).resolve_left hne
  rw [List.concat_eq_append] at h htools
  obtain ⟨e, -, hlast⟩ := applyAll_append_eq_ok_iff.1 h
  obtain ⟨f, hf, hnil⟩ := applyAll_cons_eq_ok_iff.1 hlast
  obtain rfl : f = d := Except.ok.inj hnil
  exact ne_empty_of_apply (htools t (by simp)) hf

/-- A chain that travels comes in as it was. -/
theorem input_traveling (h : c ≠ .empty ∨ t.startsStage = true) :
    t.input false c.traveling = .ok c := by
  by_cases hc : c = .empty
  · subst hc
    obtain ⟨problem, hload⟩ := Chain.exists_load_nil_eq_error
    have ht : t.startsStage = true := h.resolve_left fun hne => hne rfl
    simp only [input, Chain.traveling_empty, ht, hload, if_true, Bool.false_eq_true, if_false]
  · simp only [input, Chain.traveling_of_ne_empty hc, Chain.load_dump, Chain.isEmpty_eq_false hc,
      Bool.false_eq_true, if_false, ite_self]

theorem exists_fault_of_input_nil (ht : t.startsStage = false) :
    ∃ fault, t.input false [] = .error fault := by
  obtain ⟨problem, hload⟩ := Chain.exists_load_nil_eq_error
  exact ⟨.wire problem, by simp only [input, ht, Bool.false_eq_true, if_false, hload]⟩

theorem action_of_not_eval (ht : t.isEval = false) (c : Chain) (s : Settings) :
    t.action c {} s = .emit c := by
  cases t with
  | eval r => cases ht
  | _ => rfl

/-- Away from terminals, a tool that does not evaluate hands on what it makes of the chain that
travels to it. -/
theorem step_traveling (ht : t.isEval = false) (h : c ≠ .empty ∨ t.startsStage = true)
    (s : Settings) : t.step {} s c.traveling = (t.apply c).map .emit := by
  have hinput : t.input ({} : Terminals).input c.traveling = .ok c := input_traveling h
  simp only [step, hinput, bind, Except.bind]
  cases t.apply c with
  | error fault => rfl
  | ok d => exact congrArg Except.ok (action_of_not_eval ht d s)

end QueryPipe.Command.Tool

namespace QueryPipe.Session

open Command Command.Tool

/-- The outcome of handing a chain on, after some notes. -/
def Outcome.ofChain (notes : List String) (chain : Chain) : Outcome where
  ending := .ran .success
  output := chain.dump
  notes := notes

@[simp] theorem Outcome.output_ofChain (notes : List String) (c : Chain) :
    (Outcome.ofChain notes c).output = c.dump := by
  rw [Outcome.ofChain]

section Pipe

variable {m : Type → Type} [Monad m]

/-- Tools in a pipe: each reads what the one before it wrote, and no end is a terminal. -/
def pipe (host : Host m) (s : Settings) : List Tool → List UInt8 → m (List Outcome)
  | [], _ => return []
  | t :: rest, document => do
    let outcome ← answer host {} s t document
    return outcome :: (← pipe host s rest outcome.output)

variable (host : Host m) (s : Settings) {t : Tool} {c d : Chain}

theorem perform_emit (notes : List String) (c : Chain) :
    perform host s notes (.emit c) = pure (.ofChain notes c) := rfl

theorem answer_of_ok (ht : t.isEval = false) (h : t.apply c = .ok d) :
    answer host {} s t c.traveling = pure (.ofChain (levelNotes s) d) := by
  have hready : c ≠ .empty ∨ t.startsStage = true := by
    by_contra hnot
    rw [not_or, not_not, Bool.not_eq_true] at hnot
    obtain ⟨rfl, hstarts⟩ := hnot
    obtain ⟨r, rfl, -⟩ := exists_eval_of_apply_empty hstarts h
    cases ht
  simp only [answer, step_traveling ht hready, h, Except.map, perform_emit]

/-- A tool that fails on a chain fails in the pipe, and with the same fault unless there was
nothing to read. -/
theorem answer_of_error (ht : t.isEval = false) {fault : Fault} (h : t.apply c = .error fault) :
    ∃ failing, answer host {} s t c.traveling = pure (.ofFault (levelNotes s) failing) ∧
      (c ≠ .empty → failing = fault) := by
  by_cases hc : c = .empty
  · subst hc
    obtain ⟨failing, hfailing⟩ := exists_fault_of_input_nil (startsStage_of_apply_eq_error h)
    have hstep : t.step {} s [] = .error failing := by
      have hinput : t.input ({} : Terminals).input [] = .error failing := hfailing
      simp only [step, hinput, bind, Except.bind]
    exact ⟨failing, by simp only [answer, Chain.traveling_empty, hstep], fun h => absurd rfl h⟩
  · exact ⟨fault, by simp only [answer, step_traveling ht (.inl hc), h, Except.map], fun _ => rfl⟩

/-! ## The pipe -/

variable [LawfulMonad m]

/-- Tools that succeed write what they make, one chain after another, and the tools after them
run on the last. -/
theorem pipe_append_of_ok {before : List Tool} (hbefore : ∀ t ∈ before, t.isEval = false)
    (h : applyAll before c = .ok d) (after : List Tool) :
    pipe host s (before ++ after) c.traveling =
      ((trail before c).map (Outcome.ofChain (levelNotes s)) ++ ·) <$>
        pipe host s after d.traveling := by
  induction before generalizing c with
  | nil =>
    cases h
    simp [trail]
  | cons t rest ih =>
    obtain ⟨e, he, hd⟩ := applyAll_cons_eq_ok_iff.1 h
    have ht := hbefore t (List.mem_cons_self ..)
    have houtput : (Outcome.ofChain (levelNotes s) e).output = e.traveling := by
      rw [Outcome.output_ofChain, Chain.traveling_of_ne_empty (ne_empty_of_apply ht he)]
    rw [List.cons_append, pipe, answer_of_ok host s ht he, pure_bind, houtput,
      ih (fun u hu => hbefore u (List.mem_cons_of_mem _ hu)) hd, trail_cons_of_ok he]
    simp

/-- Every tool hands on what it and the tools in front of it make together. -/
structure Emits (s : Settings) (tools : List Tool) (outcomes : List Outcome) : Prop where
  /-- There is one outcome for each tool. -/
  length : outcomes.length = tools.length
  /-- Each is the chain of the tools so far, handed on. -/
  each : ∀ (i : Nat) (o : Outcome), outcomes[i]? = some o →
    ∃ c, applyAll (tools.take (i + 1)) .empty = .ok c ∧ o = .ofChain (levelNotes s) c

/-- The tool fails and writes nothing. -/
structure Fails (s : Settings) (fault : Fault) (o : Outcome) : Prop where
  /-- It ends as the fault says, which is never well. -/
  ending : o.ending = .ran fault.exitStatus ∧ fault.exitStatus ≠ .success
  /-- Nothing goes out. -/
  output : o.output = []
  /-- The fault is told to the user. -/
  notes : o.notes = levelNotes s ++ [fault.message]

theorem fails_ofFault (fault : Fault) : Fails s fault (.ofFault (levelNotes s) fault) where
  ending := ⟨rfl, fault.exitStatus_ne_success⟩
  output := rfl
  notes := rfl

theorem emits_trail {tools : List Tool} {p : Chain} (h : applyAll tools .empty = .ok p) :
    Emits s tools ((trail tools .empty).map (Outcome.ofChain (levelNotes s))) where
  length := by rw [List.length_map, length_trail h]
  each i o ho := by
    rw [List.getElem?_map, Option.map_eq_some_iff] at ho
    obtain ⟨c, hc, rfl⟩ := ho
    exact ⟨c, applyAll_take_of_getElem?_trail hc, rfl⟩

theorem Emits.output_getLast {tools : List Tool} {outcomes : List Outcome} {p : Chain}
    (he : Emits s tools outcomes) (h : applyAll tools .empty = .ok p) {o : Outcome}
    (ho : outcomes.getLast? = some o) : o.output = p.dump := by
  have hpos : 0 < tools.length := by
    rw [← he.length]
    exact List.length_pos_of_mem (List.mem_of_getLast? ho)
  rw [List.getLast?_eq_getElem?, he.length] at ho
  obtain ⟨c, hc, rfl⟩ := he.each _ o ho
  rw [Nat.sub_add_cancel hpos, List.take_length] at hc
  obtain rfl : c = p := Except.ok.inj (hc.symm.trans h)
  exact Outcome.output_ofChain _ _

/-- What a pipe makes of tools is what they make one after another on one chain. -/
structure Transparent (host : Host m) (s : Settings) (tools : List Tool) : Prop where
  /-- Where they give a chain, each hands on what they make so far, and what the last one writes
  is the document of that chain and a line feed. -/
  succeeds : ∀ p, applyAll tools .empty = .ok p →
    ∃ outcomes, pipe host s tools [] = pure outcomes ∧ Emits s tools outcomes ∧
      ∀ o, outcomes.getLast? = some o → o.output = Text.bytesOf (p.encode ++ "\n")
  /-- Where one is the first to fail, those in front of it hand on what they make, it fails and
  writes nothing, and it does so with the same fault unless it is the first of all. -/
  fails : ∀ fault, applyAll tools .empty = .error fault →
    ∃ before t after c, tools = before ++ t :: after ∧ applyAll before .empty = .ok c ∧
      t.apply c = .error fault ∧
      ∃ outcomes failing o, Emits s before outcomes ∧ Fails s failing o ∧
        (before ≠ [] → failing = fault) ∧
        pipe host s tools [] = (outcomes ++ o :: ·) <$> pipe host s after []

/-- Every pipe of tools that do not evaluate is transparent. -/
theorem pipe_transparent {tools : List Tool} (htools : ∀ t ∈ tools, t.isEval = false) :
    Transparent host s tools where
  succeeds p hp := by
    have hemits := emits_trail s hp
    have hpipe := pipe_append_of_ok host s htools hp []
    rw [List.append_nil, Chain.traveling_empty] at hpipe
    refine ⟨_, ?_, hemits, ?_⟩
    · rw [hpipe]
      simp [pipe]
    · intro o ho
      rw [hemits.output_getLast s hp ho, Chain.dump]
  fails fault hfault := by
    obtain ⟨before, t, after, c, rfl, hc, hfailing⟩ := exists_failing_of_applyAll_eq_error hfault
    have hbefore : ∀ u ∈ before, u.isEval = false := fun u hu =>
      htools u (List.mem_append_left _ hu)
    have ht : t.isEval = false := htools t (List.mem_append_right _ (List.mem_cons_self ..))
    obtain ⟨failing, hanswer, hsame⟩ := answer_of_error host s ht hfailing
    refine ⟨before, t, after, c, rfl, hc, hfailing, _, failing, _, emits_trail s hc,
      fails_ofFault s failing, fun hne => hsame (ne_empty_of_applyAll hbefore hne hc), ?_⟩
    rw [← Chain.traveling_empty, pipe_append_of_ok host s hbefore hc, pipe, hanswer, pure_bind]
    simp [Outcome.ofFault, Chain.traveling_empty]

end Pipe

/-- A statement is cut off, and then columns are chosen of it, which has none to choose from. -/
theorem pipe_transparent_of_statement :
    applyAll [.sql "SELECT 1", .head {}] .empty =
        .ok ⟨[{ raw := some "SELECT 1", limit := some 10 }]⟩ ∧
      Transparent (Host.ofWorkspace [] []) {} [.sql "SELECT 1", .head {}] ∧
      applyAll [.sql "SELECT 1", .head {}, .cut { fields := ["a"] }] .empty =
        .error (.chain (.plan .missingSelect)) ∧
      Transparent (Host.ofWorkspace [] []) {}
        [.sql "SELECT 1", .head {}, .cut { fields := ["a"] }] :=
  ⟨rfl, pipe_transparent (Host.ofWorkspace [] []) {} (by decide), rfl,
    pipe_transparent (Host.ofWorkspace [] []) {} (by decide)⟩

end QueryPipe.Session

import NotebookCheck.Proofs.ConfigurationRoundTrip
import NotebookCheck.Proofs.ConfigurationVerdict
import NotebookCheck.Proofs.EnvironmentOverrides

namespace NotebookCheck

namespace Configuration

open Toml

theorem Kind.admits_of_ofNode? {k : Kind} {node : Node} {v : Value} (h : k.ofNode? node = some v) :
    k.Admits v := by
  cases k with
  | text | flag =>
      cases node <;> cases h
      trivial
  | count bits =>
      cases node with
      | whole n =>
          rw [ofNode?] at h
          split at h
          case isTrue hn =>
              cases h
              simp only [Bool.and_eq_true, decide_eq_true_eq] at hn
              exact (Int.toNat_lt hn.1).mpr hn.2
          case isFalse => cases h
      | text _ | flag _ | real _ | time _ | array _ | table _ _ | listed _ _ => cases h

theorem fitsKinds_default : FitsKinds {} := by
  intro f
  cases f <;> first | trivial | (change _ < Nat.pow 2 _; decide)

theorem FitsKinds.set {c : Configuration} {f : Field} {v : Value} (hc : c.FitsKinds)
    (hv : f.kind.Admits v) : (c.set f v).FitsKinds := by
  intro g
  by_cases hg : g = f
  · subst hg
    rw [get_set_self hv]
    exact hv
  · rw [get_set_of_ne c hg]
    exact hc g

section Reading

variable {c d : Configuration}

theorem FitsKinds.setNode? {f : Field} {node : Node} (hc : c.FitsKinds)
    (h : setNode? f node c = some d) : d.FitsKinds := by
  obtain ⟨v, hv, rfl⟩ := Option.map_eq_some_iff.mp h
  exact hc.set (Kind.admits_of_ofNode? hv)

theorem FitsKinds.setEntries? {entries : Entries} {fields : List Field} (hc : c.FitsKinds)
    (h : setEntries? entries fields c = some d) : d.FitsKinds := by
  induction fields generalizing c with
  | nil =>
      cases h
      exact hc
  | cons f fields ih =>
      rw [Configuration.setEntries?] at h
      split at h
      case h_1 => exact ih hc h
      case h_2 node _ =>
          obtain ⟨c', hc', hrest⟩ := Option.bind_eq_some_iff.mp h
          exact ih (hc.setNode? hc') hrest

theorem FitsKinds.setItems? {items : List Node} {fields : List Field} (hc : c.FitsKinds)
    (h : setItems? items fields c = some d) : d.FitsKinds := by
  induction items, fields, c using Configuration.setItems?.induct with
  | case1 node items f fields c ih =>
      rw [Configuration.setItems?] at h
      obtain ⟨c', hc', hrest⟩ := Option.bind_eq_some_iff.mp h
      exact ih c' (hc.setNode? hc') hrest
  | case2 items fields c hshape =>
      rw [Configuration.setItems?] at h
      · cases h
        exact hc
      · exact hshape

theorem FitsKinds.setSection? {entries : Entries} {s : Section} (hc : c.FitsKinds)
    (h : setSection? entries s c = some d) : d.FitsKinds := by
  rw [Configuration.setSection?] at h
  cases hlookup : entries.lookup s.name with
  | none =>
      rw [hlookup] at h
      cases h
      exact hc
  | some node =>
      rw [hlookup] at h
      cases node with
      | table _ entries => exact hc.setEntries? h
      | array items => exact hc.setItems? h
      | time _ =>
          cases h
          exact hc
      | text _ | whole _ | flag _ | real _ | listed _ _ => cases h

theorem FitsKinds.setSections {entries : Entries} {ss : List Section} (hc : c.FitsKinds)
    (h : ss.foldlM (fun c s => Configuration.setSection? entries s c) c = some d) :
    d.FitsKinds := by
  induction ss generalizing c with
  | nil =>
      cases h
      exact hc
  | cons s ss ih =>
      rw [List.foldlM_cons] at h
      obtain ⟨c', hc', hrest⟩ := Option.bind_eq_some_iff.mp h
      exact ih (hc.setSection? hc') hrest

theorem fitsKinds_of_parse {text : String} (h : parse text = .ok c) : c.FitsKinds := by
  rw [parse] at h
  split at h
  case h_1 hc =>
      cases h
      obtain ⟨entries, -, hentries⟩ := Option.bind_eq_some_iff.mp hc
      exact fitsKinds_default.setSections hentries
  case h_2 => cases h

theorem FitsKinds.overridden {env : Environment} (hc : c.FitsKinds) :
    (c.overridden env).FitsKinds := by
  intro f
  rw [get_overridden]
  cases hgiven : f.given env with
  | none => exact hc f
  | some v => exact Field.admits_of_given hgiven

/-- A loaded configuration has values of the right kinds, whatever the file and the environment
are. -/
theorem fitsKinds_of_load {path : String} {file : File} {env : Environment} {m : Moment}
    (h : (load path file env m).value = some (.ok c)) : c.FitsKinds := by
  obtain ⟨text, parsed, -, hparse, -, rfl, -⟩ := (value_load_eq_ok_iff path file env m c).mp h
  exact (fitsKinds_of_parse hparse).overridden

end Reading

theorem FitsKinds.read?_sectionText {c : Configuration} (h : c.FitsKinds) (sec : Section) :
    read? (c.sectionText sec) = some (sec.fields.map fun f => (f.key, (c.get f).node)) := by
  have htext : c.sectionText sec = String.ofList ((sec.fields.map c.line).flatMap Line.text) := by
    have hall : sec.fields.filter (fun _ => true) = sec.fields := List.filter_true _
    rw [sectionText, sectionLines, hall, List.flatMap_map]
    rfl
  have hread : ∀ l ∈ sec.fields.map c.line, l.IsRead := by
    intro l hl
    obtain ⟨f, -, rfl⟩ := List.mem_map.mp hl
    exact h.isRead_line f
  have hkeys : ((sec.fields.map c.line).map Line.key).Nodup := by
    rw [List.map_map]
    exact List.Nodup.map key_injective (nodup_fields sec)
  rw [htext, read?_lines hread hkeys, List.map_map]
  rfl

open CommandLine.ConfigReport (serializationError)

theorem read?_serializationError (reason : String) : read? (serializationError reason) = none := by
  have hopen : "(serialization error: ".toList = '(' :: "serialization error: ".toList := by decide
  exact read?_of_round_bracket hopen _

theorem read?_of_parse {c : Configuration} {text : String} (h : parse text = .ok c) :
    read? text ≠ none := by
  intro hnone
  rw [parse, hnone] at h
  cases h

/-- A text is the document of a configuration, or of one section of it: it is read as that
configuration, or as exactly the keys of the section and their values. -/
def IsShownBy (c : Configuration) (text : String) : Option Section → Prop
  | none => parse text = .ok c
  | some sec => read? text = some (sec.fields.map fun f => (f.key, (c.get f).node))

theorem IsShownBy.ne_serializationError {c : Configuration} {text : String}
    {only : Option Section} (h : c.IsShownBy text only) (reason : String) :
    text ≠ serializationError reason := by
  rintro rfl
  have hnone := read?_serializationError reason
  cases only with
  | none => exact read?_of_parse h hnone
  | some sec => exact absurd (hnone.symm.trans h) nofun

theorem FitsKinds.isShownBy_textOf {c : Configuration} (h : c.FitsKinds) (only : Option Section) :
    c.IsShownBy (c.textOf only) only := by
  cases only with
  | none => exact h.parse_text
  | some sec => exact h.read?_sectionText sec

def Writer.CanWrite (w : Writer) : Value → Prop
  | .count n => n ≤ w.greatest
  | .text _ | .flag _ => True

theorem Writer.check_eq_ok_iff (w : Writer) (v : Value) : w.check v = .ok () ↔ w.CanWrite v := by
  cases v with
  | text _ | flag _ => exact iff_of_true rfl trivial
  | count n =>
      rw [check, CanWrite]
      split
      case isTrue h => exact iff_of_true rfl h
      case isFalse h => exact iff_of_false (by simp) h

theorem Writer.check_error {w : Writer} {v : Value} {reason : String}
    (h : w.check v = .error reason) : reason = w.reason := by
  cases v with
  | text _ | flag _ => cases h
  | count n =>
      rw [check] at h
      split at h <;> cases h
      rfl

theorem Kind.Admits.canWrite {f : Field} {v : Value} (h : f.kind.Admits v) {w : Writer}
    (hw : UInt64.size ≤ w.greatest + 1) : w.CanWrite v := by
  cases v with
  | text _ | flag _ => trivial
  | count n =>
      have hn : n < UInt64.size := by
        cases f with
        | logTailLines => exact Nat.lt_trans h (by decide)
        | readinessTimeout | pollInterval | connectionTimeout | packageTimeout
          | overallTimeout => exact h
        | logLevel | logFormat | namespaceName | context | runtime
          | collectDiagnostics => exact h.elim
      exact Nat.le_of_lt_succ (hn.trans_le hw)

section Fields

variable (w : Writer) (c : Configuration)

theorem forM_check (fields : List Field) :
    ((∀ f ∈ fields, w.CanWrite (c.get f)) ∧
        forM fields (fun f => w.check (c.get f)) = .ok ()) ∨
      ((∃ f ∈ fields, ¬ w.CanWrite (c.get f)) ∧
        forM fields (fun f => w.check (c.get f)) = .error w.reason) := by
  induction fields with
  | nil => exact .inl ⟨nofun, rfl⟩
  | cons f fields ih =>
      rw [List.forM_cons, List.forall_mem_cons, List.exists_mem_cons_iff]
      cases hcheck : w.check (c.get f) with
      | error reason =>
          have hbad : ¬ w.CanWrite (c.get f) := by
            rw [← w.check_eq_ok_iff, hcheck]
            nofun
          exact .inr ⟨.inl hbad, congrArg Except.error (w.check_error hcheck)⟩
      | ok _ =>
          have hgood : w.CanWrite (c.get f) := (w.check_eq_ok_iff _).mp hcheck
          exact ih.imp (fun h => ⟨⟨hgood, h.1⟩, h.2⟩) fun h => ⟨.inr h.1, h.2⟩

theorem document_cases (only : Option Section) :
    ((∀ f ∈ fieldsOf only, w.CanWrite (c.get f)) ∧
        c.document w only = .ok (c.textOf only)) ∨
      ((∃ f ∈ fieldsOf only, ¬ w.CanWrite (c.get f)) ∧ c.document w only = .error w.reason) := by
  refine (forM_check w c (fieldsOf only)).imp (fun h => ⟨h.1, ?_⟩) fun h => ⟨h.1, ?_⟩
  · rw [document, h.2]
    rfl
  · rw [document, h.2]
    rfl

end Fields

end Configuration

namespace CommandLine

open NotebookCheck.Configuration (IsShownBy)
open ConfigReport (serializationError)

theorem pickSection_name (only : Option Configuration.Section) :
    pickSection (only.map (·.name)) = .ok only := by
  cases only with
  | none => rfl
  | some sec => cases sec <;> decide

section Showing

variable (s : Surroundings) (format : Format) {path : String} {c : Configuration}
  (hsettled : Configuration.settled path (s.file path) s.env = .ok c)
  (only : Option Configuration.Section)

include hsettled

theorem showConfig_of_settled (m : Moment) :
    let t := (showConfig s format path (only.map (·.name))).run m
    t.value = some (.ok ()) ∧
      t.prints =
        [s.rendered format (ConfigReport.ofConfiguration s.writer path only c).report] := by
  intro t
  have hload (m : Moment) : ((loadToShow s path).run m).value = some (.ok c) := by
    rw [run_loadToShow, hsettled]
    rfl
  have hprints (m : Moment) : ((loadToShow s path).run m).prints = [] := by
    rw [run_loadToShow]
    exact (Configuration.records_load path _ s.env).prints_of_events m
  have hsteps : t = (showConfig s format path (only.map (·.name))).run m := rfl
  rw [hsteps, showConfig_eq, run_perform_bind _ rfl, Attempt.run_bind_of_ok _ _ _ (hload _),
    pickSection_name, run_ofExcept_bind, run_conclude]
  refine ⟨rfl, ?_⟩
  rw [Trace.prints_followedBy, Trace.prints_followedBy, hprints]
  rfl

theorem showConfig_run_of_settled (m : Moment) (level : Option String) :
    let t := (Invocation.run ⟨path, level, format, .showConfig (only.map (·.name))⟩ s).run m
    t.value = some (.ok ()) ∧
      t.prints =
        [s.rendered format (ConfigReport.ofConfiguration s.writer path only c).report] := by
  intro t
  have hfile : s.file path ≠ .missing := by
    intro hmissing
    rw [hmissing] at hsettled
    exact absurd hsettled nofun
  have hsteps : t = (Run.perform (loadConfig s path) >>= fun _ =>
      showConfig s format path (only.map (·.name))).run m := rfl
  obtain ⟨hvalue, hprints⟩ := showConfig_of_settled s format hsettled only
    (m.after (loadConfig s path m))
  rw [hsteps, run_perform_bind _ (value_loadConfig s hfile m), Trace.value_followedBy,
    Trace.prints_followedBy, hprints, (records_loadConfig s hfile).prints_of_events m]
  exact ⟨hvalue, rfl⟩

end Showing

theorem ConfigReport.document_cases (w : Configuration.Writer) (path : String)
    (only : Option Configuration.Section) (c : Configuration) :
    let document := (ofConfiguration w path only c).document
    ((∀ f ∈ Configuration.fieldsOf only, w.CanWrite (c.get f)) ∧ document = c.textOf only) ∨
      ((∃ f ∈ Configuration.fieldsOf only, ¬ w.CanWrite (c.get f)) ∧
        document = serializationError w.reason) := by
  intro document
  have hdocument : document = (ofConfiguration w path only c).document := rfl
  rw [hdocument, ofConfiguration]
  refine (Configuration.document_cases w c only).imp (fun h => ⟨h.1, ?_⟩) fun h => ⟨h.1, ?_⟩
  · rw [h.2]
  · rw [h.2]

/-- Surroundings with a time that is as long as a number of 64 bits can tell, and a library that
writes numbers up to the given one. -/
def longWaitSurroundings (greatest : ℕ) : Surroundings where
  file _ := .bytes []
  env name :=
    if name = "WORKBENCH_PROBE_READINESS_TIMEOUT_SECS" then some "18446744073709551615" else none
  styled := false
  connect _ := Attempt.fail (.connection "refused")
  writer := { greatest := greatest }

end CommandLine

end NotebookCheck

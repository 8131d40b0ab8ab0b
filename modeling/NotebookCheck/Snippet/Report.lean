import NotebookCheck.Fault
import NotebookCheck.Json.Record
import NotebookCheck.Ledger

namespace NotebookCheck

open Json Number

/-- A piece of code to run, and the longest time for it in milliseconds. -/
structure SnippetCheck where
  name : String
  code : String
  timeout : Nat
deriving Repr, DecidableEq, Inhabited

namespace SnippetSuite

def standard : List SnippetCheck :=
  [⟨"os", "import os; assert hasattr(os, 'path')", 30000⟩,
    ⟨"sys", "import sys; assert hasattr(sys, 'version')", 30000⟩,
    ⟨"json",
      "import json; assert json.dumps(\x7b'test': 'value'\x7d) == '\x7b\"test\": \"value\"\x7d'",
      30000⟩,
    ⟨"datetime", "import datetime; assert datetime.datetime.now() is not None", 30000⟩]

def dataScience : List SnippetCheck :=
  [⟨"numpy", "import numpy as np; assert np.array([1,2,3]).sum() == 6", 60000⟩,
    ⟨"pandas", "import pandas as pd; assert len(pd.DataFrame(\x7b'a': [1,2,3]\x7d)) == 3", 60000⟩,
    ⟨"matplotlib", "import matplotlib.pyplot as plt; plt.figure()", 60000⟩,
    ⟨"sklearn",
      "from sklearn.datasets import make_classification; make_classification(n_samples=10)",
      60000⟩]

def ofName (name : String) : Except Fault (List SnippetCheck) :=
  match name with
  | "standard" => .ok standard
  | "data-science" => .ok dataScience
  | "all" => .ok (standard ++ dataScience)
  | other =>
      .error (.validation
        s!"unknown snippet suite '{other}' (expected standard, data-science or all)")

end SnippetSuite

structure SnippetOutcome where
  success : Bool
  output : String
  seconds : Binary64
deriving Repr, DecidableEq, Inhabited

def SnippetOutcome.toJson (o : SnippetOutcome) : Json :=
  .object [("success", .bool o.success), ("output", .string o.output),
    ("elapsed_seconds", .real o.seconds)]

def SnippetOutcome.ofJson? (j : Json) : Option SnippetOutcome := do
  match ← slots? ["success", "output", "elapsed_seconds"] j with
  | [success, output, seconds] =>
      return {
        success := ← success.required bool?
        output := ← output.required text?
        seconds := ← seconds.required number? }
  | _ => none

abbrev SnippetReport := Ledger SnippetOutcome

namespace SnippetReport

def criticalModules : List String := ["os", "sys", "json"]

def failed (r : SnippetReport) : List String := r.namesWhere fun x => !x.success

def successful (r : SnippetReport) : List String := r.namesWhere (·.success)

def criticalFailures (r : SnippetReport) : List String :=
  criticalModules.filter fun name => (r.get? name).any fun o => !o.success

def toJson (r : SnippetReport) : Json :=
  .object (r.entries.map fun e => (e.1, e.2.toJson))

end SnippetReport

end NotebookCheck

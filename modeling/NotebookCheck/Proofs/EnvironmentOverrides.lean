import Mathlib.Data.List.Nodup
import NotebookCheck.Configuration.Environment
import NotebookCheck.Proofs.ConfigurationRoundTrip

namespace NotebookCheck.Configuration

/-- A text consists of decimal digits, perhaps after a plus sign, and they are the digits of a number
of so many bits.  There may be zeros in front. -/
def IsNumeral (bits n : ℕ) (text : String) : Prop :=
  ∃ plus digits, text.toList = plus ++ digits ∧ (plus = [] ∨ plus = ['+']) ∧ digits ≠ [] ∧
    (∀ c ∈ digits, c.isDigit) ∧ Nat.ofDigitChars 10 digits 0 = n ∧ n < Nat.pow 2 bits

/-- A text stands for a value of a kind: every text for itself, two words for the truth values, and
numerals for the numbers that have no more bits. -/
inductive Kind.Spells : Kind → Value → String → Prop
  | text (s : String) : Spells .text (.text s) s
  | yes : Spells .flag (.flag true) "true"
  | no : Spells .flag (.flag false) "false"
  | count {bits n : ℕ} {s : String} : IsNumeral bits n s → Spells (.count bits) (.count n) s

def withoutPlus : List Char → List Char
  | '+' :: rest => rest
  | cs => cs

theorem exists_plus_append_withoutPlus (cs : List Char) :
    ∃ plus, (plus = [] ∨ plus = ['+']) ∧ cs = plus ++ withoutPlus cs := by
  rw [withoutPlus.eq_def]
  split
  case h_1 rest => exact ⟨['+'], .inr rfl, rfl⟩
  case h_2 => exact ⟨[], .inl rfl, rfl⟩

theorem withoutPlus_append {plus digits : List Char} (hplus : plus = [] ∨ plus = ['+'])
    (hdigits : ∀ c ∈ digits, c.isDigit) : withoutPlus (plus ++ digits) = digits := by
  rcases hplus with rfl | rfl
  · rw [List.nil_append, withoutPlus.eq_def]
    split
    case h_1 rest => exact absurd (hdigits '+' List.mem_cons_self) (by decide)
    case h_2 => rfl
  · rfl

theorem readCount?_eq (bits : ℕ) (text : String) :
    readCount? bits text =
      if (withoutPlus text.toList).isEmpty || !(withoutPlus text.toList).all Char.isDigit then none
      else if Nat.ofDigitChars 10 (withoutPlus text.toList) 0 < Nat.pow 2 bits then
        some (Nat.ofDigitChars 10 (withoutPlus text.toList) 0)
      else none := by
  have hvalue (digits : List Char) :
      digits.foldl (fun n c => n * 10 + (c.toNat - '0'.toNat)) 0 = Nat.ofDigitChars 10 digits 0 :=
    List.foldl_ext _ _ 0 fun n c _ => by rw [Nat.mul_comm]
  rw [← hvalue]
  rfl

theorem readCount?_eq_some_iff {bits n : ℕ} {text : String} :
    readCount? bits text = some n ↔ IsNumeral bits n text := by
  rw [readCount?_eq]
  simp only [Option.ite_none_left_eq_some, Option.ite_none_right_eq_some, Option.some.injEq,
    Bool.or_eq_true, Bool.not_eq_true', not_or, Bool.not_eq_true, Bool.not_eq_false,
    List.isEmpty_eq_false_iff, List.all_eq_true]
  constructor
  · rintro ⟨⟨hne, hdigits⟩, hlt, rfl⟩
    obtain ⟨plus, hplus, htext⟩ := exists_plus_append_withoutPlus text.toList
    exact ⟨plus, _, htext, hplus, hne, hdigits, rfl, hlt⟩
  · rintro ⟨plus, digits, htext, hplus, hne, hdigits, rfl, hlt⟩
    rw [htext, withoutPlus_append hplus hdigits]
    exact ⟨⟨hne, hdigits⟩, hlt, rfl⟩

theorem Kind.read?_eq_some_iff {k : Kind} {s : String} {v : Value} :
    k.read? s = some v ↔ k.Spells v s := by
  cases k with
  | text =>
      constructor
      · rintro ⟨⟩
        exact .text s
      · rintro ⟨⟩
        rfl
  | flag =>
      constructor
      · intro h
        rw [read?.eq_def] at h
        split at h
        case h_1 => contradiction
        case h_2 =>
            cases h
            exact .yes
        case h_3 =>
            cases h
            exact .no
        case h_4 => contradiction
        case h_5 => contradiction
      · rintro (_ | _) <;> rfl
  | count bits =>
      rw [read?, Option.map_eq_some_iff]
      constructor
      · rintro ⟨n, hn, rfl⟩
        exact .count (readCount?_eq_some_iff.mp hn)
      · intro h
        cases h with
        | count h => exact ⟨_, readCount?_eq_some_iff.mpr h, rfl⟩

theorem Kind.Spells.admits {k : Kind} {v : Value} {s : String} (h : k.Spells v s) : k.Admits v := by
  cases h with
  | text | yes | no => trivial
  | count h =>
      obtain ⟨plus, digits, -, -, -, -, -, hlt⟩ := h
      exact hlt

theorem get_set_self {f : Field} {v : Value} (h : f.kind.Admits v) (c : Configuration) :
    (c.set f v).get f = v := by
  cases f <;> cases v <;> first | rfl | exact h.elim

def Field.given (f : Field) (env : Environment) : Option Value :=
  (env f.variableName).bind f.kind.read?

theorem Field.given_eq_some_iff {f : Field} {env : Environment} {v : Value} :
    f.given env = some v ↔ ∃ text, env f.variableName = some text ∧ f.kind.Spells v text := by
  simp only [given, Option.bind_eq_some_iff, Kind.read?_eq_some_iff]

theorem Field.admits_of_given {f : Field} {env : Environment} {v : Value}
    (h : f.given env = some v) : f.kind.Admits v := by
  obtain ⟨text, -, hspells⟩ := given_eq_some_iff.mp h
  exact hspells.admits

theorem map_variableName_all :
    Field.all.map Field.variableName =
      ["WORKBENCH_PROBE_GENERAL_LOG_LEVEL", "WORKBENCH_PROBE_GENERAL_LOG_FORMAT",
        "WORKBENCH_PROBE_CLUSTER_NAMESPACE", "WORKBENCH_PROBE_CLUSTER_CONTEXT",
        "WORKBENCH_PROBE_READINESS_TIMEOUT_SECS", "WORKBENCH_PROBE_READINESS_POLL_INTERVAL_SECS",
        "WORKBENCH_PROBE_READINESS_CONNECTION_TIMEOUT_SECS", "WORKBENCH_PROBE_VERIFICATION_RUNTIME",
        "WORKBENCH_PROBE_VERIFICATION_PACKAGE_TIMEOUT_SECS",
        "WORKBENCH_PROBE_VERIFICATION_COLLECT_DIAGNOSTICS",
        "WORKBENCH_PROBE_VERIFICATION_LOG_TAIL_LINES",
        "WORKBENCH_PROBE_VERIFICATION_OVERALL_TIMEOUT_SECS"] := by decide +kernel

theorem variableName_injective : Function.Injective Field.variableName := by
  have hnodup : (Field.all.map Field.variableName).Nodup := by
    rw [map_variableName_all]
    decide
  exact fun f g => List.inj_on_of_nodup_map hnodup (mem_fields f) (mem_fields g)

section

variable (env : Environment) (c : Configuration) (f : Field)

theorem get_overrideField_self : (overrideField env c f).get f = (f.given env).getD (c.get f) := by
  rw [overrideField, ← Field.given.eq_def]
  cases hgiven : f.given env with
  | none => rfl
  | some v => exact get_set_self (Field.admits_of_given hgiven) c

theorem get_overrideField_of_ne {g : Field} (h : g ≠ f) :
    (overrideField env c f).get g = c.get g := by
  rw [overrideField]
  split
  case h_1 => exact get_set_of_ne c h _
  case h_2 => rfl

theorem get_foldl_overrideField (fields : List Field) :
    (fields.foldl (overrideField env) c).get f =
      if f ∈ fields then (f.given env).getD (c.get f) else c.get f := by
  induction fields generalizing c with
  | nil => rfl
  | cons g fields ih =>
      rw [List.foldl_cons, ih]
      by_cases hf : f = g
      · subst hf
        -- A variable that has taken effect gives the same value once more.
        cases hgiven : f.given env <;> simp [get_overrideField_self, hgiven]
      · simp [hf, get_overrideField_of_ne]

theorem get_overridden : (c.overridden env).get f = (f.given env).getD (c.get f) := by
  rw [overridden, get_foldl_overrideField, if_pos (mem_fields f)]

end

/-- A configuration is another one under an environment: a field whose variable holds a text that
stands for a value of the field's kind has that value, and every other field has the value that it
had. -/
structure IsOverriddenBy (c : Configuration) (env : Environment) (d : Configuration) : Prop where
  given : ∀ (f : Field) text v, env f.variableName = some text → f.kind.Spells v text → d.get f = v
  kept : ∀ f : Field, (∀ text v, env f.variableName = some text → ¬ f.kind.Spells v text) →
    d.get f = c.get f

theorem isOverriddenBy_overridden (c : Configuration) (env : Environment) :
    c.IsOverriddenBy env (c.overridden env) where
  given f text v htext hspells := by
    rw [get_overridden, Field.given_eq_some_iff.mpr ⟨text, htext, hspells⟩, Option.getD_some]
  kept f h := by
    have hnone : f.given env = none := by
      refine Option.eq_none_iff_forall_ne_some.mpr fun v hgiven => ?_
      obtain ⟨text, htext, hspells⟩ := Field.given_eq_some_iff.mp hgiven
      exact h text v htext hspells
    rw [get_overridden, hnone, Option.getD_none]

theorem isOverriddenBy_iff {c d : Configuration} {env : Environment} :
    c.IsOverriddenBy env d ↔ d = c.overridden env := by
  constructor
  · intro h
    refine eq_of_get fun f => ?_
    rw [get_overridden]
    cases hgiven : f.given env with
    | none =>
        refine h.kept f fun text v htext hspells => ?_
        exact absurd (hgiven.symm.trans (Field.given_eq_some_iff.mpr ⟨text, htext, hspells⟩)) nofun
    | some v =>
        obtain ⟨text, htext, hspells⟩ := Field.given_eq_some_iff.mp hgiven
        exact h.given f text v htext hspells
  · rintro rfl
    exact isOverriddenBy_overridden c env

section

variable (c : Configuration) {env env' : Environment}

theorem overridden_overridden (env : Environment) :
    (c.overridden env).overridden env = c.overridden env := by
  refine eq_of_get fun f => ?_
  simp only [get_overridden]
  cases f.given env <;> rfl

theorem overridden_congr (h : ∀ f : Field, env f.variableName = env' f.variableName) :
    c.overridden env = c.overridden env' := by
  refine eq_of_get fun f => ?_
  rw [get_overridden, get_overridden, Field.given, h f, Field.given]

theorem get_overridden_of_ne {f g : Field} (hg : g ≠ f)
    (h : ∀ name, name ≠ f.variableName → env name = env' name) :
    (c.overridden env).get g = (c.overridden env').get g := by
  have hname : g.variableName ≠ f.variableName := fun heq => hg (variableName_injective heq)
  rw [get_overridden, get_overridden, Field.given, h _ hname, Field.given]

def Environment.union (env env' : Environment) : Environment := fun name => env name <|> env' name

def Environment.IsDisjoint (env env' : Environment) : Prop :=
  ∀ name, env name = none ∨ env' name = none

theorem Environment.IsDisjoint.symm (h : env.IsDisjoint env') : env'.IsDisjoint env :=
  fun name => (h name).symm

theorem Environment.IsDisjoint.union_comm (h : env.IsDisjoint env') :
    env.union env' = env'.union env := by
  funext name
  rcases h name with hnone | hnone <;> simp [Environment.union, hnone]

theorem overridden_union (h : env.IsDisjoint env') :
    (c.overridden env).overridden env' = c.overridden (env.union env') := by
  refine eq_of_get fun f => ?_
  simp only [get_overridden, Field.given, Environment.union]
  rcases h f.variableName with hnone | hnone <;> simp [hnone]

end

/-- The configuration under an environment is exactly the one in which each field has the value of
its own variable if that holds a value of the field's kind, and the value that it had otherwise.  The
environment does nothing when it takes effect once more; variables that belong to no field do
nothing; a field's variable does nothing to another field; and two environments without a common
variable can take effect in either order, or together. -/
theorem overrides_touch_their_own_field (c : Configuration) (env : Environment) :
    (∀ d, c.IsOverriddenBy env d ↔ d = c.overridden env) ∧
    (c.overridden env).overridden env = c.overridden env ∧
    (∀ env' : Environment, (∀ f : Field, env f.variableName = env' f.variableName) →
      c.overridden env = c.overridden env') ∧
    (∀ (f : Field) (env' : Environment), (∀ name, name ≠ f.variableName → env name = env' name) →
      ∀ g, g ≠ f → (c.overridden env).get g = (c.overridden env').get g) ∧
    ∀ env' : Environment, env.IsDisjoint env' →
      (c.overridden env).overridden env' = c.overridden (env.union env') ∧
      (c.overridden env').overridden env = c.overridden (env.union env') := by
  refine ⟨fun _ => isOverriddenBy_iff, overridden_overridden c env,
    fun _ h => overridden_congr c h, fun f _ h _ hg => get_overridden_of_ne c hg h, ?_⟩
  intro env' h
  refine ⟨overridden_union c h, ?_⟩
  rw [overridden_union c h.symm, h.union_comm]

def Environment.single (f : Field) (text : String) : Environment := fun name =>
  if name = f.variableName then some text else none

theorem overrides_of_timeout_and_context :
    let timeout := Environment.single .readinessTimeout "+060"
    let context := Environment.single .context ""
    let c : Configuration := { context := "old" }
    timeout.IsDisjoint context ∧
      (c.overridden timeout).overridden context = c.overridden (timeout.union context) ∧
      (c.overridden context).overridden timeout = c.overridden (timeout.union context) ∧
      c.overridden (timeout.union context) = { readinessTimeout := 60, context := "" } ∧
      (c.overridden timeout).get .context = .text "old" := by
  intro timeout context c
  have hdisjoint : timeout.IsDisjoint context := by
    intro name
    by_cases hname : name = Field.readinessTimeout.variableName
    · have hother : name ≠ Field.context.variableName := by
        rw [hname]
        exact fun h => nomatch variableName_injective h
      exact .inr (if_neg hother)
    · exact .inl (if_neg hname)
  obtain ⟨-, -, -, hframe, hunion⟩ := overrides_touch_their_own_field c timeout
  have hkept := hframe .readinessTimeout (fun _ => none) (fun _ hname => if_neg hname) .context nofun
  exact ⟨hdisjoint, (hunion context hdisjoint).1, (hunion context hdisjoint).2, by decide +kernel,
    hkept.trans (by decide +kernel)⟩

end NotebookCheck.Configuration

import Mathlib.Data.List.Nodup
import NotebookCheck.Configuration.Encoding
import NotebookCheck.Proofs.TomlDocument
import NotebookCheck.Proofs.TomlText

namespace NotebookCheck.Configuration

open Toml

theorem get_set (c d : Configuration) (f : Field) : (d.set f (c.get f)).get f = c.get f := by
  cases f <;> rfl

theorem get_set_of_ne (d : Configuration) {f g : Field} (h : g ≠ f) (v : Value) :
    (d.set f v).get g = d.get g := by
  cases f <;> cases v <;> first | rfl | (cases g <;> first | rfl | exact absurd rfl h)

theorem eq_of_get {c d : Configuration} (h : ∀ f, c.get f = d.get f) : c = d := by
  obtain ⟨⟩ := c
  obtain ⟨⟩ := d
  simp only [mk.injEq]
  exact ⟨Value.text.inj (h .logLevel), Value.text.inj (h .logFormat),
    Value.text.inj (h .namespaceName), Value.text.inj (h .context),
    Value.count.inj (h .readinessTimeout), Value.count.inj (h .pollInterval),
    Value.count.inj (h .connectionTimeout), Value.text.inj (h .runtime),
    Value.count.inj (h .packageTimeout), Value.flag.inj (h .collectDiagnostics),
    Value.count.inj (h .logTailLines), Value.count.inj (h .overallTimeout)⟩

def overlay (c : Configuration) (pick : Field → Bool) (fields : List Field) (d : Configuration) :
    Configuration :=
  fields.foldl (fun d f => if pick f then d.set f (c.get f) else d) d

theorem overlay_cons (c : Configuration) (pick : Field → Bool) (f : Field) (fields : List Field)
    (d : Configuration) :
    overlay c pick (f :: fields) d =
      overlay c pick fields (if pick f then d.set f (c.get f) else d) := rfl

theorem get_overlay (c : Configuration) (pick : Field → Bool) (fields : List Field)
    (d : Configuration) (f : Field) :
    (overlay c pick fields d).get f = if f ∈ fields ∧ pick f then c.get f else d.get f := by
  induction fields generalizing d with
  | nil => simp [overlay]
  | cons g fields ih =>
      rw [overlay_cons, ih]
      by_cases hpicked : f ∈ fields ∧ pick f
      · simp [hpicked]
      · by_cases hf : f = g
        · subst hf
          by_cases hpick : pick f <;> simp [hpick, get_set]
        · by_cases hpick : pick g <;> simp [hpick, hf, get_set_of_ne]

theorem overlay_of_none_picked (c : Configuration) {pick : Field → Bool} {fields : List Field}
    (h : ∀ f ∈ fields, pick f = false) (d : Configuration) : overlay c pick fields d = d := by
  apply eq_of_get
  intro f
  rw [get_overlay, if_neg]
  rintro ⟨hf, hpick⟩
  rw [h f hf] at hpick
  exact absurd hpick (by decide)

def Value.node : Value → Node
  | text s => .text s
  | flag b => .flag b
  | count n => .whole n

def Kind.Admits : Kind → Value → Prop
  | text, .text _ => True
  | flag, .flag _ => True
  | count bits, .count n => n < Nat.pow 2 bits
  | _, _ => False

/-- Each field has a value that a field of its kind can have. -/
def FitsKinds (c : Configuration) : Prop := ∀ f : Field, f.kind.Admits (c.get f)

/-- The number of lines fits its 32 bits, and no number of a field is larger than a whole number of
64 bits with a sign can be. -/
structure IsWritable (c : Configuration) : Prop where
  logTailLines : c.logTailLines < 2 ^ 32
  counts : ∀ f n, c.get f = .count n → n ≤ 9223372036854775807

theorem write_count (n : ℕ) : (Value.count n).write = Nat.toDigits 10 n := by
  simp [Value.write]

theorem skipGap_write (v : Value) (rest : List Char) :
    skipGap (v.write ++ rest) = v.write ++ rest := by
  cases v with
  | text s => exact skipGap_writeText s rest
  | flag b =>
      cases b
      · exact skipGap_cons (by decide)
      · exact skipGap_cons (by decide)
  | count n =>
      rw [write_count]
      obtain ⟨c, cs, hcs, hdigits⟩ := Number.exists_toDigits_eq_cons n
      rw [hcs]
      exact skipGap_cons (isGap_of_isDigit (hdigits c (by simp)))

theorem readValue_write {v : Value} (hv : ∀ n, v = .count n → n < Nat.pow 2 128) (fuel : ℕ)
    (rest : List Char) :
    readValue (fuel + 1) 0 (v.write ++ '\n' :: rest) = some (v.node, '\n' :: rest) := by
  cases v with
  | text s => exact readValue_writeText s (by simp) (by simp) fuel 0
  | flag b =>
      cases b
      · exact readValue_scalar (by decide) (by decide) rfl fuel 0 rest
      · exact readValue_scalar (by decide) (by decide) rfl fuel 0 rest
  | count n =>
      rw [write_count]
      exact readValue_toDigits (hv n rfl) fuel 0 rest

theorem Kind.ofNode?_whole {n bits : ℕ} (h : n < Nat.pow 2 bits) :
    (Kind.count bits).ofNode? (.whole n) = some (.count n) := by
  have hleast : (0 : ℤ) ≤ (n : ℤ) := Int.natCast_nonneg n
  have hmost : (n : ℤ) < ((Nat.pow 2 bits : ℕ) : ℤ) := Int.ofNat_lt.mpr h
  rw [ofNode?, decide_eq_true hleast, decide_eq_true hmost, Bool.and_self, if_pos rfl,
    Int.toNat_natCast]

theorem Kind.Admits.ofNode?_node {k : Kind} {v : Value} (h : k.Admits v) :
    k.ofNode? v.node = some v := by
  cases k <;> cases v <;> first | rfl | exact h.elim | exact ofNode?_whole h

theorem Kind.Admits.lt_of_field {f : Field} {n : ℕ} (h : f.kind.Admits (.count n)) :
    n < Nat.pow 2 64 := by
  cases f with
  | logLevel | logFormat | namespaceName | context | runtime | collectDiagnostics => exact h.elim
  | logTailLines => exact Nat.lt_trans h (by decide)
  | readinessTimeout | pollInterval | connectionTimeout | packageTimeout | overallTimeout => exact h

theorem IsWritable.fitsKinds {c : Configuration} (h : c.IsWritable) : c.FitsKinds := by
  have hcount : ∀ f n, c.get f = .count n → n < Nat.pow 2 64 :=
    fun f n hf => Nat.lt_of_le_of_lt (h.counts f n hf) (by decide)
  intro f
  cases f with
  | logLevel | logFormat | namespaceName | context | runtime | collectDiagnostics => trivial
  | logTailLines => exact h.logTailLines
  | readinessTimeout => exact hcount .readinessTimeout _ rfl
  | pollInterval => exact hcount .pollInterval _ rfl
  | connectionTimeout => exact hcount .connectionTimeout _ rfl
  | packageTimeout => exact hcount .packageTimeout _ rfl
  | overallTimeout => exact hcount .overallTimeout _ rfl

theorem isBareName_name (s : Section) : IsBareName s.name := by
  cases s <;> exact ⟨by decide, List.all_eq_true.mp (by decide)⟩

theorem isBareName_key (f : Field) : IsBareName f.key := by
  cases f <;> exact ⟨by decide, List.all_eq_true.mp (by decide)⟩

theorem name_injective : Function.Injective Section.name := by
  intro s t h
  cases s <;> cases t <;> first | rfl | exact absurd h (by decide)

theorem key_injective : Function.Injective Field.key := by
  intro f g h
  cases f <;> cases g <;> first | rfl | exact absurd h (by decide)

theorem nodup_fields (s : Section) : s.fields.Nodup := by
  cases s <;> decide

theorem mem_all (s : Section) : s ∈ Section.all := by
  cases s <;> decide

theorem owner_of_mem_fields {s : Section} {f : Field} (h : f ∈ s.fields) : f.owner = s := by
  cases s <;> cases f <;> first | rfl | exact absurd h (by decide)

theorem mem_fields_owner (f : Field) : f ∈ f.owner.fields := by
  cases f <;> decide

theorem mem_fields (f : Field) : f ∈ Field.all :=
  List.mem_flatMap.mpr ⟨f.owner, mem_all f.owner, mem_fields_owner f⟩

def line (c : Configuration) (f : Field) : Line := ⟨f.key, (c.get f).write, (c.get f).node⟩

def block (c : Configuration) (pick : Field → Bool) (s : Section) : Block :=
  ⟨s.name, (s.fields.filter pick).map c.line⟩

theorem text_block (c : Configuration) (pick : Field → Bool) (s : Section) :
    (c.block pick s).text = c.writeSection pick s := by
  simp only [block, Block.text, writeSection, sectionLines, List.flatMap_map]
  rfl

section Reading

variable {c : Configuration} {pick : Field → Bool} {keep : Section → Bool}

theorem FitsKinds.isRead_line (h : c.FitsKinds) (f : Field) : (c.line f).IsRead where
  key := isBareName_key f
  gap rest := skipGap_write (c.get f) _
  value fuel rest := by
    refine readValue_write (fun n hn => ?_) fuel rest
    have hlt := Kind.Admits.lt_of_field (f := f) (hn ▸ h f)
    exact hlt.trans (by decide)

theorem FitsKinds.isRead_block (h : c.FitsKinds) (pick : Field → Bool) (s : Section) :
    (c.block pick s).IsRead where
  name := isBareName_name s
  lines l hl := by
    obtain ⟨f, -, rfl⟩ := List.mem_map.mp hl
    exact h.isRead_line f
  keys := by
    have hkeys : (c.block pick s).lines.map Line.key = (s.fields.filter pick).map Field.key := by
      simp only [block, List.map_map]
      rfl
    rw [hkeys]
    exact List.Nodup.map key_injective ((nodup_fields s).filter pick)

/-- The document of the fields that are picked, with a header for each section that is kept. -/
def partialText (c : Configuration) (pick : Field → Bool) (keep : Section → Bool) : String :=
  String.ofList (['\n'].intercalate ((Section.all.filter keep).map (c.writeSection pick)))

def partialEntries (c : Configuration) (pick : Field → Bool) (keep : Section → Bool) : Entries :=
  (Section.all.filter keep).map fun s => (c.block pick s).entry

theorem FitsKinds.read?_partialText (h : c.FitsKinds) (pick : Field → Bool)
    (keep : Section → Bool) :
    read? (c.partialText pick keep) = some (c.partialEntries pick keep) := by
  have htext : c.partialText pick keep =
      documentOf ((Section.all.filter keep).map (c.block pick)) := by
    simp only [partialText, documentOf, List.map_map, Function.comp_def, text_block]
  have hread : ∀ b ∈ (Section.all.filter keep).map (c.block pick), b.IsRead := by
    intro b hb
    obtain ⟨s, -, rfl⟩ := List.mem_map.mp hb
    exact h.isRead_block pick s
  have hnames : (((Section.all.filter keep).map (c.block pick)).map Block.name).Nodup := by
    have hnames : ((Section.all.filter keep).map (c.block pick)).map Block.name =
        (Section.all.filter keep).map Section.name := by
      simp only [List.map_map]
      rfl
    have hall : Section.all.Nodup := by decide
    rw [hnames]
    exact List.Nodup.map name_injective (hall.filter keep)
  rw [htext, read?_documentOf hread hnames, List.map_map]
  rfl

theorem lookup_map_of_injective {α : Type} [DecidableEq α] {key : α → String}
    (hkey : Function.Injective key) (value : α → Node) (as : List α) (a : α) :
    (as.map fun a => (key a, value a)).lookup (key a) =
      if a ∈ as then some (value a) else none := by
  induction as with
  | nil => rfl
  | cons b as ih =>
      rw [List.map_cons, List.lookup_cons]
      by_cases hab : a = b
      · subst hab
        simp
      · have hne : (key a == key b) = false := by simpa using hkey.ne hab
        simp [hne, ih, hab]

theorem FitsKinds.setEntries?_filter (h : c.FitsKinds) (pick : Field → Bool)
    {fields gs : List Field} (hgs : ∀ f ∈ gs, f ∈ fields) (d : Configuration) :
    setEntries? (((fields.filter pick).map c.line).map Line.entry) gs d =
      some (overlay c pick gs d) := by
  induction gs generalizing d with
  | nil => rfl
  | cons f gs ih =>
      obtain ⟨hf, hgs⟩ := List.forall_mem_cons.mp hgs
      have hlookup : (((fields.filter pick).map c.line).map Line.entry).lookup f.key =
          if pick f then some (c.get f).node else none := by
        have hentries : ((fields.filter pick).map c.line).map Line.entry =
            (fields.filter pick).map fun f => (f.key, (c.get f).node) := by
          rw [List.map_map]
          rfl
        rw [hentries, lookup_map_of_injective key_injective]
        simp [hf]
      rw [overlay_cons, ← ih hgs, setEntries?, hlookup]
      by_cases hpick : pick f
      · simp [hpick, setNode?, (h f).ofNode?_node]
      · simp [hpick]

theorem FitsKinds.setSection?_blocks (h : c.FitsKinds) (hkeep : ∀ f, pick f → keep f.owner)
    (s : Section) (d : Configuration) :
    setSection? (c.partialEntries pick keep) s d = some (overlay c pick s.fields d) := by
  have hlookup : (c.partialEntries pick keep).lookup s.name =
      if keep s then some (c.block pick s).entry.2 else none := by
    have hmem : s ∈ Section.all.filter keep ↔ keep s := by simp [mem_all s]
    have hall := lookup_map_of_injective name_injective (fun s => (c.block pick s).entry.2)
      (Section.all.filter keep) s
    simp only [hmem] at hall
    exact hall
  rw [setSection?, hlookup]
  by_cases hs : keep s
  · rw [if_pos hs]
    exact h.setEntries?_filter pick (fun f hf => hf) d
  · have hnone : ∀ f ∈ s.fields, pick f = false := by
      intro f hf
      by_contra hpick
      apply hs
      rw [← owner_of_mem_fields hf]
      exact hkeep f (by simpa using hpick)
    rw [if_neg hs, overlay_of_none_picked c hnone]

theorem FitsKinds.foldlM_setSection? (h : c.FitsKinds) (hkeep : ∀ f, pick f → keep f.owner)
    (ss : List Section) (d : Configuration) :
    ss.foldlM (fun d s => setSection? (c.partialEntries pick keep) s d) d =
      some (overlay c pick (ss.flatMap Section.fields) d) := by
  induction ss generalizing d with
  | nil => rfl
  | cons s ss ih =>
      have hsplit : overlay c pick ((s :: ss).flatMap Section.fields) d =
          overlay c pick (ss.flatMap Section.fields) (overlay c pick s.fields d) := by
        simp only [overlay, List.flatMap_cons, List.foldl_append]
      rw [List.foldlM_cons, h.setSection?_blocks hkeep, hsplit, ← ih]
      rfl

theorem FitsKinds.parse_partialText (h : c.FitsKinds) (hkeep : ∀ f, pick f → keep f.owner) :
    parse (c.partialText pick keep) = .ok (overlay c pick Field.all {}) := by
  rw [parse, h.read?_partialText, Option.bind_some, ofEntries?, h.foldlM_setSection? hkeep]
  rfl

theorem write_eq_partialText (c : Configuration) (pick : Field → Bool) :
    c.write pick = c.partialText pick fun _ => true := rfl

theorem FitsKinds.parse_text (h : c.FitsKinds) : parse c.text = .ok c := by
  have hall : overlay c (fun _ => true) Field.all {} = c := by
    apply eq_of_get
    intro f
    simp [get_overlay, mem_fields f]
  rw [text, write_eq_partialText, h.parse_partialText (fun f _ => rfl), hall]

end Reading

/-- A document that gives some fields of a configuration, with or without headers of sections that
have none of them, is read as the configuration with these fields and the defaults of the others;
the whole document of a configuration is read as this configuration. -/
theorem documents_are_read_back (c : Configuration) (h : c.IsWritable) :
    (∀ (pick : Field → Bool) (keep : Section → Bool), (∀ f, pick f → keep f.owner) →
      ∃ d, parse (c.partialText pick keep) = .ok d ∧
        ∀ f, d.get f = if pick f then c.get f else ({} : Configuration).get f) ∧
    parse c.text = .ok c := by
  constructor
  · intro pick keep hkeep
    refine ⟨overlay c pick Field.all {}, h.fitsKinds.parse_partialText hkeep, ?_⟩
    intro f
    simp [get_overlay, mem_fields f]
  · exact h.fitsKinds.parse_text

/-- A configuration with texts in which quotes of both kinds, backslashes, line ends, control
characters and letters outside of ASCII meet. -/
def quotedConfiguration : Configuration where
  namespaceName := "\n\"\"\" isn't\r\n''' \\ \\n"
  context := "é\x00\x1b\x7f\t"
  runtime := "C:\\\"python\"'"
  packageTimeout := 9223372036854775807
  logTailLines := 4294967295

theorem quotedConfiguration_isWritable : quotedConfiguration.IsWritable where
  logTailLines := by decide
  counts f n h := by
    cases f <;> cases h <;> decide

theorem quoted_configuration_is_read_back :
    (∃ d, parse (quotedConfiguration.partialText (· = .context) (· ≠ .general)) = .ok d ∧
      d.context = "é\x00\x1b\x7f\t" ∧ d.runtime = "python" ∧ d.packageTimeout = 60) ∧
    parse quotedConfiguration.text = .ok quotedConfiguration := by
  obtain ⟨hpart, hwhole⟩ := documents_are_read_back quotedConfiguration
    quotedConfiguration_isWritable
  obtain ⟨d, hd, hget⟩ := hpart (· = .context) (· ≠ .general) (by intro f; cases f <;> decide)
  refine ⟨⟨d, hd, ?_, ?_, ?_⟩, hwhole⟩
  · exact Value.text.inj (hget .context)
  · exact Value.text.inj (hget .runtime)
  · exact Value.count.inj (hget .packageTimeout)

end NotebookCheck.Configuration

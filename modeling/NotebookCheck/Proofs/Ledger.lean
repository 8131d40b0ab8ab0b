import Mathlib.Data.List.Induction
import Mathlib.Data.List.Nodup
import NotebookCheck.Ledger

namespace NotebookCheck.Ledger

variable {α : Type}

theorem insertEntry_of_not_mem {name : String} (value : α) {entries : List (String × α)}
    (h : name ∉ entries.map (·.1)) :
    insertEntry name value entries = entries ++ [(name, value)] := by
  induction entries with
  | nil => rfl
  | cons entry rest ih =>
      simp only [List.map_cons, List.mem_cons, not_or] at h
      simp only [insertEntry, if_neg (Ne.symm h.1), ih h.2, List.cons_append]

theorem isSome_get?_iff (name : String) (ledger : Ledger α) :
    (ledger.get? name).isSome = true ↔ name ∈ ledger.names := by
  rw [get?, List.lookup_isSome_iff]
  simp only [names, List.mem_map, beq_iff_eq]
  constructor
  · rintro ⟨entry, hentry, hname⟩
    exact ⟨entry, hentry, hname.symm⟩
  · rintro ⟨entry, hentry, hname⟩
    exact ⟨entry, hentry, hname.symm⟩

theorem entries_insert_of_not_mem {name : String} (value : α) {ledger : Ledger α}
    (h : name ∉ ledger.names) :
    (ledger.insert name value).entries = ledger.entries ++ [(name, value)] :=
  insertEntry_of_not_mem value h

theorem eraseDups_filter_cons_of_not_mem {known : List String} {name : String}
    (rest : List String) (h : name ∉ known) :
    ((name :: rest).filter (· ∉ known)).eraseDups =
      name :: (rest.filter (· ∉ known ++ [name])).eraseDups := by
  rw [List.filter_cons_of_pos (by simpa using h), List.eraseDups_cons, List.filter_filter]
  congr 2
  apply List.filter_congr
  intro other _
  by_cases hother : other = name <;> simp [hother]

theorem nodup_eraseDups (names : List String) : names.eraseDups.Nodup := by
  cases names with
  | nil => exact List.nodup_nil
  | cons name rest =>
      rw [List.eraseDups_cons, List.nodup_cons]
      exact ⟨by simp, nodup_eraseDups _⟩
termination_by names.length
decreasing_by
  have hlength := List.length_filter_le (fun other => !other == name) rest
  rw [List.length_cons]
  omega

theorem eraseDups_concat (names : List String) (name : String) :
    (names ++ [name]).eraseDups =
      if name ∈ names then names.eraseDups else names.eraseDups ++ [name] := by
  rw [List.eraseDups_append]
  by_cases hname : name ∈ names
  · simp [List.removeAll, hname]
  · simp [List.removeAll, hname, List.eraseDups_cons]

theorem eraseDups_append_eraseDups (first second : List String) :
    (first ++ second.eraseDups).eraseDups = (first ++ second).eraseDups := by
  induction second using List.reverseRecOn with
  | nil => rfl
  | append_singleton second name ih =>
      rw [eraseDups_concat, ← List.append_assoc, eraseDups_concat]
      by_cases hname : name ∈ second
      · rw [if_pos hname, if_pos (List.mem_append_right _ hname), ih]
      · rw [if_neg hname, ← List.append_assoc, eraseDups_concat, ih]
        simp only [List.mem_append, List.mem_eraseDups]

theorem eraseDups_of_nodup {names : List String} (h : names.Nodup) : names.eraseDups = names := by
  induction names using List.reverseRecOn with
  | nil => rfl
  | append_singleton names name ih =>
      obtain ⟨hnames, -, hdisjoint⟩ := List.nodup_append.mp h
      have hname : name ∉ names := fun hmem =>
        hdisjoint name hmem name (List.mem_singleton_self name) rfl
      rw [eraseDups_concat, if_neg hname, ih hnames]

theorem names_insert (name : String) (value : α) (ledger : Ledger α) :
    (ledger.insert name value).names =
      if name ∈ ledger.names then ledger.names else ledger.names ++ [name] := by
  obtain ⟨entries⟩ := ledger
  simp only [insert, names]
  induction entries with
  | nil => rfl
  | cons entry rest ih =>
      by_cases hname : entry.1 = name
      · simp [insertEntry, hname]
      · by_cases hmem : name ∈ rest.map (·.1) <;>
          simp [insertEntry, hname, Ne.symm hname, ih, hmem]

theorem lookup_cons_eq_ite (entry : String × α) (rest : List (String × α)) (name : String) :
    (entry :: rest).lookup name = if name = entry.1 then some entry.2 else rest.lookup name := by
  rw [List.lookup_cons]
  by_cases hname : name = entry.1
  · rw [if_pos hname, beq_iff_eq.mpr hname]
  · rw [if_neg hname, beq_eq_false_iff_ne.mpr hname]

theorem get?_insert (name : String) (value : α) (ledger : Ledger α) (other : String) :
    (ledger.insert name value).get? other =
      if other = name then some value else ledger.get? other := by
  obtain ⟨entries⟩ := ledger
  simp only [insert, get?]
  induction entries with
  | nil => rw [insertEntry, lookup_cons_eq_ite]
  | cons entry rest ih =>
      by_cases hname : entry.1 = name
      · rw [insertEntry, if_pos hname, lookup_cons_eq_ite, lookup_cons_eq_ite, hname]
        by_cases hother : other = name <;> simp [hother]
      · rw [insertEntry, if_neg hname, lookup_cons_eq_ite, lookup_cons_eq_ite, ih]
        by_cases hentry : other = entry.1 <;> simp [hentry, hname]

theorem mem_namesWhere_iff {ledger : Ledger α} (hnodup : ledger.names.Nodup) (p : α → Bool)
    (name : String) :
    name ∈ ledger.namesWhere p ↔ ∃ value, ledger.get? name = some value ∧ p value = true := by
  obtain ⟨entries⟩ := ledger
  simp only [namesWhere, names, get?] at hnodup ⊢
  induction entries with
  | nil => simp
  | cons entry rest ih =>
      obtain ⟨hentry, hrest⟩ := List.nodup_cons.mp hnodup
      rw [lookup_cons_eq_ite]
      by_cases hname : name = entry.1
      · have hlater : ∀ value, (name, value) ∉ rest := by
          intro value hmem
          exact hentry (List.mem_map.mpr ⟨_, hmem, hname⟩)
        by_cases hp : p entry.2 = true <;> simp [hp, ← hname, hlater]
      · rw [if_neg hname, ← ih hrest]
        by_cases hp : p entry.2 = true <;> simp [hp, hname]

def ofEntries (entries : List (String × α)) : Ledger α :=
  entries.foldl (fun ledger entry => ledger.insert entry.1 entry.2) .empty

theorem ofEntries_concat (entries : List (String × α)) (entry : String × α) :
    ofEntries (entries ++ [entry]) = (ofEntries entries).insert entry.1 entry.2 := by
  rw [ofEntries, List.foldl_append]
  rfl

theorem names_ofEntries (entries : List (String × α)) :
    (ofEntries entries).names = (entries.map (·.1)).eraseDups := by
  induction entries using List.reverseRecOn with
  | nil => rfl
  | append_singleton entries entry ih =>
      rw [ofEntries_concat, names_insert, ih, List.map_append, List.map_singleton, eraseDups_concat]
      simp only [List.mem_eraseDups]

theorem nodup_names_ofEntries (entries : List (String × α)) : (ofEntries entries).names.Nodup := by
  rw [names_ofEntries]
  exact nodup_eraseDups _

theorem get?_ofEntries (entries : List (String × α)) (name : String) :
    (ofEntries entries).get? name = entries.reverse.lookup name := by
  induction entries using List.reverseRecOn with
  | nil => rfl
  | append_singleton entries entry ih =>
      rw [ofEntries_concat, get?_insert, ih, List.reverse_concat, lookup_cons_eq_ite]

theorem get?_ofEntries_eq_some_iff (entries : List (String × α)) (name : String) (value : α) :
    (ofEntries entries).get? name = some value ↔
      ∃ before after, entries = before ++ (name, value) :: after ∧
        name ∉ after.map (·.1) := by
  rw [get?_ofEntries, List.lookup_eq_some_iff]
  constructor
  · rintro ⟨after, before, hreverse, hafter⟩
    refine ⟨before.reverse, after.reverse, ?_, ?_⟩
    · rw [← List.reverse_reverse entries, hreverse]
      simp
    · rw [List.map_reverse, List.mem_reverse]
      intro hmem
      obtain ⟨entry, hentry, rfl⟩ := List.mem_map.mp hmem
      exact absurd rfl (bne_iff_ne.mp (hafter entry hentry))
  · rintro ⟨before, after, rfl, hafter⟩
    refine ⟨after.reverse, before.reverse, by simp, ?_⟩
    intro entry hentry
    rw [bne_iff_ne]
    rintro rfl
    exact hafter (List.mem_map_of_mem (List.mem_reverse.mp hentry))

theorem foldl_insert_of_disjoint {entries : List (String × α)}
    (hnodup : (entries.map (·.1)).Nodup) {ledger : Ledger α}
    (hdisjoint : ledger.names.Disjoint (entries.map (·.1))) :
    entries.foldl (fun ledger entry => ledger.insert entry.1 entry.2) ledger =
      ⟨ledger.entries ++ entries⟩ := by
  induction entries using List.reverseRecOn with
  | nil => simp
  | append_singleton entries entry ih =>
      rw [List.map_append, List.map_singleton] at hnodup hdisjoint
      obtain ⟨hnames, -, hlast⟩ := List.nodup_append.mp hnodup
      obtain ⟨hbefore, hentry⟩ := List.disjoint_append_right.mp hdisjoint
      have hnew : entry.1 ∉ (ledger.entries ++ entries).map (·.1) := by
        rw [List.map_append, List.mem_append, not_or]
        exact ⟨List.disjoint_singleton.mp hentry, fun hmem =>
          hlast _ hmem _ (List.mem_singleton_self entry.1) rfl⟩
      rw [List.foldl_append, ih hnames hbefore, ← List.append_assoc]
      exact congrArg Ledger.mk (insertEntry_of_not_mem entry.2 hnew)

theorem ofEntries_of_nodup {entries : List (String × α)} (h : (entries.map (·.1)).Nodup) :
    ofEntries entries = ⟨entries⟩ :=
  foldl_insert_of_disjoint h (List.disjoint_nil_left _)

def join (first second : Ledger α) : Ledger α :=
  second.entries.foldl (fun ledger entry => ledger.insert entry.1 entry.2) first

theorem entries_join_of_disjoint {first second : Ledger α} (hnodup : second.names.Nodup)
    (hdisjoint : first.names.Disjoint second.names) :
    (first.join second).entries = first.entries ++ second.entries := by
  rw [join, foldl_insert_of_disjoint hnodup hdisjoint]

def tabulate (f : String → α) (names : List String) : Ledger α :=
  ⟨names.eraseDups.map fun name => (name, f name)⟩

section

variable (f : String → α)

theorem names_tabulate (names : List String) : (tabulate f names).names = names.eraseDups := by
  simp [tabulate, Ledger.names, Function.comp_def]

theorem get?_tabulate {names : List String} {name : String} (h : name ∈ names) :
    (tabulate f names).get? name = some (f name) := by
  have hknown : ((tabulate f names).get? name).isSome = true := by
    rw [isSome_get?_iff, names_tabulate]
    exact List.mem_eraseDups.mpr h
  obtain ⟨value, hvalue⟩ := Option.isSome_iff_exists.mp hknown
  obtain ⟨before, after, hentries, -⟩ := List.lookup_eq_some_iff.mp hvalue
  have hmem : (name, value) ∈ (tabulate f names).entries := by
    rw [hentries]
    exact List.mem_append_right _ List.mem_cons_self
  obtain ⟨other, -, hother⟩ := List.mem_map.mp hmem
  cases hother
  exact hvalue

theorem insertEntry_of_known {name : String} {value : α} {entries : List (String × α)}
    (h : entries.lookup name = some value) : insertEntry name value entries = entries := by
  induction entries with
  | nil => cases h
  | cons entry rest ih =>
      by_cases hname : entry.1 = name
      · rw [List.lookup_cons, beq_iff_eq.mpr hname.symm] at h
        cases h
        rw [insertEntry, if_pos hname]
      · rw [List.lookup_cons, beq_eq_false_iff_ne.mpr (Ne.symm hname)] at h
        rw [insertEntry, if_neg hname, ih h]

theorem insert_tabulate (names : List String) (name : String) :
    (tabulate f names).insert name (f name) = tabulate f (names ++ [name]) := by
  by_cases hname : name ∈ names
  · have hentries := insertEntry_of_known (get?_tabulate f hname)
    rw [insert, hentries, tabulate, tabulate, eraseDups_concat, if_pos hname]
  · have hnew : name ∉ (tabulate f names).names := by
      rwa [names_tabulate, List.mem_eraseDups]
    rw [insert, insertEntry_of_not_mem (f name) hnew, tabulate, tabulate, eraseDups_concat,
      if_neg hname, List.map_append]
    rfl

theorem foldl_insert_tabulate (first second : List String) :
    (second.map fun name => (name, f name)).foldl
        (fun ledger entry => ledger.insert entry.1 entry.2) (tabulate f first) =
      tabulate f (first ++ second) := by
  induction second generalizing first with
  | nil => rw [List.append_nil]; rfl
  | cons name rest ih =>
      rw [List.map_cons, List.foldl_cons, insert_tabulate, ih, List.append_assoc]
      rfl

theorem join_tabulate (first second : List String) :
    (tabulate f first).join (tabulate f second) = tabulate f (first ++ second) := by
  have hfold := foldl_insert_tabulate f first second.eraseDups
  rw [tabulate.eq_def f (first ++ second.eraseDups), eraseDups_append_eraseDups] at hfold
  exact hfold

end

end NotebookCheck.Ledger

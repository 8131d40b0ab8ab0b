namespace NotebookCheck

/-- A map from texts to values, its keys strictly ascending by code points. -/
structure SortedMap (α : Type) where
  entries : List (String × α)
  ascending : entries.Pairwise fun a b => a.1 < b.1

namespace SortedMap

variable {α : Type}

instance [DecidableEq α] : DecidableEq (SortedMap α) := fun a b =>
  if h : a.entries = b.entries then
    isTrue (by cases a; cases b; cases h; rfl)
  else isFalse fun e => h (by rw [e])

def empty : SortedMap α := ⟨[], List.Pairwise.nil⟩

instance : Inhabited (SortedMap α) := ⟨empty⟩

/-- Puts a value at its place among ascending entries, in place of the value the key had. -/
def insertEntry (key : String) (value : α) : List (String × α) → List (String × α)
  | [] => [(key, value)]
  | (k, v) :: rest =>
      if key < k then (key, value) :: (k, v) :: rest
      else if key = k then (key, value) :: rest
      else (k, v) :: insertEntry key value rest

theorem mem_insertEntry {key : String} {value : α} {entries : List (String × α)}
    {e : String × α} (h : e ∈ insertEntry key value entries) :
    e = (key, value) ∨ e ∈ entries := by
  induction entries with
  | nil => simpa [insertEntry] using h
  | cons head rest ih =>
      obtain ⟨k, v⟩ := head
      unfold insertEntry at h
      split at h
      · rcases List.mem_cons.1 h with rfl | h
        · exact .inl rfl
        · exact .inr h
      · split at h
        · rcases List.mem_cons.1 h with rfl | h
          · exact .inl rfl
          · exact .inr (List.mem_cons_of_mem _ h)
        · rcases List.mem_cons.1 h with rfl | h
          · exact .inr List.mem_cons_self
          · exact (ih h).imp_right (List.mem_cons_of_mem _)

theorem insertEntry_ascending {key : String} {value : α} {entries : List (String × α)}
    (h : entries.Pairwise fun a b => a.1 < b.1) :
    (insertEntry key value entries).Pairwise fun a b => a.1 < b.1 := by
  induction entries with
  | nil => simp [insertEntry]
  | cons head rest ih =>
      obtain ⟨k, v⟩ := head
      obtain ⟨hk, hrest⟩ := List.pairwise_cons.1 h
      unfold insertEntry
      split
      · rename_i hlt
        refine List.pairwise_cons.2 ⟨fun e he => ?_, h⟩
        rcases List.mem_cons.1 he with rfl | he
        · exact hlt
        · exact String.lt_trans hlt (hk e he)
      · split
        · rename_i heq
          subst heq
          exact List.pairwise_cons.2 ⟨fun e he => hk e he, hrest⟩
        · rename_i hnlt hne
          refine List.pairwise_cons.2 ⟨fun e he => ?_, ih hrest⟩
          rcases mem_insertEntry he with rfl | he
          · have hle : k ≤ key := String.not_lt.1 hnlt
            rcases Classical.em (k < key) with hlt | hnot
            · exact hlt
            · exact absurd (String.le_antisymm (String.not_lt.1 hnot) hle) hne
          · exact hk e he

/-- The map with a value at a key, in place of the value that the key had. -/
def insert (key : String) (value : α) (map : SortedMap α) : SortedMap α :=
  ⟨insertEntry key value map.entries, insertEntry_ascending map.ascending⟩

/-- The map of the entries in a list; of two entries with one key the later one counts. -/
def ofList (entries : List (String × α)) : SortedMap α :=
  entries.foldl (fun map e => map.insert e.1 e.2) empty

def get? (key : String) (map : SortedMap α) : Option α :=
  map.entries.lookup key

theorem insertEntry_of_forall_lt {key : String} (value : α) {entries : List (String × α)}
    (h : ∀ e ∈ entries, e.1 < key) :
    insertEntry key value entries = entries ++ [(key, value)] := by
  induction entries with
  | nil => rfl
  | cons e entries ih =>
      obtain ⟨he, hentries⟩ := List.forall_mem_cons.1 h
      have hlt : ¬ key < e.1 := fun hkey => String.lt_irrefl key (String.lt_trans hkey he)
      have hne : key ≠ e.1 := fun hkey => String.lt_irrefl key (by rwa [← hkey] at he)
      rw [insertEntry, if_neg hlt, if_neg hne, ih hentries, List.cons_append]

theorem entries_foldl_insert (map : SortedMap α) {entries : List (String × α)}
    (h : (map.entries ++ entries).Pairwise fun a b => a.1 < b.1) :
    (entries.foldl (fun map e => map.insert e.1 e.2) map).entries = map.entries ++ entries := by
  induction entries generalizing map with
  | nil => simp
  | cons e entries ih =>
      have hlast : ∀ a ∈ map.entries, a.1 < e.1 := fun a ha =>
        (List.pairwise_append.1 h).2.2 a ha e List.mem_cons_self
      have hinsert : (map.insert e.1 e.2).entries = map.entries ++ [e] :=
        insertEntry_of_forall_lt e.2 hlast
      rw [List.append_cons, ← hinsert] at h
      rw [List.foldl_cons, ih _ h, hinsert]
      exact (List.append_cons map.entries e entries).symm

theorem eq_of_entries {a b : SortedMap α} (h : a.entries = b.entries) : a = b := by
  cases a
  cases b
  cases h
  rfl

theorem ofList_entries (map : SortedMap α) : ofList map.entries = map :=
  eq_of_entries (entries_foldl_insert empty map.ascending)

theorem nodup_keys (map : SortedMap α) : (map.entries.map (·.1)).Nodup := by
  rw [List.nodup_iff_pairwise_ne, List.pairwise_map]
  refine map.ascending.imp fun {a b} hlt heq => ?_
  rw [heq] at hlt
  exact String.lt_irrefl b.1 hlt

end SortedMap

end NotebookCheck

import Mathlib.Algebra.GroupWithZero.Nat
import NotebookCheck.Proofs.TomlNumber

namespace NotebookCheck.Toml

/-- A name that can stand in a document without quotes. -/
def IsBareName (name : String) : Prop := name.toList ≠ [] ∧ ∀ c ∈ name.toList, isBare c

section Names

variable {name : String} {rest : List Char}

theorem IsBareName.exists_cons (h : IsBareName name) :
    ∃ c cs, name.toList = c :: cs ∧ isBare c := by
  obtain ⟨hne, hbare⟩ := h
  obtain ⟨c, cs, hcs⟩ := List.exists_cons_of_ne_nil hne
  exact ⟨c, cs, hcs, hbare c (by simp [hcs])⟩

theorem isBare_ne {c d : Char} (hc : isBare c) (hd : isBare d = false) : c ≠ d := by
  rintro rfl
  rw [hc] at hd
  exact absurd hd (by decide)

theorem readName_bare (h : IsBareName name) (hrest : ∀ c ∈ rest.head?, isBare c = false) :
    readName (name.toList ++ rest) = some (name, rest) := by
  obtain ⟨htake, hdrop⟩ := takeWhile_dropWhile_append h.2 hrest
  obtain ⟨c, cs, hcs, hc⟩ := h.exists_cons
  have hquote : c ≠ '"' := isBare_ne hc (by decide)
  have hliteral : c ≠ '\'' := isBare_ne hc (by decide)
  have hname : String.ofList (c :: cs) = name := by rw [← hcs, String.ofList_toList]
  rw [hcs, List.cons_append] at htake hdrop ⊢
  simp [readName, hquote, hliteral, htake, hdrop, hname]

theorem isGap_of_isBare {c : Char} (hc : isBare c) : isGap c = false := by
  have hspace : c ≠ ' ' := isBare_ne hc (by decide)
  have htab : c ≠ '\t' := isBare_ne hc (by decide)
  simp [isGap, hspace, htab]

theorem skipGap_cons {c : Char} {cs : List Char} (hc : isGap c = false) :
    skipGap (c :: cs) = c :: cs := by
  simp [skipGap, hc]

theorem readNames_bare (h : IsBareName name) (hrest : ∀ c ∈ rest.head?, isBare c = false)
    (hdot : ∀ more, skipGap rest ≠ '.' :: more) (fuel : ℕ) :
    readNames (fuel + 1) (name.toList ++ rest) = some ([name], skipGap rest) := by
  have hname := readName_bare h hrest
  obtain ⟨c, cs, hcs, hc⟩ := h.exists_cons
  rw [hcs, List.cons_append] at hname ⊢
  simp only [readNames, skipGap_cons (isGap_of_isBare hc), hname, Option.bind_eq_bind,
    Option.bind_some]
  rfl

theorem readPath_bare (h : IsBareName name) (hrest : ∀ c ∈ rest.head?, isBare c = false)
    (hdot : ∀ more, skipGap rest ≠ '.' :: more) :
    readPath (name.toList ++ rest) = some (⟨[], name⟩, skipGap rest) := by
  have hnames : readNames maxDepth (name.toList ++ rest) = some ([name], skipGap rest) :=
    readNames_bare h hrest hdot 79
  rw [readPath, hnames]
  rfl

end Names

theorem skipLines?_of_starts {c : Char} {cs : List Char} (hgap : isGap c = false)
    (h : c ∉ ['#', '\n', '\r']) (fuel : ℕ) : skipLines? (fuel + 1) (c :: cs) = some (c :: cs) := by
  simp only [List.mem_cons, List.not_mem_nil, or_false, not_or] at h
  obtain ⟨hremark, hnewline, hreturn⟩ := h
  simp [skipLines?, skipGap_cons hgap, skipRemark?, lineEnd?, hremark, hnewline, hreturn]

theorem skipLines?_of_isBare {c : Char} (hc : isBare c) (cs : List Char) (fuel : ℕ) :
    skipLines? (fuel + 1) (c :: cs) = some (c :: cs) := by
  apply skipLines?_of_starts (isGap_of_isBare hc)
  intro h
  rw [List.mem_cons, List.mem_cons, List.mem_singleton] at h
  obtain rfl | rfl | rfl := h <;> exact absurd hc (by decide)

theorem endStatement?_newline (rest : List Char) : endStatement? ('\n' :: rest) = some rest := by
  simp [endStatement?, skipGap, isGap, skipRemark?, lineEnd?]

theorem readStatements_newline (fuel : ℕ) (header : List String) (entries : Entries)
    (rest : List Char) :
    readStatements (fuel + 1) header entries ('\n' :: rest) =
      readStatements (fuel + 1) header entries rest := by
  have hskip : skipLines? (('\n' :: rest).length + 1) ('\n' :: rest) =
      skipLines? (rest.length + 1) rest := by
    simp [skipLines?, skipGap, isGap, skipRemark?, lineEnd?]
  rw [readStatements, readStatements, hskip]

theorem readStatements_nil (fuel : ℕ) (header : List String) (entries : Entries) :
    readStatements (fuel + 1) header entries [] = some entries := by
  simp [readStatements, skipLines?, skipGap, skipRemark?, lineEnd?]

section Statements

variable {name : String} {entries : Entries}

theorem readStatements_header (h : IsBareName name) (hnew : entries.lookup name = none) (fuel : ℕ)
    (header : List String) (rest : List Char) :
    readStatements (fuel + 1) header entries ('[' :: (name.toList ++ ']' :: '\n' :: rest)) =
      readStatements fuel [name] (entries ++ [(name, .table .header [])]) rest := by
  have hpath : readPath (name.toList ++ ']' :: '\n' :: rest) =
      some (⟨[], name⟩, ']' :: '\n' :: rest) :=
    readPath_bare h (by simp [isBare]) (by simp [skipGap, isGap])
  have hopen : entries.openTable ⟨[], name⟩ = some (entries ++ [(name, .table .header [])]) := by
    simp [Entries.openTable, Entries.change, hnew]
  have hskip : skipLines? (('[' :: (name.toList ++ ']' :: '\n' :: rest)).length + 1)
      ('[' :: (name.toList ++ ']' :: '\n' :: rest)) =
        some ('[' :: (name.toList ++ ']' :: '\n' :: rest)) :=
    skipLines?_of_starts (by decide) (by decide) _
  obtain ⟨c, cs, hcs, hc⟩ := h.exists_cons
  have hbracket : c ≠ '[' := isBare_ne hc (by decide)
  rw [hcs, List.cons_append] at hpath hskip ⊢
  rw [readStatements, hskip]
  simp [hbracket, hpath, hopen, endStatement?_newline]

theorem readStatements_value (h : IsBareName name) {header : List String} {entries' : Entries}
    {node : Node} {written rest : List Char}
    (hgap : skipGap (written ++ '\n' :: rest) = written ++ '\n' :: rest)
    (hread : ∀ fuel, readValue (fuel + 1) 0 (written ++ '\n' :: rest) =
      some (node, '\n' :: rest))
    (hassign : entries.assignUnder header ⟨[], name⟩ node = some entries') (fuel : ℕ) :
    readStatements (fuel + 1) header entries
        (name.toList ++ ' ' :: '=' :: ' ' :: (written ++ '\n' :: rest)) =
      readStatements fuel header entries' rest := by
  have hpath : readPath (name.toList ++ ' ' :: '=' :: ' ' :: (written ++ '\n' :: rest)) =
      some (⟨[], name⟩, '=' :: ' ' :: (written ++ '\n' :: rest)) :=
    readPath_bare h (by simp [isBare]) (by simp [skipGap, isGap])
  have hspace : skipGap (' ' :: (written ++ '\n' :: rest)) = written ++ '\n' :: rest := hgap
  obtain ⟨d, ds, hds, hd⟩ := h.exists_cons
  have hbracket : d ≠ '[' := isBare_ne hd (by decide)
  rw [hds, List.cons_append] at hpath ⊢
  rw [readStatements, skipLines?_of_isBare hd]
  simp [hbracket, hpath, hspace, hread, hassign, endStatement?_newline]

end Statements

namespace Entries

theorem put_append_of_lookup {done : Entries} {name : String} (h : done.lookup name = none)
    (old node : Node) : put name node (done ++ [(name, old)]) = done ++ [(name, node)] := by
  induction done with
  | nil => simp [put]
  | cons entry done ih =>
      obtain ⟨n, v⟩ := entry
      have hn : n ≠ name := by
        rintro rfl
        simp at h
      have hne : (name == n) = false := by simpa using hn.symm
      rw [List.lookup_cons, hne] at h
      simp [put, hn, ih h]

/-- Under a header, values for new names are put at the end of the entries at a place of the
document. -/
def Extends (header : List String) (place : Entries → Entries) : Prop :=
  ∀ (inner : Entries) (name : String) (node : Node), inner.lookup name = none →
    assignUnder header ⟨[], name⟩ node (place inner) = some (place (inner ++ [(name, node)]))

theorem extends_document : Extends [] fun inner => inner := by
  intro inner name node hname
  simp [assignUnder, change, assign, hname]

theorem extends_last {done : Entries} {header : String} (hheader : done.lookup header = none) :
    Extends [header] fun inner => done ++ [(header, .table .header inner)] := by
  intro inner name node hname
  have hlookup : (done ++ [(header, Node.table .header inner)]).lookup header =
      some (.table .header inner) := by
    simp [List.lookup_append, hheader]
  simp [assignUnder, change, assign, hlookup, hname, put_append_of_lookup hheader]

end Entries

/-- A value for a key on a line of its own, as it is written and as it is read. -/
structure Line where
  key : String
  written : List Char
  node : Node

structure Block where
  name : String
  lines : List Line

namespace Line

def text (l : Line) : List Char := l.key.toList ++ [' ', '=', ' '] ++ l.written ++ ['\n']

def entry (l : Line) : String × Node := (l.key, l.node)

/-- Reading the line gives its value, whatever follows. -/
structure IsRead (l : Line) : Prop where
  key : IsBareName l.key
  gap : ∀ rest, skipGap (l.written ++ '\n' :: rest) = l.written ++ '\n' :: rest
  value : ∀ fuel rest,
    readValue (fuel + 1) 0 (l.written ++ '\n' :: rest) = some (l.node, '\n' :: rest)

end Line

namespace Block

def text (b : Block) : List Char :=
  ['['] ++ b.name.toList ++ [']', '\n'] ++ b.lines.flatMap Line.text

def entry (b : Block) : String × Node := (b.name, .table .header (b.lines.map Line.entry))

structure IsRead (b : Block) : Prop where
  name : IsBareName b.name
  lines : ∀ l ∈ b.lines, l.IsRead
  keys : (b.lines.map Line.key).Nodup

def statements (bs : List Block) : ℕ := (bs.map fun b => b.lines.length + 1).sum

end Block

theorem lookup_of_nodup {done : Entries} {name : String} {names : List String}
    (h : (done.map Prod.fst ++ name :: names).Nodup) : done.lookup name = none := by
  rw [List.lookup_eq_none_iff]
  intro p hp
  have hne : p.1 ≠ name :=
    (List.nodup_append.mp h).2.2 p.1 (List.mem_map_of_mem hp) name (by simp)
  simpa using hne.symm

theorem readStatements_lines {header : List String} {place : Entries → Entries}
    (hplace : Entries.Extends header place) (inner : Entries) {lines : List Line}
    (hread : ∀ l ∈ lines, l.IsRead)
    (hkeys : (inner.map Prod.fst ++ lines.map Line.key).Nodup) (fuel : ℕ) (rest : List Char) :
    readStatements (lines.length + fuel) header (place inner) (lines.flatMap Line.text ++ rest) =
      readStatements fuel header (place (inner ++ lines.map Line.entry)) rest := by
  induction lines generalizing inner with
  | nil => simp
  | cons l lines ih =>
      obtain ⟨hl, hlines⟩ := List.forall_mem_cons.mp hread
      have hkeys' : ((inner ++ [l.entry]).map Prod.fst ++ lines.map Line.key).Nodup := by
        simpa [Line.entry] using hkeys
      have hassign := hplace inner l.key l.node (lookup_of_nodup hkeys)
      have htext : (l :: lines).flatMap Line.text ++ rest =
          l.key.toList ++ ' ' :: '=' :: ' ' ::
            (l.written ++ '\n' :: (lines.flatMap Line.text ++ rest)) := by
        simp [Line.text]
      -- One statement uses up one of the fuel, so that counting the lines gives it exactly.
      have hfuel : (l :: lines).length + fuel = lines.length + fuel + 1 := by
        simp only [List.length_cons]
        omega
      rw [htext, hfuel, readStatements_value hl.key (hl.gap _) (fun k => hl.value k _) hassign]
      exact (ih (inner ++ [l.entry]) hlines hkeys').trans (by simp)

theorem readStatements_block {done : Entries} {b : Block} (hread : b.IsRead)
    (hnew : done.lookup b.name = none) (header : List String) (fuel : ℕ) (rest : List Char) :
    readStatements (b.lines.length + 1 + fuel) header done (b.text ++ rest) =
      readStatements fuel [b.name] (done ++ [b.entry]) rest := by
  have htext : b.text ++ rest =
      '[' :: (b.name.toList ++ ']' :: '\n' :: (b.lines.flatMap Line.text ++ rest)) := by
    simp [Block.text]
  have hfuel : b.lines.length + 1 + fuel = b.lines.length + fuel + 1 := by omega
  rw [htext, hfuel, readStatements_header hread.name hnew,
    readStatements_lines (Entries.extends_last hnew) [] hread.lines
      (by simpa using hread.keys)]
  rfl

theorem readStatements_separator (header : List String) (entries : Entries) (text : List Char)
    (texts : List (List Char)) (fuel : ℕ) :
    ∃ rest, ['\n'].intercalate (text :: texts) = text ++ rest ∧
      readStatements (fuel + 1) header entries rest =
        readStatements (fuel + 1) header entries (['\n'].intercalate texts) := by
  rcases texts with _ | ⟨next, texts⟩
  -- Nothing separates the last text from the end of the document.
  · exact ⟨[], by simp, rfl⟩
  · exact ⟨'\n' :: ['\n'].intercalate (next :: texts), by simp,
      readStatements_newline fuel header entries _⟩

theorem readStatements_blocks {bs : List Block} (hread : ∀ b ∈ bs, b.IsRead) {done : Entries}
    (hnames : (done.map Prod.fst ++ bs.map Block.name).Nodup) (header : List String) (fuel : ℕ) :
    readStatements (Block.statements bs + (fuel + 1)) header done
        (['\n'].intercalate (bs.map Block.text)) = some (done ++ bs.map Block.entry) := by
  induction bs generalizing done header with
  | nil => simp [Block.statements, readStatements_nil]
  | cons b bs ih =>
      obtain ⟨hb, hbs⟩ := List.forall_mem_cons.mp hread
      have hnames' : ((done ++ [b.entry]).map Prod.fst ++ bs.map Block.name).Nodup := by
        simpa [Block.entry] using hnames
      have hfuel : Block.statements (b :: bs) + (fuel + 1) =
          b.lines.length + 1 + (Block.statements bs + fuel + 1) := by
        simp only [Block.statements, List.map_cons, List.sum_cons]
        omega
      obtain ⟨rest, htext, hrest⟩ := readStatements_separator [b.name] (done ++ [b.entry]) b.text
        (bs.map Block.text) (Block.statements bs + fuel)
      rw [List.map_cons, htext, hfuel, readStatements_block hb (lookup_of_nodup hnames), hrest]
      exact (ih hbs hnames' [b.name]).trans (by simp)

theorem Line.length_le_length_flatMap_text (lines : List Line) :
    lines.length ≤ (lines.flatMap Line.text).length := by
  induction lines with
  | nil => simp
  | cons l lines ih =>
      simp only [List.flatMap_cons, List.length_append, List.length_cons, Line.text]
      omega

theorem Block.length_lt_length_text (b : Block) : b.lines.length < b.text.length := by
  have hlines := Line.length_le_length_flatMap_text b.lines
  simp only [Block.text, List.length_append, List.length_cons, List.length_nil]
  omega

theorem length_intercalate_cons (text : List Char) (texts : List (List Char)) :
    text.length + (['\n'].intercalate texts).length ≤
      (['\n'].intercalate (text :: texts)).length := by
  rcases texts with _ | ⟨next, texts⟩ <;> simp

theorem statements_le_length (bs : List Block) :
    Block.statements bs ≤ (['\n'].intercalate (bs.map Block.text)).length := by
  induction bs with
  | nil => simp [Block.statements]
  | cons b bs ih =>
      have hb := b.length_lt_length_text
      have hcons := length_intercalate_cons b.text (bs.map Block.text)
      simp only [Block.statements, List.map_cons, List.sum_cons] at ih ⊢
      omega

def documentOf (bs : List Block) : String :=
  String.ofList (['\n'].intercalate (bs.map Block.text))

theorem read?_documentOf {bs : List Block} (hread : ∀ b ∈ bs, b.IsRead)
    (hnames : (bs.map Block.name).Nodup) :
    read? (documentOf bs) = some (bs.map Block.entry) := by
  have hfirst : ∀ rest, ['\n'].intercalate (bs.map Block.text) ≠ '\uFEFF' :: rest := by
    intro rest
    rcases bs with _ | ⟨b, _ | ⟨b', bs⟩⟩ <;> simp [Block.text]
  obtain ⟨fuel, hfuel⟩ := Nat.exists_eq_add_of_le (statements_le_length bs)
  have hall : readStatements (Block.statements bs + (fuel + 1)) [] []
      (['\n'].intercalate (bs.map Block.text)) = some ([] ++ bs.map Block.entry) :=
    readStatements_blocks hread (by simpa using hnames) [] fuel
  rw [← Nat.add_assoc, ← hfuel] at hall
  rw [read?, documentOf, String.toList_ofList]
  split
  · next rest h => exact absurd h (hfirst rest)
  · exact hall

theorem read?_lines {lines : List Line} (hread : ∀ l ∈ lines, l.IsRead)
    (hkeys : (lines.map Line.key).Nodup) :
    read? (String.ofList (lines.flatMap Line.text)) = some (lines.map Line.entry) := by
  have hfirst : ∀ rest, lines.flatMap Line.text ≠ '\uFEFF' :: rest := by
    intro rest
    rcases lines with _ | ⟨l, lines⟩
    · simp
    · obtain ⟨c, cs, hcs, hc⟩ := (hread l (by simp)).key.exists_cons
      have hne : c ≠ '\uFEFF' := isBare_ne hc (by decide)
      simp [Line.text, hcs, hne]
  obtain ⟨fuel, hfuel⟩ := Nat.exists_eq_add_of_le (Line.length_le_length_flatMap_text lines)
  have hall := readStatements_lines Entries.extends_document [] hread
    (by simpa using hkeys) (fuel + 1) []
  rw [List.append_nil, readStatements_nil, List.nil_append, ← Nat.add_assoc, ← hfuel] at hall
  rw [read?, String.toList_ofList]
  split
  · next rest h => exact absurd h (hfirst rest)
  · exact hall

theorem read?_of_round_bracket {start : String} {cs : List Char} (h : start.toList = '(' :: cs)
    (more : String) : read? (start ++ more) = none := by
  have htext : (start ++ more).toList = '(' :: (cs ++ more.toList) := by
    rw [String.toList_append, h, List.cons_append]
  have hpath (rest : List Char) : readPath ('(' :: rest) = none := by
    have hname : readName ('(' :: rest) = none := by
      simp [readName, List.span, List.span.loop, isBare]
    have hnames : readNames (79 + 1) ('(' :: rest) = none := by
      rw [readNames, skipGap_cons (by decide), hname]
      rfl
    have hdepth : readNames maxDepth ('(' :: rest) = none := hnames
    rw [readPath, hdepth]
    rfl
  rw [read?, htext]
  change readStatements _ [] [] ('(' :: (cs ++ more.toList)) = none
  rw [readStatements, skipLines?_of_starts (by decide) (by decide)]
  simp [hpath]

end NotebookCheck.Toml

import NotebookCheck.Json.Reader
import NotebookCheck.Proofs.JsonNumber

/-!
Values are read back from their text on one line.  What is not read back, or not as it was, is left
out: numbers with a point or an exponent, numbers of more than 64 bits, objects that have a field
twice, and values that are nested too deep.
-/

namespace NotebookCheck.Json

open Text

/-- A value that is read back from its text, whose lists and objects are nested at most so deep. -/
inductive IsReadable : ℕ → Json → Prop
  | null {depth : ℕ} : IsReadable depth .null
  | bool {depth : ℕ} (b : Bool) : IsReadable depth (.bool b)
  | int {depth : ℕ} {n : ℤ} (h : IsLong n) : IsReadable depth (.int n)
  | string {depth : ℕ} (s : String) : IsReadable depth (.string s)
  | array {depth : ℕ} {items : List Json} (h : ∀ item ∈ items, IsReadable depth item) :
      IsReadable (depth + 1) (.array items)
  | object {depth : ℕ} {fields : List (String × Json)} (hnames : (fields.map (·.1)).Nodup)
      (h : ∀ f ∈ fields, IsReadable depth f.2) : IsReadable (depth + 1) (.object fields)

def bytesOf (j : Json) : List UInt8 := Utf8.encode j.compact

def fieldBytes (f : String × Json) : List UInt8 :=
  Utf8.encode (writtenText f.1) ++ Cursor.byte ':' :: bytesOf f.2

/-- Parts with a comma between two of them, and one in front unless they are the first ones. -/
def separated : Bool → List (List UInt8) → List UInt8
  | _, [] => []
  | first, part :: parts =>
      (if first then [] else [Cursor.byte ',']) ++ (part ++ separated false parts)

theorem encode_join (parts : List String) :
    Utf8.encode (join "," parts) = separated true (parts.map Utf8.encode) := by
  have hcomma : Utf8.encode "," = [Cursor.byte ','] := rfl
  induction parts with
  | nil => rfl
  | cons part parts ih =>
      cases parts with
      | nil => simp [join, separated]
      | cons next parts =>
          rw [join] at ih
          rw [join, String.intercalate_cons_of_ne_nil (by simp), Utf8.encode_append,
            Utf8.encode_append, hcomma, ih]
          simp [separated]

theorem compactItems_eq (items : List Json) : compactItems items = items.map compact := by
  induction items with
  | nil => rfl
  | cons item items ih => rw [compactItems, ih, List.map_cons]

theorem compactFields_eq (fields : List (String × Json)) :
    compactFields fields = fields.map fun f => writtenText f.1 ++ ":" ++ compact f.2 := by
  induction fields with
  | nil => rfl
  | cons f fields ih => rw [compactFields, ih, List.map_cons]

theorem bytesOf_string (s : String) :
    bytesOf (.string s) = Cursor.byte '"' :: (s.toList.flatMap writtenBytes ++ [Cursor.byte '"']) :=
  encode_writtenText s

theorem bytesOf_array (items : List Json) :
    bytesOf (.array items) =
      Cursor.byte '[' :: (separated true (items.map bytesOf) ++ [Cursor.byte ']']) := by
  rw [bytesOf, compact, Utf8.encode_append, Utf8.encode_append, encode_join, compactItems_eq,
    List.map_map]
  rfl

theorem bytesOf_object (fields : List (String × Json)) :
    bytesOf (.object fields) =
      Cursor.byte '\x7b' :: (separated true (fields.map fieldBytes) ++ [Cursor.byte '\x7d']) := by
  have hfield : (Utf8.encode ∘ fun f : String × Json => writtenText f.1 ++ ":" ++ compact f.2) =
      fieldBytes := by
    funext f
    rw [Function.comp_apply, Utf8.encode_append, Utf8.encode_append, List.append_assoc]
    rfl
  rw [bytesOf, compact, Utf8.encode_append, Utf8.encode_append, encode_join, compactFields_eq,
    List.map_map, hfield]
  rfl

def StartsValue (ch : Char) : Prop :=
  ch ∈ ['n', 't', 'f', '"', '[', '\x7b', '-'] ∨ ch.isDigit

theorem isSolid_of_isDigit {d : Char} (h : d.isDigit) : IsSolid d := by
  have hascii := toNat_lt_of_isDigit h
  have hne : ∀ blank ∈ [' ', '\t', '\n', '\r'], Cursor.byte d ≠ Cursor.byte blank := by
    intro blank hblank heq
    have hblank' : blank.toNat < 0x80 := by fin_cases hblank <;> decide
    obtain rfl := (byte_inj hascii hblank').mp heq
    fin_cases hblank <;> exact absurd h (by decide)
  exact ⟨hascii, by simp [Cursor.isSpace, hne]⟩

theorem StartsValue.isSolid {ch : Char} (h : StartsValue ch) : IsSolid ch := by
  obtain hch | hch := h
  · fin_cases hch <;> decide
  · exact isSolid_of_isDigit hch

theorem StartsValue.ne_close {ch : Char} (h : StartsValue ch) : ch ≠ ']' := by
  rintro rfl
  obtain hch | hch := h <;> exact absurd hch (by decide)

theorem IsReadable.exists_start {depth : ℕ} {j : Json} (h : IsReadable depth j) :
    ∃ ch rest, bytesOf j = Cursor.byte ch :: rest ∧ StartsValue ch := by
  cases h with
  | null => exact ⟨'n', _, rfl, .inl (by decide)⟩
  | bool b =>
      cases b with
      | false => exact ⟨'f', _, rfl, .inl (by decide)⟩
      | true => exact ⟨'t', _, rfl, .inl (by decide)⟩
  | @int _ n _ =>
      obtain ⟨ch, rest, hbytes, hch⟩ := exists_encode_toString_eq_cons n
      exact ⟨ch, rest, hbytes, hch.imp_left fun h => by simp [h]⟩
  | string s => exact ⟨'"', _, bytesOf_string s, .inl (by decide)⟩
  | array _ => exact ⟨'[', _, bytesOf_array _, .inl (by decide)⟩
  | object _ _ => exact ⟨'\x7b', _, bytesOf_object _, .inl (by decide)⟩

theorem endsValue_separated (close : Char) (h : close ∈ [']', '\x7d']) (parts : List (List UInt8))
    (behind : List UInt8) :
    EndsValue (separated false parts ++ Cursor.byte close :: behind) := by
  cases parts with
  | nil => exact .inr ⟨close, List.mem_cons_of_mem _ h, behind, rfl⟩
  | cons part parts => exact .inr ⟨',', by decide, _, rfl⟩

/-- The value is read from its bytes, so many levels below the greatest depth.  There is fuel enough
as soon as there is as much as there are bytes. -/
def ReadsBack (depth : ℕ) (j : Json) : Prop :=
  ∀ (fuel : ℕ) (behind : List UInt8), EndsValue behind → (bytesOf j).length ≤ fuel + 1 →
    Takes (readValue (fuel + 1) depth .anything) (bytesOf j ++ behind) behind j

theorem readsBack_null (depth : ℕ) : ReadsBack depth null := by
  intro fuel behind _ _
  rw [readValue]
  refine (takes_peekPastSpace 'n' (by decide) _).bind ?_
  exact (takes_word "null".toList (by simp) behind).bind (.pure null behind)

theorem takes_flag (b : Bool) (behind : List UInt8) :
    Takes flag (bytesOf (bool b) ++ behind) behind (bool b) := by
  cases b with
  | false =>
      refine (takes_peekPastSpace 'f' (by decide) _).bind ?_
      exact (takes_word "false".toList (by simp) behind).bind (.pure (bool false) behind)
  | true =>
      refine (takes_peekPastSpace 't' (by decide) _).bind ?_
      exact (takes_word "true".toList (by simp) behind).bind (.pure (bool true) behind)

theorem readsBack_bool (depth : ℕ) (b : Bool) : ReadsBack depth (bool b) := by
  intro fuel behind _ _
  have hflag := takes_flag b behind
  rw [readValue]
  cases b with
  | false => exact (takes_peekPastSpace 'f' (by decide) _).bind hflag
  | true => exact (takes_peekPastSpace 't' (by decide) _).bind hflag

theorem readsBack_int (depth : ℕ) {n : ℤ} (hn : IsLong n) : ReadsBack depth (int n) := by
  intro fuel behind hend _
  obtain ⟨ch, rest, hbytes, hch⟩ := exists_encode_toString_eq_cons n
  have hnumeral : Takes numeral (bytesOf (int n) ++ behind) behind (int n) := takes_numeral hn hend
  have hstart : StartsValue ch := hch.imp_left fun h => by simp [h]
  have hnumber : (ch = '-' || ch.isDigit) = true := by simpa using hch
  have hne : ∀ letter ∈ ['n', '"', '[', '\x7b', 't', 'f'], ch ≠ letter := by
    rintro letter hletter rfl
    fin_cases hletter <;> exact absurd hch (by decide)
  rw [show bytesOf (int n) = Cursor.byte ch :: rest from hbytes] at hnumeral ⊢
  rw [readValue]
  refine (takes_peekPastSpace ch hstart.isSolid _).bind ?_
  split
  · next heq => exact absurd heq (by simp)
  · next heq => exact absurd (Option.some.inj heq) (hne 'n' (by simp))
  · next heq => exact absurd (Option.some.inj heq) (hne '"' (by simp))
  · next heq => exact absurd (Option.some.inj heq) (hne '[' (by simp))
  · next heq => exact absurd (Option.some.inj heq) (hne '\x7b' (by simp))
  · next heq =>
    obtain rfl := Option.some.inj heq
    have hword : (ch = 't' || ch = 'f') = false := by simp [hne 't', hne 'f']
    simp only [hword, hnumber, if_true, Bool.false_eq_true, if_false]
    exact hnumeral

theorem readsBack_string (depth : ℕ) (s : String) : ReadsBack depth (string s) := by
  intro fuel behind _ _
  have hpeek := takes_peekPastSpace '"' (by decide)
    (s.toList.flatMap writtenBytes ++ Cursor.byte '"' :: behind)
  have htext : Takes (text Shape.text.expected) _ behind s :=
    hpeek.bind ((takes_step _ _).bind (takes_quotedText s behind))
  rw [bytesOf_string, List.cons_append, List.append_assoc, readValue]
  exact hpeek.bind (htext.bind (.pure (string s) behind))

theorem takes_anotherItem (first : Bool) {ch : Char} (h : StartsValue ch) (rest : List UInt8) :
    Takes (anotherItem first) ((if first then [] else [Cursor.byte ',']) ++ Cursor.byte ch :: rest)
      (Cursor.byte ch :: rest) true := by
  have hpeek := takes_peekPastSpace ch h.isSolid rest
  cases first with
  | true =>
      refine hpeek.bind ?_
      split
      · next heq => exact absurd heq (by simp)
      · next heq => exact absurd (Option.some.inj heq) h.ne_close
      · exact .pure true _
  | false =>
      refine (takes_peekPastSpace ',' (by decide) _).bind ((takes_step _ _).bind (hpeek.bind ?_))
      split
      · next heq => exact absurd (Option.some.inj heq) h.ne_close
      · exact .pure true _
      · next heq => exact absurd heq (by simp)

theorem takes_anotherItem_end (first : Bool) (behind : List UInt8) :
    Takes (anotherItem first) (Cursor.byte ']' :: behind) (Cursor.byte ']' :: behind) false :=
  (takes_peekPastSpace ']' (by decide) behind).bind (.pure false _)

theorem takes_listEnd (behind : List UInt8) :
    Takes listEnd (Cursor.byte ']' :: behind) behind none :=
  (takes_peekPastSpace ']' (by decide) behind).bind ((takes_step _ behind).bind (.pure none behind))

theorem takes_readItems {depth : ℕ} {items : List Json} (h : ∀ item ∈ items, IsReadable depth item)
    (hitems : ∀ item ∈ items, ReadsBack (depth + 1) item) (behind : List UInt8) {first : Bool}
    {fuel : ℕ} (hfuel : (separated first (items.map bytesOf)).length ≤ fuel) :
    Takes (readItems (fuel + 1) (depth + 1) first .anything)
      (separated first (items.map bytesOf) ++ Cursor.byte ']' :: behind)
      (Cursor.byte ']' :: behind) items := by
  induction items generalizing first fuel with
  | nil =>
      rw [readItems]
      exact (takes_anotherItem_end first behind).bind (.pure [] _)
  | cons item items ih =>
      obtain ⟨hreadable, hothers⟩ := List.forall_mem_cons.mp h
      obtain ⟨hitem, hrest⟩ := List.forall_mem_cons.mp hitems
      obtain ⟨ch, more, hbytes, hstart⟩ := hreadable.exists_start
      -- An item has at least one byte, which pays for the step to the items after it.
      have hlength : (bytesOf item).length = more.length + 1 := by rw [hbytes, List.length_cons]
      rw [List.map_cons, separated, List.length_append, List.length_append] at hfuel
      obtain ⟨fuel, rfl⟩ := Nat.exists_eq_add_one_of_ne_zero (n := fuel) (by omega)
      have hvalue := hitem fuel _ (endsValue_separated ']' (by decide) (items.map bytesOf) behind)
        (by omega)
      have hlist : Takes (readItems (fuel + 1) (depth + 1) false .anything) _ _ items :=
        ih hothers hrest (by omega)
      rw [List.map_cons, separated, List.append_assoc, List.append_assoc, readItems]
      rw [hbytes] at hvalue ⊢
      exact (takes_anotherItem first hstart _).bind (hvalue.bind (hlist.bind (.pure _ _)))

theorem takes_anotherName (first : Bool) (name : String) (rest : List UInt8) :
    Takes (anotherName first)
      ((if first then [] else [Cursor.byte ',']) ++ (Utf8.encode (writtenText name) ++ rest))
      rest (some name) := by
  rw [encode_writtenText, List.cons_append, List.append_assoc]
  have hpeek := takes_peekPastSpace '"' (by decide)
    (name.toList.flatMap writtenBytes ++ Cursor.byte '"' :: rest)
  have hname : Takes (do Reading.step; return some (← quotedText)) _ rest (some name) :=
    (takes_step (Cursor.byte '"') _).bind
      ((takes_quotedText name rest).bind (.pure (some name) rest))
  cases first with
  | true => exact hpeek.bind (Takes.bind (.pure _ _) hname)
  | false =>
      refine (takes_peekPastSpace ',' (by decide) _).bind ?_
      exact (takes_step _ _).bind (hpeek.bind hname)

theorem takes_anotherName_end (first : Bool) (behind : List UInt8) :
    Takes (anotherName first) (Cursor.byte '\x7d' :: behind) (Cursor.byte '\x7d' :: behind) none :=
  (takes_peekPastSpace '\x7d' (by decide) behind).bind (.pure none _)

theorem takes_colon (behind : List UInt8) : Takes colon (Cursor.byte ':' :: behind) behind () :=
  (takes_peekPastSpace ':' (by decide) behind).bind (takes_step _ behind)

theorem takes_objectEnd (behind : List UInt8) :
    Takes objectEnd (Cursor.byte '\x7d' :: behind) behind none :=
  (takes_peekPastSpace '\x7d' (by decide) behind).bind
    ((takes_step _ behind).bind (.pure none behind))

theorem putField_of_new {name : String} {fields : List (String × Json)}
    (h : name ∉ fields.map (·.1)) (value : Json) :
    putField name value fields = fields ++ [(name, value)] := by
  have hlookup : fields.lookup name = none := by
    rw [List.lookup_eq_none_iff]
    intro f hf
    simpa using fun heq : name = f.1 => h (heq ▸ List.mem_map_of_mem hf)
  simp [putField, hlookup]

theorem takes_readEntries {depth : ℕ} {fields : List (String × Json)}
    (hfields : ∀ f ∈ fields, ReadsBack depth f.2) (entries : List (String × Json))
    (hnames : ((entries ++ fields).map (·.1)).Nodup) (behind : List UInt8) {first : Bool}
    {fuel : ℕ} (hfuel : (separated first (fields.map fieldBytes)).length ≤ fuel) :
    Takes (readEntries (fuel + 1) depth first .anything entries)
      (separated first (fields.map fieldBytes) ++ Cursor.byte '\x7d' :: behind)
      (Cursor.byte '\x7d' :: behind) (entries ++ fields) := by
  induction fields generalizing entries first fuel with
  | nil =>
      rw [readEntries, List.append_nil]
      exact (takes_anotherName_end first behind).bind (.pure entries _)
  | cons f fields ih =>
      obtain ⟨hf, hrest⟩ := List.forall_mem_cons.mp hfields
      have hnew : f.1 ∉ entries.map (·.1) := by
        rw [List.map_append] at hnames
        exact fun hmem => (List.nodup_append.mp hnames).2.2 f.1 hmem f.1 (by simp) rfl
      rw [List.append_cons] at hnames
      rw [List.map_cons, separated, fieldBytes] at hfuel
      simp only [List.length_append, List.length_cons] at hfuel
      obtain ⟨fuel, rfl⟩ := Nat.exists_eq_add_one_of_ne_zero (n := fuel) (by omega)
      have hvalue := hf fuel _
        (endsValue_separated '\x7d' (by decide) (fields.map fieldBytes) behind) (by omega)
      have hobject : Takes (readEntries (fuel + 1) depth false .anything (entries ++ [f])) _ _ _ :=
        ih hrest (entries ++ [f]) hnames (by omega)
      rw [List.map_cons, separated, fieldBytes, List.append_cons entries]
      simp only [List.append_assoc, List.cons_append]
      rw [readEntries]
      refine (takes_anotherName first f.1 _).bind ((takes_colon _).bind (hvalue.bind ?_))
      rw [putField_of_new hnew]
      simpa using hobject

theorem takes_enter (depth : ℕ) (b : UInt8) (behind : List UInt8) :
    Takes (enter (depth + 2)) (b :: behind) behind (depth + 1) :=
  (takes_step b behind).bind (.pure (depth + 1) behind)

theorem takes_settle {ending : Reading (Option Complaint)} {front behind : List UInt8}
    (h : Takes ending front behind none) (j : Json) :
    Takes (settle ending (.ok j)) front behind j :=
  h.bind (.pure j behind)

theorem IsReadable.readsBack {depth : ℕ} {j : Json} (h : IsReadable depth j) :
    ReadsBack (depth + 1) j := by
  induction h with
  | null => exact readsBack_null _
  | bool b => exact readsBack_bool _ b
  | int hn => exact readsBack_int _ hn
  | string s => exact readsBack_string _ s
  | @array depth items h ih =>
      intro fuel behind _ hfuel
      rw [bytesOf_array, List.length_cons, List.length_append, List.length_singleton] at hfuel
      obtain ⟨fuel, rfl⟩ := Nat.exists_eq_add_one_of_ne_zero (n := fuel) (by omega)
      rw [bytesOf_array, readValue, List.cons_append, List.append_assoc]
      refine (takes_peekPastSpace '[' (by decide) _).bind ((takes_enter depth _ _).bind ?_)
      exact (takes_readItems h ih behind (by omega)).bind (takes_settle (takes_listEnd behind) _)
  | @object depth fields hnames h ih =>
      intro fuel behind _ hfuel
      rw [bytesOf_object, List.length_cons, List.length_append, List.length_singleton] at hfuel
      obtain ⟨fuel, rfl⟩ := Nat.exists_eq_add_one_of_ne_zero (n := fuel) (by omega)
      rw [bytesOf_object, readValue, List.cons_append, List.append_assoc]
      refine (takes_peekPastSpace '\x7b' (by decide) _).bind ((takes_enter depth _ _).bind ?_)
      exact (takes_readEntries ih [] hnames behind (by omega)).bind
        (takes_settle (takes_objectEnd behind) _)

theorem Takes.run_eq {front behind : List UInt8} {r : Reading Json} {j : Json}
    (h : Takes r front behind j) : (do return (← r.run { rest := front }).1) = Except.ok j := by
  obtain ⟨c, -, hrun⟩ := h { rest := front } rfl
  rw [StateT.run, hrun]
  rfl

theorem IsReadable.read?_compact {j : Json} (h : IsReadable (maxDepth - 1) j) :
    read? j.compact = some j := by
  have hvalue := h.readsBack (4 * (bytesOf j).length + 15) [] (.inl rfl) (by omega)
  rw [List.append_nil] at hvalue
  have hread : read .anything (bytesOf j) = .ok j :=
    Takes.run_eq (hvalue.bind (takes_peekPastSpace_end.bind (.pure j [])))
  rw [read?, ← bytesOf, hread]
  rfl

end NotebookCheck.Json

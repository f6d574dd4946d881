/-
**Records that are read as they were written.**

What a value without floats is written as is read back as that value, whatever the layout, as long
as its integers are within the digit limit: the entries of an object keep their order, and the white
space of the layout is skipped.  A slot in which such a record was saved holds that record.

Main definitions:

* `Value.IsJson` — values without floats whose objects have texts as names, no two alike;
* `Json.Layout.IsBlank` — layouts of white space.

Main results:

* `Json.readValue_render` — a value is read as it was written, with anything behind it;
* `Json.read_write` — **the text of a value is read as that value**;
* `SaveSlot.load_save` — **a slot holds the record that was saved in it**.
-/

import Gamebook.Proofs.Json.Leaves
import Gamebook.Session.SaveSlot

set_option autoImplicit false

namespace Gamebook

/-- A value that text can hold as it is: it has no floats, and its objects have texts as names, no
two of them alike. -/
inductive Value.IsJson : Value → Prop
  | null : IsJson .null
  | bool (b : Bool) : IsJson (.bool b)
  | int (n : Int) : IsJson (.int n)
  | str (s : String) : IsJson (.str s)
  | list {items : List Value} : (∀ v ∈ items, IsJson v) → IsJson (.list items)
  | obj {fields : Fields Value} : (∀ f ∈ fields, ∃ name, f.1 = .text name) →
      fields.keys.Nodup → (∀ f ∈ fields, IsJson f.2) → IsJson (.obj fields)

open Value

namespace Json

/-! ### Values that have a text -/

theorem endsList_iff {vs : List Value} : endsList vs = true ↔ ∀ v ∈ vs, ends v = true := by
  induction vs with
  | nil => simp [endsList]
  | cons v vs ih => simp [endsList, ih]

theorem endsFields_iff {fs : Fields Value} : endsFields fs = true ↔ ∀ f ∈ fs, ends f.2 = true := by
  induction fs with
  | nil => simp [endsFields]
  | cons f fs ih => simp [endsFields, ih]

/-- The writing of a value that text can hold ends. -/
theorem ends_of_isJson {v : Value} (hv : v.IsJson) : ends v = true := by
  induction hv with
  | list _ ih => exact endsList_iff.2 ih
  | obj _ _ _ ih => exact endsFields_iff.2 ih
  | _ => rfl

/-! ### Names -/

/-- A name that is not there is written behind the others. -/
theorem set_of_fresh {done fs : Fields Value} {name : String} {v : Value}
    (hnames : ∀ f ∈ done ++ (.text name, v) :: fs, ∃ name, f.1 = .text name)
    (hnodup : (done ++ (.text name, v) :: fs).keys.Nodup) :
    done.set (.text name) v = done ++ [(.text name, v)] := by
  induction done with
  | nil => rfl
  | cons f done ih =>
      obtain ⟨k', a⟩ := f
      obtain ⟨other, rfl⟩ : ∃ other, k' = .text other := hnames (k', a) (by simp)
      have hne : (Key.text other).same (.text name) = false := by
        rw [Bool.eq_false_iff, ne_eq, Key.same_text]
        rintro rfl
        simp [Fields.keys] at hnodup
      rw [Fields.set, hne, if_neg Bool.false_ne_true, ih (fun f hf => hnames f (by simp_all))
        (List.nodup_cons.1 hnodup).2]
      rfl

/-! ### White space -/

/-- All of the characters are white space of plain text. -/
def AllBlank (cs : List Char) : Prop := ∀ c ∈ cs, Dialect.plain.isSpace c = true

/-- The layout puts nothing but white space between the parts of a text. -/
structure Layout.IsBlank (l : Layout) : Prop where
  before (depth : Nat) : AllBlank (l.before depth)
  afterColon : AllBlank l.afterColon

theorem isBlank_indented : Layout.indented.IsBlank where
  before depth c hc := by
    rcases List.mem_cons.1 hc with rfl | hc
    · rfl
    · rw [List.eq_of_mem_replicate hc]
      rfl
  afterColon c hc := by
    rw [List.mem_singleton.1 hc]
    rfl

theorem skipSpace_append {cs rest : List Char} (h : AllBlank cs) :
    skipSpace .plain (cs ++ rest) = skipSpace .plain rest := List.dropWhile_append_of_pos h

theorem skipSpace_cons {c : Char} {rest : List Char} (h : Dialect.plain.isSpace c = false) :
    skipSpace .plain (c :: rest) = c :: rest := by simp [skipSpace, h]

/-- White space does not go on with a number. -/
theorem apart_append {cs rest : List Char} (h : AllBlank cs) (hrest : Apart rest) :
    Apart (cs ++ rest) := by
  cases cs with
  | nil => exact hrest
  | cons c cs =>
      refine apart_cons ?_
      have hc := h c (List.mem_cons_self ..)
      simp only [Dialect.plain, Bool.or_eq_true, decide_eq_true_eq] at hc
      rcases hc with ((rfl | rfl) | rfl) | rfl <;> decide

/-! ### Integers in a value -/

theorem forall_isWritable_of_list {limit : DigitLimit} {vs : List Value}
    (h : isWritableList limit vs = true) : ∀ v ∈ vs, v.isWritable limit = true := by
  induction vs with
  | nil => exact nofun
  | cons v vs ih =>
      rw [isWritableList, Bool.and_eq_true] at h
      exact List.forall_mem_cons.2 ⟨h.1, ih h.2⟩

theorem forall_isWritable_of_fields {limit : DigitLimit} {fs : Fields Value}
    (h : isWritableFields limit fs = true) : ∀ f ∈ fs, f.2.isWritable limit = true := by
  induction fs with
  | nil => exact nofun
  | cons f fs ih =>
      rw [isWritableFields, Bool.and_eq_true, Bool.and_eq_true] at h
      exact List.forall_mem_cons.2 ⟨h.1.2, ih h.2⟩

/-! ### Values -/

variable {l : Layout} {limit : DigitLimit} {v : Value} {k : Key} {depth n : Nat}
  {close rest : List Char}

/-- The value is read as it was written, with anything behind it that does not go on with a number,
in twice as many steps as it has characters. -/
def ReadsBack (l : Layout) (limit : DigitLimit) (v : Value) : Prop :=
  ∀ (depth : Nat) {n : Nat} {rest : List Char}, Apart rest → 2 * (render l depth v).length < n →
    readValue .plain limit n (render l depth v ++ rest) = .ok (v, rest)

/-- A leaf is read in one step. -/
theorem ReadsBack.of_leaf (h : ∀ depth n rest, Apart rest →
    readValue .plain limit (n + 1) (render l depth v ++ rest) = .ok (v, rest)) :
    ReadsBack l limit v := by
  intro depth n rest hrest hn
  obtain ⟨n, rfl⟩ := Nat.exists_eq_add_one_of_ne_zero (Nat.ne_zero_of_lt hn)
  exact h depth n rest hrest

/-- Nothing is read where white space or a closing bracket stands. -/
theorem readValue_between {c : Char} {cs : List Char} {r : Value × List Char}
    (h : readValue .plain limit n (c :: cs) = .ok r) :
    Dialect.plain.isSpace c = false ∧ c ≠ ']' := by
  have hnone : c ∈ [' ', '\t', '\n', '\r', ']'] → ∀ n,
      readValue .plain limit n (c :: cs) = .error .malformed := by
    intro hc n
    cases n with
    | zero => rfl
    | succ n =>
        simp only [List.mem_cons, List.not_mem_nil, or_false] at hc
        rcases hc with rfl | rfl | rfl | rfl | rfl <;>
          simp [readValue, readPlain, readWord, Dialect.plain, commonWords, readNumber,
            readMagnitude, readWhole, isDigit, orMalformed, bind, Except.bind]
  have hapart : c ∉ [' ', '\t', '\n', '\r', ']'] := fun hc => by
    rw [hnone hc n] at h
    cases h
  simpa [Dialect.plain, and_assoc] using hapart

theorem ReadsBack.exists_head (h : ReadsBack l limit v) (depth : Nat) :
    ∃ c cs, render l depth v = c :: cs ∧ Dialect.plain.isSpace c = false ∧ c ≠ ']' := by
  have hread := h depth apart_nil (Nat.lt_succ_self _)
  rw [List.append_nil] at hread
  cases hrender : render l depth v with
  | nil =>
      rw [hrender] at hread
      cases hread
  | cons c cs =>
      rw [hrender] at hread
      exact ⟨c, cs, rfl, readValue_between hread⟩

/-- There is no white space in front of a value. -/
theorem ReadsBack.skipSpace_eq (h : ReadsBack l limit v) (depth : Nat) (rest : List Char) :
    skipSpace .plain (render l depth v ++ rest) = render l depth v ++ rest := by
  obtain ⟨c, cs, hrender, hspace, -⟩ := h.exists_head depth
  rw [hrender]
  exact skipSpace_cons hspace

/-- What stands behind an element does not go on with a number. -/
theorem apart_renderItems {vs : List Value} (hclose : AllBlank close) :
    Apart (renderItems l depth vs ++ (close ++ ']' :: rest)) := by
  cases vs with
  | nil =>
      rw [renderItems, List.nil_append]
      exact apart_append hclose (apart_cons (by decide))
  | cons v vs => exact apart_cons (by decide)

theorem apart_renderFields {fs : Fields Value} (hclose : AllBlank close) :
    Apart (renderFields l depth fs ++ (close ++ '\x7d' :: rest)) := by
  cases fs with
  | nil =>
      rw [renderFields, List.nil_append]
      exact apart_append hclose (apart_cons (by decide))
  | cons f fs => exact apart_cons (by decide)

/-- The elements of a list are read as they were written. -/
theorem readItems_render (depth : Nat) (rest : List Char) (hl : l.IsBlank)
    (hclose : AllBlank close) {vs : List Value} (hv : ReadsBack l limit v)
    (hvs : ∀ v ∈ vs, ReadsBack l limit v)
    (hn : 2 * ((render l depth v).length + (renderItems l depth vs).length) + 1 < n) :
    readItems .plain limit n
        (render l depth v ++ (renderItems l depth vs ++ (close ++ ']' :: rest))) =
      .ok (v :: vs, rest) := by
  induction vs generalizing v n with
  | nil =>
      obtain ⟨n, rfl⟩ : ∃ m, n = m + 1 := ⟨n - 1, by omega⟩
      rw [readItems, hv depth (apart_renderItems hclose) (by simp only [renderItems] at hn; omega)]
      simp only [bind, Except.bind, renderItems, List.nil_append, skipSpace_append hclose,
        skipSpace_cons (c := ']') rfl]
      rfl
  | cons v' vs ih =>
      obtain ⟨n, rfl⟩ : ∃ m, n = m + 1 := ⟨n - 1, by omega⟩
      have hlength : (renderItems l depth (v' :: vs)).length = 1 + (l.before depth).length +
          (render l depth v').length + (renderItems l depth vs).length := by
        simp only [renderItems, List.length_append, List.length_cons]
        omega
      obtain ⟨hv', hvs⟩ := List.forall_mem_cons.1 hvs
      have hrest := ih hv' hvs (n := n) (by omega)
      rw [readItems, hv depth (apart_renderItems hclose) (by omega)]
      simp only [bind, Except.bind, renderItems, List.append_assoc, List.cons_append,
        skipSpace_cons (c := ',') rfl,
        skipSpace_append (hl.before depth), hv'.skipSpace_eq, hrest]
      rfl

/-- A name is read as it was written, with anything behind it. -/
theorem readString_keyChars (name : String) (rest : List Char) :
    ∃ cs, keyChars (.text name) ++ rest = '"' :: cs ∧
      readString cs = some (name.toList, rest) := by
  refine ⟨name.toList.flatMap charChars ++ '"' :: rest, ?_, readString_stringChars name rest⟩
  simp [keyChars, keyText, stringChars]

theorem skipSpace_keyChars (h : ∃ name, k = .text name) (cs : List Char) :
    skipSpace .plain (keyChars k ++ cs) = keyChars k ++ cs := by
  obtain ⟨name, rfl⟩ := h
  obtain ⟨cs', hcs, -⟩ := readString_keyChars name cs
  rw [hcs, skipSpace_cons (c := '"') rfl]

/-- One entry of an object is read as it was written, and then what stands behind it. -/
theorem readFields_entry (hl : l.IsBlank) {done fs : Fields Value}
    (hnames : ∀ f ∈ done ++ (k, v) :: fs, ∃ name, f.1 = .text name)
    (hnodup : (done ++ (k, v) :: fs).keys.Nodup) (hv : ReadsBack l limit v) (hrest : Apart rest)
    (hn : 2 * (render l depth v).length < n) :
    readFields .plain limit (n + 1) done (keyChars k ++
        (':' :: (l.afterColon ++ (render l depth v ++ rest)))) =
      match skipSpace .plain rest with
      | '\x7d' :: cs => .ok (done ++ [(k, v)], cs)
      | ',' :: cs => readFields .plain limit n (done ++ [(k, v)]) (skipSpace .plain cs)
      | _ => .error .malformed := by
  obtain ⟨name, rfl⟩ : ∃ name, k = .text name := hnames (k, v) (by simp)
  obtain ⟨cs, hkey, hread⟩ :=
    readString_keyChars name (':' :: (l.afterColon ++ (render l depth v ++ rest)))
  rw [hkey, readFields]
  simp only [hread, orMalformed, bind, Except.bind, skipSpace_cons (c := ':') rfl,
    skipSpace_append hl.afterColon, hv.skipSpace_eq, hv depth hrest hn, String.ofList_toList,
    set_of_fresh hnames hnodup]
  rfl

/-- The entries of an object are read as they were written, behind those already read. -/
theorem readFields_render (depth : Nat) (done : Fields Value) (rest : List Char) (hl : l.IsBlank)
    (hclose : AllBlank close) {fs : Fields Value}
    (hnames : ∀ f ∈ done ++ (k, v) :: fs, ∃ name, f.1 = .text name)
    (hnodup : (done ++ (k, v) :: fs).keys.Nodup)
    (hv : ReadsBack l limit v) (hfs : ∀ f ∈ fs, ReadsBack l limit f.2)
    (hn : 2 * ((render l depth v).length + (renderFields l depth fs).length) + 1 < n) :
    readFields .plain limit n done
        (keyChars k ++ (':' :: (l.afterColon ++ (render l depth v ++
          (renderFields l depth fs ++ (close ++ '\x7d' :: rest)))))) =
      .ok (done ++ (k, v) :: fs, rest) := by
  induction fs generalizing k v n done with
  | nil =>
      obtain ⟨n, rfl⟩ : ∃ m, n = m + 1 := ⟨n - 1, by omega⟩
      rw [readFields_entry hl hnames hnodup hv (apart_renderFields hclose) (by omega),
        renderFields, List.nil_append, skipSpace_append hclose, skipSpace_cons (c := '\x7d') rfl]
      rfl
  | cons f fs ih =>
      obtain ⟨n, rfl⟩ : ∃ m, n = m + 1 := ⟨n - 1, by omega⟩
      obtain ⟨k', v'⟩ := f
      have hlength : (renderFields l depth ((k', v') :: fs)).length = 2 + (l.before depth).length +
          (keyChars k').length + l.afterColon.length + (render l depth v').length +
            (renderFields l depth fs).length := by
        simp only [renderFields, List.length_append, List.length_cons]
        omega
      obtain ⟨hv', hfs⟩ := List.forall_mem_cons.1 hfs
      have hassoc : done ++ (k, v) :: (k', v') :: fs = (done ++ [(k, v)]) ++ (k', v') :: fs := by
        simp
      rw [readFields_entry hl hnames hnodup hv (apart_renderFields hclose) (by omega)]
      rw [hassoc] at hnames hnodup
      have hrest := ih _ hnames hnodup hv' hfs (n := n) (by omega)
      have hkey : ∀ cs, skipSpace .plain (keyChars k' ++ cs) = keyChars k' ++ cs :=
        skipSpace_keyChars (hnames (k', v') (by simp))
      simp only [renderFields, List.append_assoc, List.cons_append,
        skipSpace_cons (c := ',') rfl, skipSpace_append (hl.before depth), hkey, hrest,
        List.nil_append]

/-- An integer is read as a word or a number is. -/
theorem readValue_intChars (i : Int) :
    readValue .plain limit (n + 1) (intChars i ++ rest) =
      readPlain .plain limit (intChars i ++ rest) := by
  obtain ⟨c, cs, hhead, hc⟩ := exists_head_intChars i
  rw [hhead, List.cons_append, readValue.eq_def]
  dsimp only
  have hno : ∀ {mark : Char} {cs' : List Char}, ¬ (mark.isDigit = true ∨ mark = '-') →
      c :: (cs ++ rest) ≠ mark :: cs' := fun hmark h => hmark ((List.cons.inj h).1 ▸ hc)
  split
  · rename_i h; exact absurd h (hno (by decide))
  · rename_i h; exact absurd h (hno (by decide))
  · rename_i h; exact absurd h (hno (by decide))
  · rfl

/-- A list that is not closed at once has elements. -/
theorem readValue_list {cs : List Char} (h : ∀ cs', skipSpace .plain cs ≠ ']' :: cs') :
    readValue .plain limit (n + 1) ('[' :: cs) =
      (readItems .plain limit n (skipSpace .plain cs)).map fun r => (.list r.1, r.2) := by
  rw [readValue]
  split
  · rename_i cs' hclosed
    exact absurd hclosed (h cs')
  · cases readItems .plain limit n (skipSpace .plain cs) <;> rfl

/-- An object that is not closed at once has entries. -/
theorem readValue_obj {cs : List Char} (h : ∀ cs', skipSpace .plain cs ≠ '\x7d' :: cs') :
    readValue .plain limit (n + 1) ('\x7b' :: cs) =
      (readFields .plain limit n [] (skipSpace .plain cs)).map fun r => (.obj r.1, r.2) := by
  rw [readValue]
  split
  · rename_i cs' hclosed
    exact absurd hclosed (h cs')
  · cases readFields .plain limit n [] (skipSpace .plain cs) <;> rfl

theorem readsBack_list (hl : l.IsBlank) {vs : List Value} (h : ∀ v ∈ vs, ReadsBack l limit v) :
    ReadsBack l limit (.list vs) := by
  intro depth n rest _ hn
  obtain ⟨n, rfl⟩ : ∃ m, n = m + 1 := ⟨n - 1, by omega⟩
  cases vs with
  | nil => rfl
  | cons v vs =>
      obtain ⟨hv, hvs⟩ := List.forall_mem_cons.1 h
      have hlength : (render l depth (.list (v :: vs))).length = 2 +
          (l.before (depth + 1)).length + (render l (depth + 1) v).length +
            (renderItems l (depth + 1) vs).length + (l.before depth).length := by
        simp only [render, List.length_append, List.length_cons, List.length_nil]
        omega
      have hitems := readItems_render (depth + 1) rest (n := n) hl
        (hl.before depth) hv hvs (by omega)
      have hskip : ∀ cs, skipSpace .plain (l.before (depth + 1) ++
          (render l (depth + 1) v ++ cs)) = render l (depth + 1) v ++ cs := fun cs => by
        rw [skipSpace_append (hl.before _), hv.skipSpace_eq]
      simp only [render, List.cons_append, List.append_assoc, List.nil_append]
      rw [readValue_list, hskip, hitems]
      · rfl
      · intro cs' hclosed
        obtain ⟨c, cs, hhead, -, hc⟩ := hv.exists_head (depth + 1)
        rw [hskip, hhead] at hclosed
        exact hc (List.cons.inj hclosed).1

theorem readsBack_obj (hl : l.IsBlank) {fs : Fields Value}
    (hnames : ∀ f ∈ fs, ∃ name, f.1 = .text name) (hnodup : fs.keys.Nodup)
    (h : ∀ f ∈ fs, ReadsBack l limit f.2) : ReadsBack l limit (.obj fs) := by
  intro depth n rest _ hn
  obtain ⟨n, rfl⟩ : ∃ m, n = m + 1 := ⟨n - 1, by omega⟩
  cases fs with
  | nil => rfl
  | cons f fs =>
      obtain ⟨k, v⟩ := f
      obtain ⟨hv, hfs⟩ := List.forall_mem_cons.1 h
      have hlength : (render l depth (.obj ((k, v) :: fs))).length = 3 +
          (l.before (depth + 1)).length + (keyChars k).length + l.afterColon.length +
            (render l (depth + 1) v).length + (renderFields l (depth + 1) fs).length +
              (l.before depth).length := by
        simp only [render, List.length_append, List.length_cons, List.length_nil]
        omega
      have hfields := readFields_render (depth + 1) [] rest (n := n) hl (hl.before depth) hnames
        hnodup hv hfs (by omega)
      have hskip : ∀ cs, skipSpace .plain (l.before (depth + 1) ++ (keyChars k ++ cs)) =
          keyChars k ++ cs := fun cs => by
        rw [skipSpace_append (hl.before _), skipSpace_keyChars (hnames (k, v) (by simp))]
      simp only [render, List.cons_append, List.append_assoc, List.nil_append]
      rw [readValue_obj, hskip, hfields]
      · rfl
      · intro cs' hclosed
        obtain ⟨name, rfl⟩ : ∃ name, k = .text name := hnames (k, v) (by simp)
        rw [hskip] at hclosed
        cases hclosed

theorem readsBack_str (l : Layout) (limit : DigitLimit) (s : String) :
    ReadsBack l limit (.str s) := by
  refine .of_leaf fun depth n rest _ => ?_
  have hread := readString_stringChars s rest
  simp only [render, stringChars, List.cons_append, List.append_assoc, List.nil_append,
    readValue, hread, orMalformed, bind, Except.bind, String.ofList_toList]
  rfl

/-- **A value is read as it was written**, with anything behind it. -/
theorem readValue_render (hl : l.IsBlank) (hone : limit.admits 1 = true) (hv : v.IsJson)
    (hwritable : v.isWritable limit = true) : ReadsBack l limit v := by
  induction hv with
  | null => exact .of_leaf fun _ _ _ _ => rfl
  | bool b => exact .of_leaf fun _ _ _ _ => by cases b <;> rfl
  | int i =>
      exact .of_leaf fun _ _ _ hrest =>
        (readValue_intChars i).trans (readPlain_intChars hone hwritable hrest)
  | str s => exact readsBack_str l limit s
  | list _ ih =>
      exact readsBack_list hl fun v hv => ih v hv (forall_isWritable_of_list hwritable v hv)
  | obj hnames hnodup _ ih =>
      exact readsBack_obj hl hnames hnodup fun f hf =>
        ih f hf (forall_isWritable_of_fields hwritable f hf)

/-- **The text of a value is read as that value.** -/
theorem read_write (hl : l.IsBlank) (hone : limit.admits 1 = true) (hv : v.IsJson)
    (hwritable : v.isWritable limit = true) : read .plain limit (write l v) = .ok v := by
  have hback : ReadsBack l limit v := readValue_render hl hone hv hwritable
  have hread := hback 0 apart_nil
    (show 2 * (render l 0 v).length < 2 * (render l 0 v).length + 1 by omega)
  have hskip := hback.skipSpace_eq 0 []
  rw [List.append_nil] at hread hskip
  have hallows : (render l 0 v).all Dialect.plain.allows = true := List.all_eq_true.2 fun _ _ => rfl
  unfold read write
  simp only [String.toList_ofList, hallows, hskip, hread, bind, Except.bind]
  rfl

end Json

namespace SaveSlot

/-- **A slot holds the record that was saved in it.** -/
theorem load_save {limit : DigitLimit} {fields : Fields Value} (hone : limit.admits 1 = true)
    (hrecord : (Value.obj fields).IsJson)
    (hwritable : (Value.obj fields).isWritable limit = true) :
    load limit (save (.obj fields)) = .ok (some (.obj fields)) := by
  obtain ⟨middle, hrender⟩ : ∃ middle,
      Json.render .indented 0 (.obj fields) = '\x7b' :: (middle ++ ['\x7d']) := by
    cases fields with
    | nil => exact ⟨[], rfl⟩
    | cons f fs => exact ⟨_, rfl⟩
  have hstrip : Text.strip (Json.write .indented (.obj fields)) =
      Json.write .indented (.obj fields) := by
    rw [Json.write, hrender, Text.strip, String.toList_ofList, Text.stripChars_eq_self]
    · rintro c ⟨⟩
      decide
    · intro c hc
      rw [← List.cons_append, List.getLast?_concat] at hc
      cases hc
      decide
  have hfull : (Json.write .indented (.obj fields)).isEmpty = false := by
    rw [Json.write, hrender]
    simp
  unfold load save
  simp only [hstrip, hfull, Json.read_write Json.isBlank_indented hone hrecord hwritable]
  rfl

end SaveSlot

end Gamebook

/-
**Which texts are ranges.**

A range is written as one number, or as two numbers with a stroke and any blanks between them; a
number is a row of digits, with a stroke in front of it when it is below zero.  The stroke stands
for two things, but no text can be taken in two ways: the first stroke behind a digit parts two
numbers, and every other stroke is a sign.

Main definitions:

* `Band.RangeText.Written` — how ranges are written;
* `Band.NamesEnds` — the ends that a text names.

Main results:

* `Band.RangeText.split_eq_some_iff` — **what is taken apart is what is written**;
* `Band.namesEnds_intChars` — two integers around a stroke are the ends that they name;
* `Band.parseRange_text` — **a text covers the values between its ends**, and a text that names no
  ends covers nothing;
* `Band.not_parseRange_text` — an end with too many digits.
-/

import Gamebook.Proofs.Band.Range
import Gamebook.Proofs.Dice.Written

set_option autoImplicit false

namespace Gamebook

/-- The digits of a number are a numeral. -/
theorem Text.isNumeral_digitsOfNat (n : Nat) : Text.IsNumeral (Text.digitsOfNat n) :=
  ⟨Nat.toDigits_ne_nil, fun c hc => Text.isDigit_of_isDigit (Text.isDigit_digitsOfNat c hc)⟩

/-- A text without the blanks around it does not end with a blank. -/
theorem Text.getLast?_stripChars (cs : List Char) :
    ∀ c ∈ (Text.stripChars cs).getLast?, Text.isBlank c = false := by
  intro c hc
  unfold Text.stripChars Text.dropBlanksRight at hc
  rw [List.getLast?_reverse] at hc
  have hhead := List.head?_dropWhile_not Text.isBlank (cs.dropWhile Text.isBlank).reverse
  simpa [Option.mem_def.1 hc] using hhead

/-- The values of a die are in increasing order. -/
theorem Bounds.pairwise_values (b : Bounds) : b.values.Pairwise (· < ·) := by
  unfold Bounds.values
  rw [List.pairwise_map]
  refine List.pairwise_lt_range.imp ?_
  intro i j hij
  omega

namespace Band

variable {limit : DigitLimit}

/-! ### How ranges are written -/

namespace EndText

/-- The characters of an end: its sign, if it has one, and its digits. -/
def chars (e : EndText) : List Char := if e.negative then '-' :: e.digits else e.digits

/-- An integer as an end. -/
def ofInt (n : Int) : EndText := ⟨decide (n < 0), Text.digitsOfNat n.natAbs⟩

theorem chars_ofInt (n : Int) : (ofInt n).chars = intChars n := by
  unfold chars ofInt intChars
  by_cases h : n < 0 <;> simp [h]

theorem number_ofInt (n : Int) : (ofInt n).number = n := by
  unfold number ofInt
  rw [Text.natOfDigits_digitsOfNat]
  exact Binary64.signed_natAbs n

end EndText

/-- **The characters are the range as it is written**: one number, or two with a stroke between
them and any blanks around the stroke. -/
inductive RangeText.Written : RangeText → List Char → Prop
  | single {first : EndText} (digits : Text.IsNumeral first.digits) :
      Written ⟨first, none⟩ first.chars
  | pair {first second : EndText} {before after : List Char}
      (digits : Text.IsNumeral first.digits) (before_stroke : Text.AreBlanks before)
      (after_stroke : Text.AreBlanks after) (digits' : Text.IsNumeral second.digits) :
      Written ⟨first, some second⟩ (first.chars ++ (before ++ '-' :: (after ++ second.chars)))

/-- The characters are a range with the ends `a` and `b`. -/
def NamesEnds (cs : List Char) (a b : Int) : Prop :=
  ∃ t : RangeText, t.Written cs ∧ t.first.number = a ∧ t.last.number = b

/-! ### Taking a text apart -/

/-- The stroke is neither a digit nor a blank. -/
theorem stroke_plain : Text.isDigit '-' = false ∧ Text.isBlank '-' = false := by decide +kernel

theorem takeEnd_sound {cs rest : List Char} {e : EndText} (h : takeEnd cs = some (e, rest)) :
    Text.IsNumeral e.digits ∧ cs = e.chars ++ rest := by
  unfold takeEnd at h
  split at h
  · obtain ⟨⟨ds, cs'⟩, hdigits, heq⟩ := Option.map_eq_some_iff.1 h
    cases heq
    obtain ⟨hnumeral, hrest⟩ := Dice.takeDigits_sound hdigits
    exact ⟨hnumeral, congrArg ('-' :: ·) hrest⟩
  · obtain ⟨⟨ds, cs'⟩, hdigits, heq⟩ := Option.map_eq_some_iff.1 h
    cases heq
    exact Dice.takeDigits_sound hdigits

/-- A number is taken as a whole from what goes on with no digit. -/
theorem takeEnd_append {e : EndText} {rest : List Char} (h : Text.IsNumeral e.digits)
    (hrest : ∀ c ∈ rest.head?, Text.isDigit c = false) :
    takeEnd (e.chars ++ rest) = some (e, rest) := by
  obtain ⟨negative, ds⟩ := e
  have htake : Dice.takeDigits (ds ++ rest) = some (ds, rest) :=
    Dice.takeDigits_append h.1 h.2 hrest
  cases negative with
  | true =>
      change (Dice.takeDigits (ds ++ rest)).map _ = _
      rw [htake]
      rfl
  | false =>
      change takeEnd (ds ++ rest) = _
      unfold takeEnd
      split
      · -- The first character is a digit, and the stroke is none.
        rename_i cs hstroke
        obtain ⟨d, ds', rfl⟩ := List.exists_cons_of_ne_nil h.1
        have hdigit : Text.isDigit d = true := h.2 d (List.mem_cons_self ..)
        have hd : d = '-' := (List.cons.inj hstroke).1
        rw [hd, stroke_plain.1] at hdigit
        cases hdigit
      · rw [htake]
        rfl

theorem takeSecond_sound {cs : List Char} {second : Option EndText}
    (h : takeSecond cs = some second) :
    (cs = [] ∧ second = none) ∨ ∃ e after, second = some e ∧ Text.AreBlanks after ∧
      Text.IsNumeral e.digits ∧ cs = '-' :: (after ++ e.chars) := by
  unfold takeSecond at h
  split at h
  · cases h
    exact .inl ⟨rfl, rfl⟩
  · rename_i cs'
    split at h
    · rename_i e hend
      cases h
      obtain ⟨hnumeral, hchars⟩ := takeEnd_sound hend
      obtain ⟨hblanks, hcs⟩ := Text.exists_blanks cs'
      rw [hchars, List.append_nil] at hcs
      exact .inr ⟨e, _, rfl, hblanks, hnumeral, congrArg ('-' :: ·) hcs⟩
    · cases h
  · cases h

/-- A number does not start with a blank. -/
theorem head?_chars_not_blank {e : EndText} (h : Text.IsNumeral e.digits) :
    ∀ c ∈ e.chars.head?, Text.isBlank c = false := by
  obtain ⟨negative, ds⟩ := e
  cases negative with
  | true =>
      rintro c ⟨⟩
      exact stroke_plain.2
  | false =>
      have hhead := h.head?_not_blank []
      rwa [List.append_nil] at hhead

theorem takeSecond_complete {e : EndText} {after : List Char} (hafter : Text.AreBlanks after)
    (h : Text.IsNumeral e.digits) : takeSecond ('-' :: (after ++ e.chars)) = some (some e) := by
  have htake : takeEnd e.chars = some (e, []) := by
    rw [← List.append_nil e.chars]
    exact takeEnd_append h nofun
  have hblanks : (after ++ e.chars).dropWhile Text.isBlank = e.chars :=
    Text.dropWhile_blanks hafter (head?_chars_not_blank h)
  simp only [takeSecond, hblanks, htake]

namespace RangeText

variable {cs : List Char} {t t' : RangeText}

theorem split_sound (hlast : ∀ c ∈ cs.getLast?, Text.isBlank c = false)
    (h : split cs = some t) : t.Written cs := by
  obtain ⟨⟨first, rest⟩, hfirst, h⟩ := Option.bind_eq_some_iff.1 h
  obtain ⟨second, hsecond, h⟩ := Option.bind_eq_some_iff.1 h
  cases h
  obtain ⟨hnumeral, hcs⟩ := takeEnd_sound hfirst
  obtain ⟨hbefore, hrest⟩ := Text.exists_blanks rest
  rcases takeSecond_sound hsecond with ⟨hnil, rfl⟩ | ⟨e, after, rfl, hafter, hnumeral', hstroke⟩
  · -- Nothing but blanks stands behind a single number, and the text does not end with a blank.
    have hblanks : Text.AreBlanks rest := by
      intro c hc
      rw [hrest, hnil, List.append_nil] at hc
      exact hbefore c hc
    have hempty : rest = [] := by
      by_contra hne
      have hmem : rest.getLast hne ∈ cs.getLast? := by
        rw [hcs, List.getLast?_append, List.getLast?_eq_some_getLast hne]
        rfl
      have hblank := hblanks _ (List.getLast_mem hne)
      rw [hlast _ hmem] at hblank
      cases hblank
    rw [hcs, hempty, List.append_nil]
    exact .single hnumeral
  · rw [hstroke] at hrest
    rw [hcs, hrest]
    exact .pair hnumeral hbefore hafter hnumeral'

theorem split_complete (h : t.Written cs) : split cs = some t := by
  cases h with
  | @single first digits =>
      have htake : takeEnd first.chars = some (first, []) := by
        rw [← List.append_nil first.chars]
        exact takeEnd_append digits nofun
      unfold split
      rw [htake]
      rfl
  | @pair first second before after digits hbefore hafter digits' =>
      -- Behind the first number stand blanks and the stroke, and no digit.
      have hstroke : ∀ c ∈ ('-' :: (after ++ second.chars)).head?,
          Text.isDigit c = false ∧ Text.isBlank c = false := by
        rintro c ⟨⟩
        exact stroke_plain
      have hfirst := takeEnd_append digits (hbefore.head?_not_digit fun c hc => (hstroke c hc).1)
      have hblanks := Text.dropWhile_blanks hbefore fun c hc => (hstroke c hc).2
      unfold split
      simp only [hfirst, hblanks, takeSecond_complete hafter digits', Option.bind_eq_bind,
        Option.bind_some]
      rfl

/-- **What is taken apart is what is written**, in a text that does not end with a blank. -/
theorem split_eq_some_iff (hlast : ∀ c ∈ cs.getLast?, Text.isBlank c = false) :
    split cs = some t ↔ t.Written cs :=
  ⟨split_sound hlast, split_complete⟩

/-- No text is a range in two ways. -/
theorem Written.unique (h : t.Written cs) (h' : t'.Written cs) : t = t' :=
  Option.some.inj ((split_complete h).symm.trans (split_complete h'))

end RangeText

/-! ### Two integers -/

theorem namesEnds_single (a : Int) : NamesEnds (intChars a) a a := by
  refine ⟨⟨.ofInt a, none⟩, ?_, EndText.number_ofInt a, EndText.number_ofInt a⟩
  rw [← EndText.chars_ofInt]
  exact .single (Text.isNumeral_digitsOfNat _)

/-- **Two integers around a stroke** are the ends that they name, whatever their signs are and
whatever blanks stand at the stroke. -/
theorem namesEnds_intChars (a b : Int) {before after : List Char}
    (hbefore : Text.AreBlanks before) (hafter : Text.AreBlanks after) :
    NamesEnds (intChars a ++ (before ++ '-' :: (after ++ intChars b))) a b := by
  refine ⟨⟨.ofInt a, some (.ofInt b)⟩, ?_, EndText.number_ofInt a, EndText.number_ofInt b⟩
  rw [← EndText.chars_ofInt, ← EndText.chars_ofInt]
  exact .pair (Text.isNumeral_digitsOfNat _) hbefore hafter (Text.isNumeral_digitsOfNat _)

/-! ### What a text covers -/

section

variable {s : String} {bounds : Bounds} {a b : Int}

theorem rangeText?_eq_some_iff {t : RangeText} :
    rangeText? (.str s) = some t ↔ t.Written (Text.stripChars s.toList) :=
  RangeText.split_eq_some_iff (Text.getLast?_stripChars s.toList)

/-- A range covers the values between its ends, unless one of them has too many digits. -/
theorem parseRange_of_written {t : RangeText} (h : t.Written (Text.stripChars s.toList)) :
    parseRange limit (.str s) (some bounds) =
      if t.isWithin limit then .ok (between t.first.number t.last.number bounds)
      else .error .tooManyDigits := by
  have hrange := rangeText?_eq_some_iff.2 h
  have hlegible : isLegible limit (.str s) = t.isWithin limit := by
    simp [isLegible, hrange, Value.isNull, Value.isWritable]
  have hcovered : covered (.str s) bounds = between t.first.number t.last.number bounds := by
    simp [covered, hrange, Value.isNull]
  rw [parseRange_eq, hlegible, hcovered]

/-- What is no range covers nothing. -/
theorem parseRange_of_not_written
    (h : ¬ ∃ t : RangeText, t.Written (Text.stripChars s.toList)) :
    parseRange limit (.str s) (some bounds) = .ok [] := by
  have hrange : rangeText? (.str s) = none :=
    Option.eq_none_iff_forall_ne_some.2 fun t ht => h ⟨t, rangeText?_eq_some_iff.1 ht⟩
  have hlegible : isLegible limit (.str s) = true := by
    simp [isLegible, hrange, Value.isWritable]
  have hcovered : covered (.str s) bounds = [] := by
    simp [covered, hrange, Value.isNull]
  rw [parseRange_eq, if_pos hlegible, hcovered]

/-- The order of the ends does not matter. -/
theorem between_comm (a b : Int) (bounds : Bounds) : between a b bounds = between b a bounds := by
  unfold between
  rw [Int.min_comm, Int.max_comm a b]

theorem parseRange_of_namesEnds (h : NamesEnds (Text.stripChars s.toList) a b)
    (hwithin : ∀ t : RangeText, t.Written (Text.stripChars s.toList) → t.isWithin limit) :
    parseRange limit (.str s) (some bounds) = .ok (between a b bounds) := by
  obtain ⟨t, hwritten, rfl, rfl⟩ := h
  rw [parseRange_of_written hwritten, if_pos (hwithin t hwritten)]

/-- **A text covers the values between its ends.**  If no number of the text, where it is a range at
all, has too many digits, then it covers exactly those values of the die that lie between the two
ends that it names, whichever of them comes first, and a text that names none covers nothing.  All
pairs of integers are named, and all single ones. -/
theorem parseRange_text
    (hwithin : ∀ t : RangeText, t.Written (Text.stripChars s.toList) → t.isWithin limit)
    (bounds : Bounds) :
    (∀ a b, NamesEnds (Text.stripChars s.toList) a b → ∃ values : DieSet,
      parseRange limit (.str s) (some bounds) = .ok values ∧ values.Pairwise (· < ·) ∧
      ∀ v, v ∈ values ↔ (min a b ≤ v ∧ v ≤ max a b) ∧ bounds.min ≤ v ∧ v ≤ bounds.max) ∧
    (∀ a b (s' : String), NamesEnds (Text.stripChars s.toList) a b →
      NamesEnds (Text.stripChars s'.toList) b a →
      (∀ t : RangeText, t.Written (Text.stripChars s'.toList) → t.isWithin limit) →
      parseRange limit (.str s') (some bounds) = parseRange limit (.str s) (some bounds)) ∧
    ((¬ ∃ a b, NamesEnds (Text.stripChars s.toList) a b) →
      parseRange limit (.str s) (some bounds) = .ok []) ∧
    (∀ a, NamesEnds (intChars a) a a) ∧
    ∀ a b before after, Text.AreBlanks before → Text.AreBlanks after →
      NamesEnds (intChars a ++ (before ++ '-' :: (after ++ intChars b))) a b := by
  refine ⟨fun a b hnames => ?_, fun a b s' hnames hnames' hwithin' => ?_, fun hno => ?_,
    namesEnds_single, fun a b before after => namesEnds_intChars a b⟩
  · exact ⟨between a b bounds, parseRange_of_namesEnds hnames hwithin,
      Bounds.pairwise_values _, fun v => mem_between⟩
  · rw [parseRange_of_namesEnds hnames hwithin, parseRange_of_namesEnds hnames' hwithin',
      between_comm]
  · refine parseRange_of_not_written fun ⟨t, hwritten⟩ => ?_
    exact hno ⟨_, _, t, hwritten, rfl, rfl⟩

/-- On a die from minus four to four the range from two down to minus seven covers all values up to
two. -/
theorem parseRange_text_blanks :
    NamesEnds (Text.stripChars " 2\t- -7".toList) 2 (-7) ∧
    ∃ values : DieSet, parseRange .standard (.str " 2\t- -7") (some ⟨-4, 4⟩) = .ok values ∧
      ∀ v, v ∈ values ↔ -4 ≤ v ∧ v ≤ 2 := by
  have hsplit : RangeText.split (Text.stripChars " 2\t- -7".toList) =
      some ⟨⟨false, ['2']⟩, some ⟨true, ['7']⟩⟩ := by rfl
  have hwritten := rangeText?_eq_some_iff.1 hsplit
  have hwithin : ∀ t : RangeText, t.Written (Text.stripChars " 2\t- -7".toList) →
      t.isWithin .standard := by
    intro t ht
    rw [ht.unique hwritten]
    rfl
  have hnames : NamesEnds (Text.stripChars " 2\t- -7".toList) 2 (-7) :=
    ⟨_, hwritten, by decide +kernel, by decide +kernel⟩
  obtain ⟨hcovers, -⟩ := parseRange_text hwithin ⟨-4, 4⟩
  obtain ⟨values, hvalues, -, hmem⟩ := hcovers 2 (-7) hnames
  refine ⟨hnames, values, hvalues, fun v => ?_⟩
  rw [hmem]
  simp only [Int.min_def, Int.max_def]
  omega

/-- An end may have too many digits, and then the text does not cover what lies between its ends. -/
theorem not_parseRange_text :
    ¬ ∀ (s : String) (a b : Int) (bounds : Bounds),
      NamesEnds (Text.stripChars s.toList) a b →
      ∃ values, parseRange .standard (.str s) (some bounds) = .ok values := by
  intro h
  obtain ⟨nines, hlength, hnines⟩ : ∃ ds : List Char, ds.length = 4301 ∧ ∀ c ∈ ds, c = '9' :=
    ⟨List.replicate 4301 '9', List.length_replicate, fun c hc => List.eq_of_mem_replicate hc⟩
  have hnumeral : Text.IsNumeral nines := by
    refine ⟨List.ne_nil_of_length_pos (by omega), fun c hc => ?_⟩
    rw [hnines c hc]
    decide +kernel
  have hone : Text.IsNumeral ['1'] := by
    refine ⟨by simp, fun c hc => ?_⟩
    rw [List.mem_singleton.1 hc]
    decide +kernel
  have hblanks : Text.AreBlanks [] := by simp [Text.AreBlanks]
  let one : EndText := ⟨false, ['1']⟩
  let many : EndText := ⟨false, nines⟩
  have hwritten : RangeText.Written ⟨one, some many⟩ ('1' :: '-' :: nines) :=
    .pair hone hblanks hblanks hnumeral
  have hstrip : Text.stripChars ('1' :: '-' :: nines) = '1' :: '-' :: nines := by
    refine Text.stripChars_eq_self (by rintro c ⟨⟩; decide +kernel) fun c hc => ?_
    have hmem : c ∈ nines := by
      rw [List.getLast?_cons_cons, List.getLast?_cons_of_ne_nil hnumeral.1] at hc
      exact List.mem_of_getLast? hc
    exact Text.isBlank_eq_false_of_isDigit (hnumeral.2 c hmem)
  have hwithin : RangeText.isWithin .standard ⟨one, some many⟩ = false := by
    have hmany : DigitLimit.standard.admits nines.length = false := by
      rw [hlength]
      decide
    simp [many, RangeText.isWithin, RangeText.last, hmany]
  rw [← hstrip, ← String.toList_ofList (l := '1' :: '-' :: nines)] at hwritten
  obtain ⟨values, hvalues⟩ := h _ _ _ ⟨1, 20⟩ ⟨_, hwritten, rfl, rfl⟩
  rw [parseRange_of_written hwritten, hwithin] at hvalues
  cases hvalues

end

end Band

end Gamebook

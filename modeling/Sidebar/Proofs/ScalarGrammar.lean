import Mathlib.Data.List.TakeWhile
import Mathlib.Logic.Basic
import Mathlib.Tactic.SplitIfs
import Sidebar.Proofs.JsonTokens
/-!
# What the readers of strings, numbers and documents accept

`serde_json::from_str`, as `PanelConfig::from_json_str` calls it.

The readers of a string value and of an unsigned integer value, and the reading of a whole
document, are described here without the readers. White space is what `isBlank` holds of, and
a value starts where `dropWhile isBlank` leaves the text.

* An unsigned integer up to a bound (`UnsignedText`) is an integer literal: decimal digits
  with no leading zero unless the zero stands alone, with no sign, and followed by no digit,
  decimal point or exponent mark, so that neither a fraction nor an exponent follows; its
  value is at most the bound (`takes_unsigned_iff`). A minus sign is refused even before a
  zero: the number read after it is never unsigned (`readNumber_unsigned_iff`).
* A string value (`StringText`) is a quotation mark and a body that the string reader takes
  (`takes_text_iff`).
* A document is read exactly when its value is read and only white space follows it
  (`readDocument_eq_ok_iff`).
-/

namespace Sidebar
namespace Json

theorem takes_widen_iff {α : Type} {cs ds : List Char} {x : Except Fault (α × Rest cs)} {a : α}
    {rest : List Char} (hle : cs.length ≤ ds.length) :
    Takes (Json.widen hle x) a rest ↔ Takes x a rest := by
  constructor
  · rintro ⟨r, hr, rfl⟩
    match x, hr with
    | .ok (b, r'), hr =>
      simp only [Json.widen, Except.ok.injEq, Prod.mk.injEq] at hr
      obtain ⟨rfl, rfl⟩ := hr
      exact ⟨r', rfl, rfl⟩
  · intro h
    exact h.widen hle

theorem not_takes_error {α : Type} {cs : List Char} {f : Fault} {a : α} {rest : List Char} :
    ¬Takes (Except.error f : Except Fault (α × Rest cs)) a rest := by
  rintro ⟨r, hr, -⟩
  cases hr

theorem isDigit_eq (c : Char) : isDigit c = c.isDigit := by
  have key : ('0' ≤ c ∧ c ≤ '9') ↔ (48 ≤ c.val ∧ c.val ≤ 57) := Iff.rfl
  unfold isDigit digitValue Char.isDigit
  by_cases h : '0' ≤ c ∧ c ≤ '9'
  · simp [h, key.1 h]
  · have h' := (not_congr key).1 h
    simp only [h, if_false, Option.isSome_none]
    symm
    simp only [Bool.and_eq_false_iff, decide_eq_false_iff_not, ge_iff_le, ← not_and_or]
    exact h'

theorem digitValue_eq_none {c : Char} : digitValue c = none ↔ c.isDigit = false := by
  rw [← isDigit_eq, isDigit]
  cases digitValue c <;> simp

theorem integerNumber_eq_unsigned {positive : Bool} {sig n : Nat} :
    integerNumber positive sig = .unsigned n ↔ positive = true ∧ sig = n := by
  unfold integerNumber
  cases positive
  · simp only [Bool.false_eq_true, if_false, false_and, iff_false]
    split_ifs <;> simp
  · simp

theorem not_takes_asFloatNumber {cs : List Char} (x : Except Fault (Float × Rest cs)) (n : Nat)
    (rest : List Char) : ¬Takes (asFloatNumber x) (.unsigned n) rest := by
  rintro ⟨r, hr, -⟩
  cases x with
  | error f => cases hr
  | ok p => cases hr


theorem takes_ok_iff {α : Type} {cs : List Char} {a b : α} {r : Rest cs} {rest : List Char} :
    Takes (.ok (a, r) : Except Fault (α × Rest cs)) b rest ↔ a = b ∧ r.1 = rest := by
  constructor
  · rintro ⟨r', hr, rfl⟩
    cases hr
    exact ⟨rfl, rfl⟩
  · rintro ⟨rfl, rfl⟩
    exact ⟨r, rfl, rfl⟩

/-- After the digits, an unsigned integer is taken exactly when no fraction or exponent
follows. -/
theorem numberTail_unsigned_iff {positive : Bool} {sig n : Nat} {cs rest : List Char} :
    Takes (numberTail positive sig cs) (.unsigned n) rest ↔
      positive = true ∧ sig = n ∧ rest = cs ∧ ∀ c ∈ cs.head?, c ≠ '.' ∧ c ≠ 'e' ∧ c ≠ 'E' := by
  cases cs with
  | nil =>
    rw [numberTail, takes_ok_iff, integerNumber_eq_unsigned]
    simp [Rest.refl, eq_comm, and_assoc]
  | cons c t =>
    rw [numberTail]
    by_cases hdot : c = '.'
    · rw [if_pos hdot]
      exact iff_of_false (not_takes_asFloatNumber _ _ _) (by simp [hdot])
    by_cases hexp : c = 'e' ∨ c = 'E'
    · rw [if_neg hdot, if_pos hexp]
      exact iff_of_false (not_takes_asFloatNumber _ _ _) (by rcases hexp with rfl | rfl <;> simp)
    · rw [if_neg hdot, if_neg hexp, takes_ok_iff, integerNumber_eq_unsigned]
      simp only [not_or] at hexp
      simp [Rest.refl, hdot, hexp, eq_comm, and_assoc]

theorem le_ofDigitChars (ds : List Char) (init : Nat) : init ≤ Nat.ofDigitChars 10 ds init := by
  rw [Nat.ofDigitChars_eq_ofDigitChars_zero]
  have h10 : 0 < 10 ^ ds.length := Nat.pow_pos (by decide)
  exact Nat.le_add_right_of_le (Nat.le_mul_of_pos_left init h10)

/-- **The digits after the first give an unsigned integer** exactly when the number is
positive, its value fits in 64 bits and no fraction or exponent follows the digits. -/
theorem integerDigits_unsigned_iff {positive : Bool} {n : Nat} {rest : List Char} :
    ∀ (cs : List Char) (sig : Nat), sig ≤ u64Max →
      (Takes (integerDigits positive sig cs) (.unsigned n) rest ↔
        positive = true ∧ rest = cs.dropWhile Char.isDigit ∧
          Nat.ofDigitChars 10 (cs.takeWhile Char.isDigit) sig = n ∧ n ≤ u64Max ∧
          ∀ c ∈ rest.head?, c ≠ '.' ∧ c ≠ 'e' ∧ c ≠ 'E')
  | [], sig, hsig => by
    rw [integerDigits, numberTail_unsigned_iff]
    constructor
    · rintro ⟨hp, rfl, rfl, hh⟩
      exact ⟨hp, rfl, rfl, hsig, fun c hc => by simp at hc⟩
    · rintro ⟨hp, rfl, rfl, -, -⟩
      exact ⟨hp, rfl, rfl, fun c hc => by simp at hc⟩
  | c :: t, sig, hsig => by
    rw [integerDigits]
    cases hd : digitValue c with
    | none =>
      have hc : c.isDigit = false := digitValue_eq_none.1 hd
      simp only [numberTail_unsigned_iff, List.dropWhile_cons, List.takeWhile_cons, hc,
        Bool.false_eq_true, if_false, Nat.ofDigitChars_nil]
      constructor
      · rintro ⟨hp, rfl, rfl, hh⟩
        exact ⟨hp, rfl, rfl, hsig, hh⟩
      · rintro ⟨hp, rfl, rfl, -, hh⟩
        exact ⟨hp, rfl, rfl, hh⟩
    | some d =>
      have hc : c.isDigit = true := by
        cases h : c.isDigit
        · rw [digitValue_eq_none.2 h] at hd
          cases hd
        · rfl
      have hdv : d = c.toNat - '0'.toNat := by
        rw [digitValue_of_isDigit hc] at hd
        exact (Option.some.inj hd).symm
      simp only [List.dropWhile_cons, List.takeWhile_cons, hc, if_true, Nat.ofDigitChars_cons]
      by_cases hover : sig * 10 + d > u64Max
      · rw [if_pos hover]
        refine iff_of_false (not_takes_asFloatNumber _ _ _) ?_
        rintro ⟨-, -, hval, hle, -⟩
        have := le_ofDigitChars (t.takeWhile Char.isDigit) (10 * sig + (c.toNat - '0'.toNat))
        omega
      · rw [if_neg hover, takes_widen_iff, integerDigits_unsigned_iff t (sig * 10 + d) (by omega),
          Nat.mul_comm sig 10, hdv]

/-- A character that would carry a number on: a digit, a decimal point or an exponent mark. -/
def ContinuesNumber (c : Char) : Prop := c.isDigit = true ∨ c = '.' ∨ c = 'e' ∨ c = 'E'

/-- Decimal digits as a natural number is written: at least one, and no leading zero unless
the zero stands alone. -/
def IntegerLiteral (ds : List Char) : Prop :=
  ds ≠ [] ∧ (∀ c ∈ ds, c.isDigit = true) ∧ (ds.head? = some '0' → ds = ['0'])

/-- The text starts with an integer literal of value `n`, without sign, fraction or exponent,
and `rest` follows it: nothing in `rest` carries the number on. -/
def UnsignedNumeral (cs : List Char) (n : Nat) (rest : List Char) : Prop :=
  ∃ ds, cs = ds ++ rest ∧ IntegerLiteral ds ∧ Nat.ofDigitChars 10 ds 0 = n ∧
    ∀ c ∈ rest.head?, ¬ContinuesNumber c

theorem UnsignedNumeral.head_isDigit {cs rest : List Char} {n : Nat} (h : UnsignedNumeral cs n rest) :
    ∃ c t, cs = c :: t ∧ c.isDigit = true := by
  obtain ⟨ds, rfl, ⟨hne, hdig, -⟩, -, -⟩ := h
  obtain ⟨c, ds', rfl⟩ := List.exists_cons_of_ne_nil hne
  exact ⟨c, ds' ++ rest, rfl, hdig c List.mem_cons_self⟩

theorem not_unsignedNumeral_nil {n : Nat} {rest : List Char} : ¬UnsignedNumeral [] n rest := by
  intro h
  obtain ⟨c, t, hc, -⟩ := h.head_isDigit
  cases hc

theorem not_unsignedNumeral_cons {c : Char} {t rest : List Char} {n : Nat}
    (hc : c.isDigit = false) : ¬UnsignedNumeral (c :: t) n rest := by
  intro h
  obtain ⟨c', t', hct, hc'⟩ := h.head_isDigit
  obtain ⟨rfl, -⟩ := List.cons.inj hct
  rw [hc] at hc'
  cases hc'

/-- A run of digits that no digit follows is the longest run of digits at the front. -/
theorem digitRun_iff {ds rest : List Char} :
    ∀ {cs : List Char}, (cs = ds ++ rest ∧ (∀ c ∈ ds, c.isDigit = true) ∧
        ∀ c ∈ rest.head?, c.isDigit = false) ↔
      ds = cs.takeWhile Char.isDigit ∧ rest = cs.dropWhile Char.isDigit := by
  induction ds with
  | nil =>
    intro cs
    constructor
    · rintro ⟨hcs, -, hrest⟩
      rw [List.nil_append] at hcs
      rw [hcs]
      cases rest with
      | nil => simp
      | cons c t =>
        have hc : c.isDigit = false := hrest c rfl
        simp [hc]
    · rintro ⟨hds, rfl⟩
      have hsplit := List.takeWhile_append_dropWhile (p := Char.isDigit) (l := cs)
      rw [← hds, List.nil_append] at hsplit
      refine ⟨by rw [List.nil_append, hsplit], by simp, fun c hc => ?_⟩
      have hne : cs.dropWhile Char.isDigit ≠ [] := by
        intro h
        rw [h] at hc
        cases hc
      rw [List.head?_eq_some_head hne, Option.mem_def, Option.some.injEq] at hc
      rw [← hc]
      exact List.head_dropWhile_not Char.isDigit hne
  | cons d ds ih =>
    intro cs
    cases cs with
    | nil => simp
    | cons c t =>
      by_cases hc : c.isDigit = true
      · simp only [List.cons_append, List.cons.injEq, List.mem_cons, forall_eq_or_imp,
          List.takeWhile_cons, List.dropWhile_cons, hc, if_true]
        constructor
        · rintro ⟨⟨rfl, ht⟩, ⟨-, hds⟩, hrest⟩
          exact ⟨⟨rfl, (ih.1 ⟨ht, hds, hrest⟩).1⟩, (ih.1 ⟨ht, hds, hrest⟩).2⟩
        · rintro ⟨⟨rfl, hds⟩, hrest⟩
          obtain ⟨ht, hdig, hr⟩ := ih.2 ⟨hds, hrest⟩
          exact ⟨⟨rfl, ht⟩, ⟨hc, hdig⟩, hr⟩
      · have hc' : c.isDigit = false := by simpa using hc
        simp only [List.cons_append, List.cons.injEq, List.mem_cons, forall_eq_or_imp,
          List.takeWhile_cons, List.dropWhile_cons, hc', Bool.false_eq_true, if_false]
        constructor
        · rintro ⟨⟨rfl, -⟩, ⟨hd, -⟩, -⟩
          exact absurd hd hc
        · intro h
          simp at h

/-- A numeral led by a zero is that zero alone. -/
theorem unsignedNumeral_zero_iff {t rest : List Char} {n : Nat} :
    UnsignedNumeral ('0' :: t) n rest ↔ n = 0 ∧ rest = t ∧ ∀ c ∈ t.head?, ¬ContinuesNumber c := by
  constructor
  · rintro ⟨ds, hcs, ⟨hne, -, hzero⟩, hval, hrest⟩
    obtain ⟨d, ds', rfl⟩ := List.exists_cons_of_ne_nil hne
    obtain ⟨rfl, ht⟩ := List.cons.inj hcs
    have hds' : ds' = [] := (List.cons.inj (hzero rfl)).2
    subst hds'
    exact ⟨hval.symm, ht.symm, ht ▸ hrest⟩
  · rintro ⟨rfl, rfl, hrest⟩
    exact ⟨['0'], rfl, ⟨by simp, by simp, fun _ => rfl⟩, rfl, hrest⟩

/-- A numeral led by another digit runs over all the digits that follow. -/
theorem unsignedNumeral_cons_iff {c : Char} {t rest : List Char} {n : Nat} (hc : c.isDigit = true)
    (h0 : c ≠ '0') :
    UnsignedNumeral (c :: t) n rest ↔
      rest = t.dropWhile Char.isDigit ∧
        Nat.ofDigitChars 10 (t.takeWhile Char.isDigit) (c.toNat - '0'.toNat) = n ∧
        ∀ x ∈ rest.head?, x ≠ '.' ∧ x ≠ 'e' ∧ x ≠ 'E' := by
  have hcont : ∀ x, ¬ContinuesNumber x ↔ x.isDigit = false ∧ x ≠ '.' ∧ x ≠ 'e' ∧ x ≠ 'E' := by
    intro x
    simp [ContinuesNumber, not_or]
  constructor
  · rintro ⟨ds, hcs, ⟨hne, hdig, -⟩, hval, hrest⟩
    obtain ⟨d, ds', rfl⟩ := List.exists_cons_of_ne_nil hne
    obtain ⟨rfl, ht⟩ := List.cons.inj hcs
    have hrun := digitRun_iff.1 ⟨ht, fun x hx => hdig x (List.mem_cons_of_mem _ hx),
      fun x hx => ((hcont x).1 (hrest x hx)).1⟩
    refine ⟨hrun.2, ?_, fun x hx => ((hcont x).1 (hrest x hx)).2⟩
    rw [← hrun.1, ← hval, Nat.ofDigitChars_cons, Nat.mul_zero, Nat.zero_add]
  · rintro ⟨hrest, hval, hend⟩
    have hrun := digitRun_iff.2 ⟨rfl, hrest⟩
    refine ⟨c :: t.takeWhile Char.isDigit, by rw [List.cons_append, ← hrun.1], ⟨by simp, ?_, ?_⟩, ?_, ?_⟩
    · intro x hx
      rcases List.mem_cons.1 hx with rfl | hx
      · exact hc
      · exact hrun.2.1 x hx
    · intro h
      exact absurd (Option.some.inj h) h0
    · rw [Nat.ofDigitChars_cons, Nat.mul_zero, Nat.zero_add, hval]
    · intro x hx
      exact (hcont x).2 ⟨hrun.2.2 x hx, hend x hx⟩

/-- **A number is read as an unsigned integer** exactly when it has no sign and is an integer
literal that fits in 64 bits, followed by no digit, fraction or exponent. -/
theorem readNumber_unsigned_iff {positive : Bool} {cs rest : List Char} {n : Nat} :
    Takes (readNumber positive cs) (.unsigned n) rest ↔
      positive = true ∧ UnsignedNumeral cs n rest ∧ n ≤ u64Max := by
  cases cs with
  | nil =>
    refine iff_of_false not_takes_error ?_
    rintro ⟨-, h, -⟩
    exact not_unsignedNumeral_nil h
  | cons c t =>
    rw [readNumber, takes_widen_iff]
    unfold readNumberAfter
    by_cases h0 : c = '0'
    · -- a leading zero stands alone
      subst h0
      rw [if_pos rfl, unsignedNumeral_zero_iff]
      cases t with
      | nil =>
        rw [numberTail_unsigned_iff]
        constructor
        · rintro ⟨hp, rfl, rfl, -⟩
          exact ⟨hp, ⟨rfl, rfl, fun c hc => by cases hc⟩, by decide⟩
        · rintro ⟨hp, ⟨rfl, rfl, -⟩, -⟩
          exact ⟨hp, rfl, rfl, fun c hc => by cases hc⟩
      | cons d more =>
        simp only
        by_cases hd : isDigit d = true
        · rw [if_pos hd]
          refine iff_of_false not_takes_error ?_
          rintro ⟨-, ⟨-, -, hrest⟩, -⟩
          exact hrest d rfl (.inl (by rwa [← isDigit_eq]))
        · rw [if_neg hd, numberTail_unsigned_iff]
          have hd' : d.isDigit = false := by simpa [isDigit_eq] using hd
          constructor
          · rintro ⟨hp, rfl, rfl, hend⟩
            refine ⟨hp, ⟨rfl, rfl, fun x hx => ?_⟩, by decide⟩
            obtain rfl := Option.some.inj hx
            obtain ⟨h1, h2, h3⟩ := hend d rfl
            simp [ContinuesNumber, hd', h1, h2, h3]
          · rintro ⟨hp, ⟨rfl, rfl, hend⟩, -⟩
            refine ⟨hp, rfl, rfl, fun x hx => ?_⟩
            have h := hend x hx
            simp only [ContinuesNumber, not_or] at h
            exact h.2
    · rw [if_neg h0]
      cases hd : digitValue c with
      | none =>
        refine iff_of_false not_takes_error ?_
        rintro ⟨-, h, -⟩
        exact not_unsignedNumeral_cons (digitValue_eq_none.1 hd) h
      | some d =>
        have hc : c.isDigit = true := by
          cases h : c.isDigit
          · rw [digitValue_eq_none.2 h] at hd
            cases hd
          · rfl
        have hdv : c.toNat - '0'.toNat = d := by
          rw [digitValue_of_isDigit hc] at hd
          exact Option.some.inj hd
        have hd9 : d ≤ u64Max := by
          have : c.toNat ≤ '9'.toNat := by
            simp only [Char.isDigit, Bool.and_eq_true, decide_eq_true_eq] at hc
            exact hc.2
          have : ('9' : Char).toNat = 57 := rfl
          have : u64Max = 18446744073709551615 := rfl
          omega
        simp only
        rw [integerDigits_unsigned_iff t d hd9, unsignedNumeral_cons_iff hc h0, hdv]
        constructor
        · rintro ⟨hp, hrest, hval, hle, hend⟩
          exact ⟨hp, ⟨hrest, hval, hend⟩, hle⟩
        · rintro ⟨hp, ⟨hrest, hval, hend⟩, hle⟩
          exact ⟨hp, hrest, hval, hle, hend⟩

/-- An unsigned integer up to `bound` as a value: after white space, an integer literal of
value at most `bound` that nothing carries on. -/
def UnsignedText (bound : Nat) (cs : List Char) (n : Nat) (rest : List Char) : Prop :=
  UnsignedNumeral (cs.dropWhile isBlank) n rest ∧ n ≤ bound

/-- **The unsigned reader takes exactly the integer literals up to its bound**: no sign,
fraction or exponent, whatever the value; a negative zero is refused like any other negative
number. -/
theorem takes_unsigned_iff {expected : String} {bound : Nat} (hb : bound ≤ u64Max)
    {cs rest : List Char} {n : Nat} :
    Takes (unsigned expected bound cs) n rest ↔ UnsignedText bound cs n rest := by
  unfold unsigned UnsignedText
  split
  · next h =>
    rw [show cs.dropWhile isBlank = _ from h]
    refine iff_of_false not_takes_error ?_
    rintro ⟨hnum, -⟩
    exact not_unsignedNumeral_nil hnum
  · next c t h =>
    rw [show cs.dropWhile isBlank = _ from h]
    by_cases hm : c = '-'
    · -- after a minus sign the number read is never an unsigned integer
      rw [if_pos hm, takes_widen_iff]
      refine iff_of_false ?_ ?_
      · generalize hx : readNumber false t = x
        intro hacc
        rcases x with f | ⟨num, r⟩
        · exact not_takes_error hacc
        · cases num with
          | unsigned m =>
            have hread : Takes (readNumber false t) (.unsigned m) r.1 := ⟨r, hx, rfl⟩
            exact absurd (readNumber_unsigned_iff.1 hread).1 (by decide)
          | negative _ | float _ => exact not_takes_error hacc
      · rintro ⟨hnum, -⟩
        exact not_unsignedNumeral_cons (by rw [hm]; decide) hnum
    rw [if_neg hm]
    by_cases hd : isDigit c = true
    · rw [if_pos hd, takes_widen_iff]
      have hread : ∀ m r, Takes (readNumber true (c :: t)) (.unsigned m) r ↔
          UnsignedNumeral (c :: t) m r ∧ m ≤ u64Max := by
        intro m r
        rw [readNumber_unsigned_iff]
        simp
      generalize readNumber true (c :: t) = x at hread
      -- the bound is checked on an unsigned integer; any other number is refused
      rcases x with f | ⟨num, r⟩
      · refine iff_of_false not_takes_error ?_
        rintro ⟨hnum, hle⟩
        exact not_takes_error ((hread n rest).2 ⟨hnum, Nat.le_trans hle hb⟩)
      · cases num with
        | unsigned m =>
          have hm : Takes (Except.ok (Number.unsigned m, r) : Except Fault (Number × Rest (c :: t)))
              (.unsigned n) rest ↔ m = n ∧ r.1 = rest := by
            rw [takes_ok_iff, Number.unsigned.injEq]
          dsimp only
          split_ifs with hle
          · rw [takes_ok_iff]
            constructor
            · rintro ⟨rfl, rfl⟩
              exact ⟨((hread m r.1).1 (hm.2 ⟨rfl, rfl⟩)).1, hle⟩
            · rintro ⟨hnum, hn⟩
              exact hm.1 ((hread n rest).2 ⟨hnum, Nat.le_trans hn hb⟩)
          · refine iff_of_false not_takes_error ?_
            rintro ⟨hnum, hn⟩
            obtain ⟨rfl, -⟩ := hm.1 ((hread n rest).2 ⟨hnum, Nat.le_trans hn hb⟩)
            exact hle hn
        | negative _ | float _ =>
          refine iff_of_false not_takes_error ?_
          rintro ⟨hnum, hn⟩
          obtain ⟨r', hr', -⟩ := (hread n rest).2 ⟨hnum, Nat.le_trans hn hb⟩
          cases hr'
    · rw [if_neg hd]
      refine iff_of_false not_takes_error ?_
      rintro ⟨hnum, -⟩
      exact not_unsignedNumeral_cons (by simpa [isDigit_eq] using hd) hnum

/-- A string as a value: after white space, a quotation mark and a string body that the
string reader takes as `s`. -/
def StringText (cs : List Char) (s : String) (rest : List Char) : Prop :=
  ∃ t, cs.dropWhile isBlank = '"' :: t ∧ Takes (readString t) s rest

theorem takes_text_iff {cs rest : List Char} {s : String} :
    Takes (text cs) s rest ↔ StringText cs s rest := by
  unfold text StringText
  split
  · next h =>
    rw [show cs.dropWhile isBlank = _ from h]
    exact iff_of_false not_takes_error (by simp)
  · next c t h =>
    rw [show cs.dropWhile isBlank = _ from h]
    by_cases hq : c = '"'
    · subst hq
      rw [if_pos rfl, takes_widen_iff]
      simp
    · rw [if_neg hq]
      exact iff_of_false not_takes_error (by simp [hq])

/-- **A document is read** exactly when its value is read and only white space follows. -/
theorem readDocument_eq_ok_iff {α : Type} {rd : Reader α} {input : String} {a : α} :
    readDocument rd input = .ok a ↔ ∃ rest, Takes (rd input.toList) a rest ∧ Blank rest := by
  unfold readDocument
  split
  · next f h =>
    refine iff_of_false (by simp) ?_
    rintro ⟨rest, ⟨r, hr, -⟩, -⟩
    rw [h] at hr
    cases hr
  · next b r h =>
    have htakes : ∀ rest, Takes (rd input.toList) a rest ↔ b = a ∧ r.1 = rest := by
      intro rest
      rw [h, takes_ok_iff]
    simp only [htakes, Blank, ← List.dropWhile_eq_nil_iff, ← skipBlank_val]
    split
    · next hnil =>
      constructor
      · intro heq
        cases heq
        exact ⟨r.1, ⟨rfl, rfl⟩, hnil⟩
      · rintro ⟨rest, ⟨rfl, rfl⟩, -⟩
        rfl
    · next c t hcons =>
      refine iff_of_false (by simp) ?_
      rintro ⟨rest, ⟨rfl, rfl⟩, hnil⟩
      rw [hnil] at hcons
      cases hcons

end Json
end Sidebar

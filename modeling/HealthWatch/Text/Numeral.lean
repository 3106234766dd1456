/-!
# Decimal numerals

Writing a number in decimal digits and reading one back within a bound. A numeral that is read may
begin with one plus sign and with any number of zeros; a reading that fails says why, and of two
faults the leftmost is reported. `value_decimal` is the round trip.
-/

namespace HealthWatch.Numeral

/-- The character of a digit below ten. -/
def digit (n : Nat) : Char := Char.ofNat (48 + n)

/-- The number that a digit stands for. -/
def digitValue (c : Char) : Nat := c.toNat - 48

/-- The decimal digits of a number, without leading zeros. -/
def decimal (n : Nat) : List Char :=
  if n < 10 then [digit n] else decimal (n / 10) ++ [digit (n % 10)]

/-- The number that decimal digits stand for. -/
def value (ds : List Char) : Nat := ds.foldl (fun v c => 10 * v + digitValue c) 0

/-- Digits filled up with zeros on the left to a width. -/
def padded (width n : Nat) : List Char :=
  let ds := decimal n
  List.replicate (width - ds.length) '0' ++ ds

def text (n : Nat) : String := String.ofList (decimal n)

/-- The decimal text of an integer, with a minus sign below zero. -/
def intText (i : Int) : String :=
  match i with
  | .ofNat n => text n
  | .negSucc n => "-" ++ text (n + 1)

/-- Why a text is not a numeral within the bound. -/
inductive Fault where
  /-- There is no character at all. -/
  | empty
  /-- A character other than a digit. -/
  | invalidDigit
  /-- The number so far exceeds the bound. -/
  | tooLarge
  deriving DecidableEq, Repr

/-- The wording of a fault. -/
def Fault.message : Fault → String
  | .empty => "cannot parse integer from empty string"
  | .invalidDigit => "invalid digit found in string"
  | .tooLarge => "number too large to fit in target type"

/-- The number that continues `acc` with further digits, if it stays at or below `greatest`. -/
def readFrom (greatest acc : Nat) : List Char → Except Fault Nat
  | [] => .ok acc
  | c :: cs =>
    if c.isDigit then
      let next := 10 * acc + digitValue c
      if next ≤ greatest then readFrom greatest next cs else .error .tooLarge
    else .error .invalidDigit

/-- The number at most `greatest` that a text stands for. -/
def read (greatest : Nat) : List Char → Except Fault Nat
  | [] => .error .empty
  | '+' :: [] => .error .invalidDigit
  | '+' :: cs => readFrom greatest 0 cs
  | cs => readFrom greatest 0 cs

/-- The greatest number of 64 bits. -/
def greatest64 : Nat := 0xFFFF_FFFF_FFFF_FFFF

/-- The greatest number of 16 bits. -/
def greatest16 : Nat := 0xFFFF

/-- The number of 64 bits that a text stands for. -/
def read64? (cs : List Char) : Option Nat := (read greatest64 cs).toOption

/-! ## Digits and values -/

theorem digitValue_digit {n : Nat} (h : n < 10) : digitValue (digit n) = n := by
  have : n = 0 ∨ n = 1 ∨ n = 2 ∨ n = 3 ∨ n = 4 ∨ n = 5 ∨ n = 6 ∨ n = 7 ∨ n = 8 ∨ n = 9 := by omega
  rcases this with rfl | rfl | rfl | rfl | rfl | rfl | rfl | rfl | rfl | rfl <;> rfl

theorem isDigit_digit {n : Nat} (h : n < 10) : (digit n).isDigit = true := by
  have : n = 0 ∨ n = 1 ∨ n = 2 ∨ n = 3 ∨ n = 4 ∨ n = 5 ∨ n = 6 ∨ n = 7 ∨ n = 8 ∨ n = 9 := by omega
  rcases this with rfl | rfl | rfl | rfl | rfl | rfl | rfl | rfl | rfl | rfl <;> rfl

theorem digitValue_le {c : Char} (h : c.isDigit = true) : digitValue c ≤ 9 := by
  have hle : c.toNat ≤ 57 := of_decide_eq_true (Bool.and_eq_true_iff.1 h).2
  unfold digitValue
  omega

theorem value_append (a b : List Char) :
    value (a ++ b) = b.foldl (fun v c => 10 * v + digitValue c) (value a) := by
  simp [value, List.foldl_append]

theorem value_decimal (n : Nat) : value (decimal n) = n := by
  induction n using Nat.strongRecOn with
  | _ n ih =>
    rw [decimal]
    split
    · next h => simp [value, digitValue_digit h]
    · next h =>
      rw [value_append, ih (n / 10) (by omega)]
      simp [digitValue_digit (Nat.mod_lt n (by omega : 10 > 0))]
      omega

theorem isDigit_of_mem_decimal {n : Nat} {c : Char} (h : c ∈ decimal n) : c.isDigit = true := by
  induction n using Nat.strongRecOn with
  | _ n ih =>
    rw [decimal] at h
    split at h
    · next hn => simp at h; exact h ▸ isDigit_digit hn
    · next hn =>
      rcases List.mem_append.1 h with h | h
      · exact ih (n / 10) (by omega) h
      · simp at h; exact h ▸ isDigit_digit (Nat.mod_lt n (by omega))

theorem decimal_ne_nil (n : Nat) : decimal n ≠ [] := by
  rw [decimal]; split <;> simp

theorem decimal_of_head {n : Nat} (h : (decimal n).head? = some '0') : decimal n = ['0'] := by
  have hzero : n = 0 := by
    induction n using Nat.strongRecOn with
    | _ n ih =>
      rw [decimal] at h
      split at h
      · next hn =>
        have hvalue := digitValue_digit hn
        rw [Option.some.inj h] at hvalue
        exact hvalue.symm
      · next hn =>
        obtain ⟨c, cs, hcs⟩ := List.exists_cons_of_ne_nil (decimal_ne_nil (n / 10))
        have hhead : (decimal (n / 10)).head? = some '0' := by
          rw [hcs] at h ⊢
          exact h
        have := ih (n / 10) (by omega) hhead
        omega
  subst hzero
  rw [decimal]
  rfl

theorem length_decimal_le {n places : Nat} (hplaces : 0 < places) (h : n < Nat.pow 10 places) :
    (decimal n).length ≤ places := by
  induction places generalizing n with
  | zero => omega
  | succ places ih =>
    rw [decimal]
    split
    · exact Nat.succ_le_succ (Nat.zero_le places)
    · have hten : n < Nat.pow 10 places * 10 := h
      have hpos : 0 < places := by
        apply Nat.pos_of_ne_zero
        rintro rfl
        have hdigit : n < 10 := h
        omega
      have hlen := @ih (n / 10) hpos (by omega)
      simp only [List.length_append, List.length_singleton]
      omega

/-! ## Digits with zeros before them -/

theorem isDigit_of_mem_padded {width n : Nat} {c : Char} (h : c ∈ padded width n) :
    c.isDigit = true := by
  rcases List.mem_append.1 h with h | h
  · rw [List.eq_of_mem_replicate h]
    rfl
  · exact isDigit_of_mem_decimal h

theorem padded_ne_nil (width n : Nat) : padded width n ≠ [] :=
  List.append_ne_nil_of_right_ne_nil _ (decimal_ne_nil n)

theorem value_padded (width n : Nat) : value (padded width n) = n := by
  have hzeros : ∀ k, value (List.replicate k '0') = 0 := by
    intro k
    induction k with
    | zero => rfl
    | succ k ih => exact ih
  rw [padded, value_append, hzeros]
  exact value_decimal n

theorem length_padded {width n : Nat} (hwidth : 0 < width) (h : n < Nat.pow 10 width) :
    (padded width n).length = width := by
  have hle := length_decimal_le hwidth h
  simp only [padded, List.length_append, List.length_replicate]
  omega

/-! ## Reading digits -/

theorem le_foldl_digits (ds : List Char) (v : Nat) :
    v ≤ ds.foldl (fun v c => 10 * v + digitValue c) v := by
  induction ds generalizing v with
  | nil => exact Nat.le_refl v
  | cons c ds ih =>
    have hnext := ih (10 * v + digitValue c)
    rw [List.foldl_cons]
    omega

theorem readFrom_eq_ok_iff {greatest acc n : Nat} {cs : List Char} (hacc : acc ≤ greatest) :
    readFrom greatest acc cs = .ok n ↔ (∀ c ∈ cs, c.isDigit = true) ∧
      cs.foldl (fun v c => 10 * v + digitValue c) acc = n ∧ n ≤ greatest := by
  induction cs generalizing acc with
  | nil =>
    constructor
    · intro h
      obtain rfl := Except.ok.inj h
      exact ⟨fun _ h => absurd h List.not_mem_nil, rfl, hacc⟩
    · rintro ⟨-, rfl, -⟩
      rfl
  | cons c cs ih =>
    rw [readFrom, List.forall_mem_cons, List.foldl_cons]
    by_cases hc : c.isDigit = true
    · rw [if_pos hc]
      dsimp only
      by_cases hnext : 10 * acc + digitValue c ≤ greatest
      · rw [if_pos hnext, ih hnext, and_assoc]
        exact ⟨fun h => ⟨hc, h⟩, fun h => h.2⟩
      · -- The value only grows with further digits.
        rw [if_neg hnext]
        refine ⟨fun h => (nomatch h), ?_⟩
        rintro ⟨-, rfl, hn⟩
        exact absurd (Nat.le_trans (le_foldl_digits cs _) hn) hnext
    · rw [if_neg hc]
      exact ⟨fun h => (nomatch h), fun h => absurd h.1.1 hc⟩

/-- A text is a numeral of a number: one or more digits, with or without a plus sign before them. -/
inductive Denotes : List Char → Nat → Prop
  | unsigned {ds : List Char} (hne : ds ≠ []) (hds : ∀ c ∈ ds, c.isDigit = true) :
    Denotes ds (value ds)
  | signed {ds : List Char} (hne : ds ≠ []) (hds : ∀ c ∈ ds, c.isDigit = true) :
    Denotes ('+' :: ds) (value ds)

/-- The numerals within the bound are read, and nothing else is. -/
theorem read_eq_ok_iff {greatest n : Nat} {cs : List Char} :
    read greatest cs = .ok n ↔ Denotes cs n ∧ n ≤ greatest := by
  have hdigits : ∀ {ds : List Char}, readFrom greatest 0 ds = .ok n ↔
      (∀ c ∈ ds, c.isDigit = true) ∧ value ds = n ∧ n ≤ greatest :=
    readFrom_eq_ok_iff (Nat.zero_le greatest)
  constructor
  · intro h
    unfold read at h
    split at h
    · cases h
    · cases h
    · next ds hne =>
      obtain ⟨hds, rfl, hn⟩ := hdigits.1 h
      exact ⟨.signed hne hds, hn⟩
    · next hne _ _ =>
      obtain ⟨hds, rfl, hn⟩ := hdigits.1 h
      exact ⟨.unsigned hne hds, hn⟩
  · rintro ⟨h, hn⟩
    cases h with
    | unsigned hne hds =>
      have hplus : ∀ ds, cs ≠ '+' :: ds := by
        rintro ds rfl
        exact absurd (hds '+' List.mem_cons_self) (by decide)
      unfold read
      split
      · exact absurd rfl hne
      · exact absurd rfl (hplus _)
      · exact absurd rfl (hplus _)
      · exact hdigits.2 ⟨hds, rfl, hn⟩
    | @signed ds hne hds =>
      unfold read
      split
      · next h => cases h
      · next h => exact absurd (List.cons.inj h).2 hne
      · next h =>
        obtain rfl := (List.cons.inj h).2
        exact hdigits.2 ⟨hds, rfl, hn⟩
      · next _ h => exact absurd rfl (h ds)

theorem read64?_eq_some_iff {n : Nat} {cs : List Char} :
    read64? cs = some n ↔ Denotes cs n ∧ n ≤ greatest64 := by
  rw [← read_eq_ok_iff, read64?]
  cases read greatest64 cs with
  | ok m => exact ⟨fun h => congrArg _ (Option.some.inj h), fun h => congrArg _ (Except.ok.inj h)⟩
  | error e => exact ⟨fun h => (nomatch h), fun h => (nomatch h)⟩

theorem denotes_decimal (n : Nat) : Denotes (decimal n) n := by
  have h := Denotes.unsigned (decimal_ne_nil n) fun _ => isDigit_of_mem_decimal
  rwa [value_decimal] at h

theorem denotes_padded (width n : Nat) : Denotes (padded width n) n := by
  have h := Denotes.unsigned (padded_ne_nil width n) fun _ => isDigit_of_mem_padded
  rwa [value_padded] at h

/-- A numeral holds no characters but digits and the plus sign. -/
theorem Denotes.notMem {n : Nat} {cs : List Char} (h : Denotes cs n) {c : Char}
    (hdigit : c.isDigit = false) (hplus : c ≠ '+') : c ∉ cs := by
  have hds : ∀ {ds : List Char}, (∀ d ∈ ds, d.isDigit = true) → c ∉ ds := by
    intro ds hds hc
    rw [hds c hc] at hdigit
    cases hdigit
  cases h with
  | unsigned _ h => exact hds h
  | signed _ h =>
    rw [List.mem_cons, not_or]
    exact ⟨hplus, hds h⟩

end HealthWatch.Numeral

import LoxTokens.Number.Powers
import LoxTokens.Text.Basic

/-! # Decimal digits

`Text.ofNat` writes a natural number without leading zeros and `digitsValue` reads digits
back, leading zeros included (`digitsValue_ofNat`). -/

namespace LoxTokens

/-- The digit of a number below ten. -/
def digitChar (d : Nat) : Char := Char.ofNat (48 + d)

/-- The number of a digit. -/
def digitValue (c : Char) : Nat := c.toNat - 48

/-- The value of a sequence of digits, the most significant first. -/
def digitsValue (ds : Text) : Nat := ds.foldl (fun n c => 10 * n + digitValue c) 0

/-- The decimal digits of `n`; zero has one. -/
def Text.ofNat (n : Nat) : Text :=
  if n < 10 then [digitChar n] else Text.ofNat (n / 10) ++ [digitChar (n % 10)]
termination_by n

/-- The decimal digits of an integer, after a minus sign where it is negative. -/
def Text.ofInt (n : Int) : Text :=
  if n < 0 then '-' :: Text.ofNat n.natAbs else Text.ofNat n.natAbs

theorem digitValue_digitChar : ∀ d, d < 10 → digitValue (digitChar d) = d := by decide

theorem isDigit_digitChar : ∀ d, d < 10 → (digitChar d).isDigit = true := by decide

theorem digitsValue_foldl (n : Nat) (t : Text) :
    t.foldl (fun n c => 10 * n + digitValue c) n = n * tenTo t.length + digitsValue t := by
  induction t generalizing n with
  | nil => simp [digitsValue, tenTo_zero]
  | cons c t ih =>
    have h : digitsValue (c :: t) = digitValue c * tenTo t.length + digitsValue t := by
      rw [digitsValue, List.foldl_cons, ih, Nat.mul_zero, Nat.zero_add]
    rw [List.foldl_cons, ih, h, List.length_cons, tenTo_succ]
    generalize digitValue c = d
    generalize digitsValue t = v
    generalize tenTo t.length = p
    grind

theorem digitsValue_append (s t : Text) :
    digitsValue (s ++ t) = digitsValue s * tenTo t.length + digitsValue t := by
  rw [digitsValue, List.foldl_append, digitsValue_foldl]
  rfl

/-- Reading a written number gives the number. -/
theorem digitsValue_ofNat (n : Nat) : digitsValue (Text.ofNat n) = n := by
  fun_induction Text.ofNat n with
  | case1 n h => simp [digitsValue, digitValue_digitChar n h]
  | case2 n h ih =>
    have hd : digitsValue [digitChar (n % 10)] = n % 10 := by
      simp [digitsValue, digitValue_digitChar (n % 10) (Nat.mod_lt n (by decide))]
    have h10 : tenTo 1 = 10 := rfl
    rw [digitsValue_append, ih, hd, List.length_singleton, h10]
    omega

theorem isDigit_of_mem_ofNat (n : Nat) : ∀ c ∈ Text.ofNat n, c.isDigit = true := by
  fun_induction Text.ofNat n with
  | case1 n h => simp [isDigit_digitChar n h]
  | case2 n h ih =>
    intro c hc
    rcases List.mem_append.1 hc with hc | hc
    · exact ih c hc
    · rw [List.mem_singleton.1 hc]; exact isDigit_digitChar _ (Nat.mod_lt n (by decide))

theorem ofNat_ne_nil (n : Nat) : Text.ofNat n ≠ [] := by
  unfold Text.ofNat; split <;> simp

/-- Only zero begins with a zero. -/
theorem head?_ofNat {n : Nat} (h : 0 < n) : (Text.ofNat n).head? ≠ some '0' := by
  have hdigit : ∀ d, d < 10 → 0 < d → digitChar d ≠ '0' := by decide
  fun_induction Text.ofNat n with
  | case1 n hlt => simpa using hdigit n hlt h
  | case2 n hlt ih =>
    have hsome : (Text.ofNat (n / 10)).head?.isSome := List.isSome_head?.2 (ofNat_ne_nil _)
    rw [List.head?_append, Option.or_of_isSome hsome]
    exact ih (by omega)

end LoxTokens

import StorageGauges.Decimal.Reader

/-!
# Digits

The digits of a number are what it is written with, and reading them gives the
number again. They never begin with a needless zero, so no other digits without
one stand for the same number. A whole number is its digits, behind a minus sign
if it is negative, and it is read back.

## Theorems

* `Decimal.ofDigits_digitsOf`: The digits of a number stand for it.
* `Decimal.head?_digitsOf`: They do not begin with a needless zero.
* `Decimal.foldlM_ofNatText`: They are read from the left, one by one.
* `Decimal.takeDigits_ofNatText`: They are taken from the front of a text.
* `Decimal.integer?_ofNatText`, `Decimal.integer?_minus_ofNatText`: A whole
  number is read back.
-/

namespace StorageGauges

namespace Decimal

theorem ofDigits_concat (ds : List Nat) (d : Nat) :
    ofDigits (ds ++ [d]) = 10 * ofDigits ds + d := by
  unfold ofDigits
  rw [List.foldl_append]
  rfl

/-- A number comes back from its digits. -/
theorem ofDigits_digitsOf (n : Nat) : ofDigits (digitsOf n) = n := by
  -- The last digit is split off, as the digits were made.
  induction n using digitsOf.induct with
  | case1 n hsmall =>
      rw [digitsOf, if_pos hsmall]
      show 10 * 0 + n = n
      omega
  | case2 n hlarge ih =>
      rw [digitsOf, if_neg hlarge, ofDigits_concat, ih]
      omega

theorem digitsOf_lt (n : Nat) : ∀ d ∈ digitsOf n, d < 10 := by
  induction n using digitsOf.induct with
  | case1 n hsmall =>
      rw [digitsOf, if_pos hsmall]
      simp only [List.mem_singleton, forall_eq]
      exact hsmall
  | case2 n hlarge ih =>
      rw [digitsOf, if_neg hlarge]
      intro d hd
      rcases List.mem_append.mp hd with hd | hd
      · exact ih d hd
      · rw [List.mem_singleton.mp hd]
        omega

theorem digitsOf_ne_nil (n : Nat) : digitsOf n ≠ [] := by
  unfold digitsOf
  split
  · exact List.cons_ne_nil n []
  · exact List.append_ne_nil_of_right_ne_nil _ (List.cons_ne_nil _ [])

/-- Only zero begins with a zero. -/
theorem head?_digitsOf (n : Nat) (hpos : 0 < n) : (digitsOf n).head? ≠ some 0 := by
  induction n using digitsOf.induct with
  | case1 n hsmall =>
      rw [digitsOf, if_pos hsmall, List.head?_cons, Ne, Option.some.injEq]
      omega
  | case2 n hlarge ih =>
      -- The first digit is that of the tens, of which there are some.
      rw [digitsOf, if_neg hlarge]
      have htens := ih (by omega)
      rcases List.exists_cons_of_ne_nil (digitsOf_ne_nil (n / 10)) with ⟨d, ds, hds⟩
      rw [hds] at htens ⊢
      exact htens

theorem digit?_digitChar (d : Nat) (h : d < 10) : digit? (digitChar d) = some d := by
  have hall : ∀ d : Fin 10, digit? (digitChar d.val) = some d.val := by decide
  exact hall ⟨d, h⟩

/-- A character that counts as a digit is one of the ten. -/
theorem digitChar_of_digit? {c : Char} {d : Nat} (h : digit? c = some d) :
    d < 10 ∧ c = digitChar d := by
  refine ⟨?_, (ofDigit?_toChar c d h).symm⟩
  unfold digit? at h
  split at h
  · rename_i hc
    have hlast : c.toNat ≤ 57 := hc.2
    rw [Option.some.injEq] at h
    omega
  · exact absurd h (by simp)

/-- Nothing is taken from a text that does not begin with a digit. -/
theorem takeDigits_of_head? (s : List Char) (h : ∀ c, s.head? = some c → digit? c = none) :
    takeDigits s = ([], s) := by
  cases s with
  | nil => rfl
  | cons c rest => rw [takeDigits, h c rfl]

/-- Digits are taken up to the first character that is none. -/
theorem takeDigits_map_append (ds : List Nat) (hds : ∀ d ∈ ds, d < 10) (rest : List Char)
    (hrest : ∀ c, rest.head? = some c → digit? c = none) :
    takeDigits (ds.map digitChar ++ rest) = (ds, rest) := by
  induction ds with
  | nil => exact takeDigits_of_head? rest hrest
  | cons d ds ih =>
      rcases List.forall_mem_cons.mp hds with ⟨hd, hds⟩
      rw [List.map_cons, List.cons_append, takeDigits, digit?_digitChar d hd, ih hds]

theorem takeDigits_ofNatText (n : Nat) : takeDigits (ofNatText n) = (digitsOf n, []) := by
  have htaken := takeDigits_map_append (digitsOf n) (digitsOf_lt n) [] (by simp)
  rwa [List.append_nil] at htaken

/-- A text that begins with a digit has no sign. -/
theorem takeSign_of_digit? {c : Char} {d : Nat} (h : digit? c = some d) (rest : List Char) :
    takeSign (c :: rest) = (false, c :: rest) := by
  unfold takeSign
  split
  · -- Neither sign is a digit.
    rename_i tail heq
    have hplus : digit? '+' = none := by decide
    rw [(List.cons.inj heq).1, hplus] at h
    exact absurd h (by simp)
  · rename_i tail heq
    have hminus : digit? '-' = none := by decide
    rw [(List.cons.inj heq).1, hminus] at h
    exact absurd h (by simp)
  · rfl

theorem ofNatText_eq_cons (n : Nat) :
    ∃ c rest d, ofNatText n = c :: rest ∧ digit? c = some d := by
  rcases List.exists_cons_of_ne_nil (digitsOf_ne_nil n) with ⟨d, ds, hds⟩
  refine ⟨digitChar d, ds.map digitChar, d, by rw [ofNatText, hds, List.map_cons], ?_⟩
  exact digit?_digitChar d (digitsOf_lt n d (by rw [hds]; exact List.mem_cons_self))

theorem ofNatText_ne_nil (n : Nat) : ofNatText n ≠ [] :=
  mt List.map_eq_nil_iff.mp (digitsOf_ne_nil n)

/-- What is so of the ten digits is so of all characters of a number. -/
theorem forall_mem_ofNatText {p : Char → Prop} (hdigit : ∀ d : Fin 10, p (digitChar d.val))
    (n : Nat) : ∀ c ∈ ofNatText n, p c := by
  intro c hc
  rcases List.mem_map.mp hc with ⟨d, hd, rfl⟩
  exact hdigit ⟨d, digitsOf_lt n d hd⟩

/-- Whoever reads the digits of a number from the left, so that each is worth ten
    times the next, has the number in the end. -/
theorem foldlM_ofNatText {m : Type → Type} [Monad m] [LawfulMonad m] (step : Nat → Char → m Nat)
    (hstep : ∀ n d, d < 10 → step n (digitChar d) = pure (10 * n + d)) (n : Nat) :
    (ofNatText n).foldlM step 0 = pure n := by
  -- What the digits so far stand for is carried along.
  have hfrom : ∀ ds : List Nat, (∀ d ∈ ds, d < 10) → ∀ k,
      (ds.map digitChar).foldlM step k = pure (ds.foldl (fun n d => 10 * n + d) k) := by
    intro ds hds
    induction ds with
    | nil => exact fun k => rfl
    | cons d rest ih =>
        rcases List.forall_mem_cons.mp hds with ⟨hd, hrest⟩
        intro k
        rw [List.map_cons, List.foldlM_cons, hstep k d hd, pure_bind, List.foldl_cons]
        exact ih hrest _
  have hvalue := hfrom (digitsOf n) (digitsOf_lt n) 0
  rwa [← ofDigits, ofDigits_digitsOf] at hvalue

theorem takeSign_ofNatText (n : Nat) : takeSign (ofNatText n) = (false, ofNatText n) := by
  rcases ofNatText_eq_cons n with ⟨c, rest, d, heq, hc⟩
  rw [heq]
  exact takeSign_of_digit? hc rest

theorem integer?_ofNatText (n : Nat) : integer? (ofNatText n) = some (n : Int) := by
  rcases List.exists_cons_of_ne_nil (digitsOf_ne_nil n) with ⟨d, ds, hds⟩
  have hvalue : ofDigits (d :: ds) = n := by rw [← hds, ofDigits_digitsOf]
  simp only [integer?, takeSign_ofNatText, takeDigits_ofNatText, hds, hvalue, Bool.false_eq_true,
    if_false]

theorem integer?_minus_ofNatText (n : Nat) : integer? ('-' :: ofNatText n) = some (-(n : Int)) := by
  rcases List.exists_cons_of_ne_nil (digitsOf_ne_nil n) with ⟨d, ds, hds⟩
  have hvalue : ofDigits (d :: ds) = n := by rw [← hds, ofDigits_digitsOf]
  simp only [integer?, takeSign, takeDigits_ofNatText, hds, hvalue, if_true]

end Decimal

end StorageGauges

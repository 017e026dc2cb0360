import Mathlib.Data.List.Infix
import Mathlib.Algebra.Group.Int

/-!
# Reading a PID from a PID file descriptor

`PIDfromPIDFd` checks that a descriptor is a PID file descriptor, reads the kernel's `fdinfo`
text for it and picks the PID out of its `Pid:` line, with `strings.Lines`, `strings.CutPrefix`
and `strconv.ParseInt`. Texts are byte strings, as in Go.

* `strings.lines`, with the two steps of Go's loop (`lines_append`, `lines_of_not_mem`), and the
  round trip **`flatten_lines`**: the lines put together give back the text;
* `strconv.parseUint`, `strconv.parseInt` for base 10, and `decimal`, the form the kernel writes
  a number in. **`parseInt_decimal`**: `ParseInt` gives back every number that fits its bit
  size, and reports every other one as out of range, with the bound of its sign;
  **`parseInt_eq_ok_iff`**: `ParseInt` succeeds exactly on a run of digits with an optional
  sign whose value fits;
* `pidFromPidFd`. **`pidFromPidFd_reads_pid_line`**: after any lines that do not begin with
  `Pid:`, the kernel's line `Pid:\t<pid>\n` gives back the PID, whatever follows;
  **`pidFromPidFd_unterminated`**: a `Pid:` line that ends the text without its newline loses its
  last digit. **`pidFromPidFd_eq_ok_iff`**: what `PIDfromPIDFd` accepts, exactly: the first
  `Pid:` line with more after it, holding a 32-bit number in decimal and one more byte.
-/

namespace Spacetest

/-- A Go byte string. -/
abbrev Bytes := List UInt8

/-- The bytes of a string literal, in UTF-8 as Go stores them. -/
def bytes (s : String) : Bytes := s.toUTF8.data.toList

/-! ## `strings` -/

namespace strings

/-- `strings.Lines`: the lines of `s`, each with its newline (byte 10); the last one without, when
`s` does not end in a newline. -/
def lines : Bytes → List Bytes
  | [] => []
  | b :: s =>
    if b = 10 then [b] :: lines s
    else
      match lines s with
      | [] => [[b]]
      | l :: ls => (b :: l) :: ls

/-- `strings.CutPrefix`: `s` without `pre` and `true` when `s` begins with `pre`, else `s` and
`false`. -/
def cutPrefix (s pre : Bytes) : Bytes × Bool :=
  if pre.isPrefixOf s then (s.drop pre.length, true) else (s, false)

theorem lines_append (l s : Bytes) (hl : (10 : UInt8) ∉ l) :
    lines (l ++ 10 :: s) = (l ++ [10]) :: lines s := by
  induction l with
  | nil => simp [lines]
  | cons b l ih =>
    rw [List.mem_cons, not_or] at hl
    obtain ⟨hb, hl⟩ := hl
    rw [List.cons_append, lines, if_neg (Ne.symm hb), ih hl]
    rfl

theorem lines_of_not_mem {l : Bytes} (hl : (10 : UInt8) ∉ l) (hne : l ≠ []) : lines l = [l] := by
  induction l with
  | nil => exact absurd rfl hne
  | cons b l ih =>
    rw [List.mem_cons, not_or] at hl
    obtain ⟨hb, hl⟩ := hl
    rw [lines, if_neg (Ne.symm hb)]
    cases l with
    | nil => rfl
    | cons c l => rw [ih hl (List.cons_ne_nil _ _)]

/-- **The lines give back the text.** -/
theorem flatten_lines (s : Bytes) : (lines s).flatten = s := by
  induction s with
  | nil => rfl
  | cons b s ih =>
    unfold lines
    split
    · next hb => rw [List.flatten_cons, ih, hb]; rfl
    · split
      · next h => rw [h] at ih; rw [← ih]; rfl
      · next l ls h => rw [h] at ih; rw [← ih]; rfl

theorem lines_flatten_append (ls : List Bytes) (hls : ∀ l ∈ ls, (10 : UInt8) ∉ l) (s : Bytes) :
    lines ((ls.map (· ++ [10])).flatten ++ s) = ls.map (· ++ [10]) ++ lines s := by
  induction ls with
  | nil => rfl
  | cons l ls ih =>
    rw [List.map_cons, List.flatten_cons, List.append_assoc, List.append_assoc,
      List.singleton_append, lines_append l _ (hls l (.head _)), ih fun l' h => hls l' (.tail _ h)]
    rfl

end strings

/-! ## `strconv` for base 10 -/

namespace strconv

/-- The `Err` of a `strconv.NumError`, for base 10: `ErrSyntax` or `ErrRange`. -/
inductive NumErr
  | invalid
  | outOfRange
  deriving DecidableEq, Repr

/-- `strconv.NumError`: the function that failed, the text it was given, and why. -/
structure NumError where
  func : String
  num : Bytes
  err : NumErr
  deriving DecidableEq, Repr

/-- A decimal digit, `'0'` to `'9'`. -/
def IsDigit (c : UInt8) : Prop := 48 ≤ c.toNat ∧ c.toNat ≤ 57

instance (c : UInt8) : Decidable (IsDigit c) := inferInstanceAs (Decidable (_ ∧ _))

/-- One more digit of a decimal number. -/
def decStep (n : Nat) (c : UInt8) : Nat := n * 10 + (c.toNat - 48)

/-- The loop of `ParseUint` for base 10 over the digits of `s0`, with the value `n` so far. The
`uint64` arithmetic cannot overflow: `n` stays below `cutoff`, so `n * 10 + d` is checked
against `maxVal` exactly. -/
def parseUintLoop (s0 : Bytes) (maxVal : Nat) : Bytes → Nat → Nat × Option NumError
  | [], n => (n, none)
  | c :: cs, n =>
    if IsDigit c then
      if (2 ^ 64 - 1) / 10 + 1 ≤ n then (maxVal, some ⟨"ParseUint", s0, .outOfRange⟩)
      else if maxVal < decStep n c then (maxVal, some ⟨"ParseUint", s0, .outOfRange⟩)
      else parseUintLoop s0 maxVal cs (decStep n c)
    else (0, some ⟨"ParseUint", s0, .invalid⟩)

/-- `strconv.ParseUint(s, 10, bitSize)`, for `bitSize` from 1 to 64. -/
def parseUint (s : Bytes) (bitSize : Nat) : Nat × Option NumError :=
  if s = [] then (0, some ⟨"ParseUint", s, .invalid⟩)
  else parseUintLoop s (2 ^ bitSize - 1) s 0

/-- `strconv.ParseInt(s, 10, bitSize)`, for `bitSize` from 1 to 64: a sign `+` (43) or `-` (45),
`ParseUint` of the rest, and the bounds of a signed `bitSize`-bit number. -/
def parseInt (s : Bytes) (bitSize : Nat) : Int × Option NumError :=
  if s = [] then (0, some ⟨"ParseInt", s, .invalid⟩)
  else
    let (neg, t) : Bool × Bytes :=
      if s.head? = some 43 then (false, s.tail)
      else if s.head? = some 45 then (true, s.tail) else (false, s)
    let (un, err) := parseUint t bitSize
    if err.map (·.err) = some .invalid then (0, some ⟨"ParseInt", s, .invalid⟩)
    else if !neg ∧ 2 ^ (bitSize - 1) ≤ un then
      (2 ^ (bitSize - 1) - 1, some ⟨"ParseInt", s, .outOfRange⟩)
    else if neg ∧ 2 ^ (bitSize - 1) < un then
      (-2 ^ (bitSize - 1), some ⟨"ParseInt", s, .outOfRange⟩)
    else (if neg then -un else un, none)

/-! ### Decimal numbers -/

/-- The decimal digits of `n`, most significant first. -/
def digits (n : Nat) : Bytes :=
  if n < 10 then [(48 + n).toUInt8] else digits (n / 10) ++ [(48 + n % 10).toUInt8]
termination_by n
decreasing_by omega

/-- A number in decimal, with `-` (45) before a negative one: how the kernel writes it. -/
def decimal (n : Int) : Bytes := if n < 0 then 45 :: digits n.natAbs else digits n.toNat

theorem toNat_digit {d : Nat} (h : d < 10) : (48 + d).toUInt8.toNat = 48 + d := by
  simp only [Nat.toUInt8, UInt8.toNat, UInt8.ofNat, BitVec.toNat_ofNat]
  omega

theorem digits_ne_nil (n : Nat) : digits n ≠ [] := by
  rw [digits]
  split
  · exact List.cons_ne_nil _ _
  · exact List.append_ne_nil_of_right_ne_nil _ (List.cons_ne_nil _ _)

theorem isDigit_digits (n : Nat) : ∀ c ∈ digits n, IsDigit c := by
  induction n using Nat.strong_induction_on with
  | _ n ih =>
    have hdigit : ∀ {d}, d < 10 → IsDigit (48 + d).toUInt8 := fun h => by
      unfold IsDigit
      rw [toNat_digit h]
      omega
    rw [digits]
    split
    · next h => exact fun c hc => (List.mem_singleton.mp hc) ▸ hdigit h
    · next h =>
      intro c hc
      rcases List.mem_append.mp hc with hc | hc
      · exact ih (n / 10) (by omega) c hc
      · exact (List.mem_singleton.mp hc) ▸ hdigit (Nat.mod_lt _ (by omega))

theorem foldl_digits (n : Nat) : (digits n).foldl decStep 0 = n := by
  induction n using Nat.strong_induction_on with
  | _ n ih =>
    rw [digits]
    split
    · next h => simp only [List.foldl_cons, List.foldl_nil, decStep, toNat_digit h]; omega
    · next h =>
      rw [List.foldl_append, ih (n / 10) (by omega), List.foldl_cons, List.foldl_nil, decStep,
        toNat_digit (Nat.mod_lt _ (by omega))]
      omega

theorem le_foldl_decStep (cs : Bytes) (n : Nat) : n ≤ cs.foldl decStep n := by
  induction cs generalizing n with
  | nil => exact le_refl n
  | cons c cs ih => exact le_trans (by unfold decStep; omega) (ih (decStep n c))

/-- **`ParseUint`'s loop over digits** ends with the value of all of them, or with `ErrRange` as
soon as the value so far exceeds `maxVal`. -/
theorem parseUintLoop_digits (s0 : Bytes) {maxVal : Nat} (hmax : maxVal < 2 ^ 64) (cs : Bytes)
    (hcs : ∀ c ∈ cs, IsDigit c) {n : Nat} (hn : n ≤ maxVal) :
    parseUintLoop s0 maxVal cs n = if cs.foldl decStep n ≤ maxVal then (cs.foldl decStep n, none)
      else (maxVal, some ⟨"ParseUint", s0, .outOfRange⟩) := by
  induction cs generalizing n with
  | nil => rw [parseUintLoop, List.foldl_nil, if_pos hn]
  | cons c cs ih =>
    have hmono := le_foldl_decStep cs (decStep n c)
    rw [parseUintLoop, if_pos (hcs c (.head _)), List.foldl_cons]
    by_cases hcut : (2 ^ 64 - 1) / 10 + 1 ≤ n
    · -- `n * 10` would overflow, and the value is beyond `maxVal` anyway
      have hstep : n * 10 ≤ decStep n c := Nat.le_add_right _ _
      rw [if_pos hcut, if_neg]
      omega
    rw [if_neg hcut]
    by_cases hover : maxVal < decStep n c
    · rw [if_pos hover, if_neg (by omega)]
    · rw [if_neg hover]
      exact ih (fun c h => hcs c (.tail _ h)) (not_lt.mp hover)

theorem parseUint_digits (n : Nat) {bitSize : Nat} (hb : bitSize ≤ 64) :
    parseUint (digits n) bitSize = if n ≤ 2 ^ bitSize - 1 then (n, none)
      else (2 ^ bitSize - 1, some ⟨"ParseUint", digits n, .outOfRange⟩) := by
  have hmax : 2 ^ bitSize - 1 < 2 ^ 64 := by
    have := Nat.pow_le_pow_right Nat.two_pos hb
    have := Nat.two_pow_pos bitSize
    omega
  rw [parseUint, if_neg (digits_ne_nil n),
    parseUintLoop_digits _ hmax _ (isDigit_digits n) (Nat.zero_le _), foldl_digits]

theorem head?_digits (m : Nat) : ∃ c, (digits m).head? = some c ∧ IsDigit c := by
  obtain ⟨c, cs, h⟩ := List.exists_cons_of_ne_nil (digits_ne_nil m)
  exact ⟨c, by rw [h]; rfl, isDigit_digits m c (h ▸ .head _)⟩

/-- **`ParseInt` reads back what the kernel writes.** For a bit size from 2 to 64, `ParseInt` of a
number in decimal is the number when it fits, and otherwise `ErrRange` with the bound on the
number's side. -/
theorem parseInt_decimal (n : Int) {b : Nat} (hb2 : 2 ≤ b) (hb : b ≤ 64) :
    parseInt (decimal n) b = if -2 ^ (b - 1) ≤ n ∧ n < 2 ^ (b - 1) then (n, none)
      else (if n < 0 then -2 ^ (b - 1) else 2 ^ (b - 1) - 1,
        some ⟨"ParseInt", decimal n, .outOfRange⟩) := by
  have hpow : 2 ^ b = 2 * 2 ^ (b - 1) := by rw [← Nat.pow_succ']; congr 1; omega
  have hc : 2 ≤ 2 ^ (b - 1) := Nat.le_self_pow (by omega) 2
  have hcast : (2 : Int) ^ (b - 1) = ((2 ^ (b - 1) : Nat) : Int) := by push_cast; rfl
  rw [hcast]
  by_cases hn : n < 0
  · -- a sign, then the digits of `|n|`
    have hdec : decimal n = 45 :: digits n.natAbs := if_pos hn
    have habs := Int.ofNat_natAbs_of_nonpos (Int.le_of_lt hn)
    rw [parseInt, if_neg (hdec ▸ List.cons_ne_nil _ _), hdec, List.head?_cons, if_neg (by decide),
      if_pos rfl]
    dsimp only
    rw [List.tail_cons, parseUint_digits _ hb, hcast]
    by_cases hk : n.natAbs ≤ 2 ^ b - 1
    · rw [if_pos hk]
      dsimp only
      by_cases hlt : 2 ^ (b - 1) < n.natAbs
      · rw [if_neg (by simp), if_neg (by simp), if_pos ⟨rfl, hlt⟩, if_neg (by omega), if_pos hn]
      · have hin : -((2 ^ (b - 1) : Nat) : Int) ≤ n ∧ n < ((2 ^ (b - 1) : Nat) : Int) := by omega
        rw [if_neg (by simp), if_neg (by simp), if_neg (by simp [hlt]), if_pos hin, if_pos rfl]
        congr 1
        omega
    · rw [if_neg hk]
      dsimp only
      rw [if_neg (by simp), if_neg (by simp), if_pos ⟨rfl, by omega⟩, if_neg (by omega), if_pos hn]
  · -- the digits of `n`
    have hdec : decimal n = digits n.toNat := if_neg hn
    have htoNat := Int.toNat_of_nonneg (Int.not_lt.mp hn)
    obtain ⟨c, hhead, hdigit⟩ := head?_digits n.toNat
    have h43 : c ≠ 43 := fun h => by rw [h] at hdigit; exact absurd hdigit (by decide)
    have h45 : c ≠ 45 := fun h => by rw [h] at hdigit; exact absurd hdigit (by decide)
    rw [parseInt, if_neg (hdec ▸ digits_ne_nil _), hdec, hhead, if_neg (by simpa using h43),
      if_neg (by simpa using h45)]
    dsimp only
    rw [parseUint_digits _ hb, hcast]
    by_cases hk : n.toNat ≤ 2 ^ b - 1
    · rw [if_pos hk]
      dsimp only
      by_cases hle : 2 ^ (b - 1) ≤ n.toNat
      · rw [if_neg (by simp), if_pos ⟨rfl, hle⟩, if_neg (by omega), if_neg hn]
      · have hin : -((2 ^ (b - 1) : Nat) : Int) ≤ n ∧ n < ((2 ^ (b - 1) : Nat) : Int) := by omega
        rw [if_neg (by simp), if_neg (by simp [hle]), if_neg (by simp), if_pos hin]
        congr 1
    · rw [if_neg hk]
      dsimp only
      rw [if_neg (by simp), if_pos ⟨rfl, by omega⟩, if_neg (by omega), if_neg hn]

theorem decimal_ne_nil (n : Int) : decimal n ≠ [] := by
  unfold decimal
  split
  · exact List.cons_ne_nil _ _
  · exact digits_ne_nil _

theorem newline_not_mem_decimal (n : Int) : (10 : UInt8) ∉ decimal n := by
  have hd : ∀ m, (10 : UInt8) ∉ digits m := fun m h => absurd (isDigit_digits m 10 h) (by decide)
  unfold decimal
  split
  · exact fun h => (List.mem_cons.mp h).elim (fun h => absurd h (by decide)) (hd _)
  · exact hd _

theorem decimal_dropLast {n : Int} (h : 10 ≤ n.natAbs) :
    (decimal n).dropLast = decimal (n.sign * ↑(n.natAbs / 10)) := by
  have hdig : (digits n.natAbs).dropLast = digits (n.natAbs / 10) := by
    rw [digits, if_neg (by omega), List.dropLast_concat]
  by_cases hn : n < 0
  · have hq : n.sign * ↑(n.natAbs / 10) = -↑(n.natAbs / 10) := by
      rw [Int.sign_eq_neg_one_of_neg hn]; omega
    rw [decimal, if_pos hn, List.dropLast_cons_of_ne_nil (digits_ne_nil _), hdig, hq, decimal,
      if_pos (by omega), Int.natAbs_neg, Int.natAbs_ofNat]
  · have hq : n.sign * ↑(n.natAbs / 10) = ↑(n.natAbs / 10) := by
      rw [Int.sign_eq_one_of_pos (by omega), Int.one_mul]
    rw [decimal, if_neg hn, hq, decimal, if_neg (by omega), Int.toNat_ofNat,
      show n.toNat = n.natAbs by omega, hdig]

theorem parseInt_decimal_dropLast {n : Int} (h : n.natAbs < 10) :
    parseInt (decimal n).dropLast 32 = (0, some ⟨"ParseInt", (decimal n).dropLast, .invalid⟩) := by
  have hone : digits n.natAbs = [(48 + n.natAbs).toUInt8] := by rw [digits, if_pos h]
  by_cases hn : n < 0
  · rw [decimal, if_pos hn, hone]
    rfl
  · rw [decimal, if_neg hn, show n.toNat = n.natAbs by omega, hone]
    rfl

/-! ### What `ParseInt` accepts -/

theorem parseUintLoop_cases (s0 : Bytes) (maxVal : Nat) (cs : Bytes) (n : Nat) :
    (parseUintLoop s0 maxVal cs n = (cs.foldl decStep n, none) ∧ ∀ c ∈ cs, IsDigit c) ∨
      parseUintLoop s0 maxVal cs n = (maxVal, some ⟨"ParseUint", s0, .outOfRange⟩) ∨
      parseUintLoop s0 maxVal cs n = (0, some ⟨"ParseUint", s0, .invalid⟩) := by
  induction cs generalizing n with
  | nil => exact .inl ⟨rfl, fun _ h => absurd h (List.not_mem_nil _)⟩
  | cons c cs ih =>
    rw [parseUintLoop]
    split_ifs with hc h1 h2
    · exact .inr (.inl rfl)
    · exact .inr (.inl rfl)
    · rcases ih (decStep n c) with ⟨h, hcs⟩ | h | h
      · exact .inl ⟨h, fun c' h' => (List.mem_cons.mp h').elim (· ▸ hc) (hcs c')⟩
      · exact .inr (.inl h)
      · exact .inr (.inr h)
    · exact .inr (.inr rfl)

theorem parseUint_cases (t : Bytes) (b : Nat) :
    (parseUint t b = (t.foldl decStep 0, none) ∧ t ≠ [] ∧ ∀ c ∈ t, IsDigit c) ∨
      parseUint t b = (2 ^ b - 1, some ⟨"ParseUint", t, .outOfRange⟩) ∨
      parseUint t b = (0, some ⟨"ParseUint", t, .invalid⟩) := by
  rw [parseUint]
  split_ifs with ht
  · exact .inr (.inr rfl)
  · rcases parseUintLoop_cases t (2 ^ b - 1) t 0 with ⟨h, hd⟩ | h | h
    exacts [.inl ⟨h, ht, hd⟩, .inr (.inl h), .inr (.inr h)]

theorem parseInt_ok {s : Bytes} {b : Nat} (hb2 : 2 ≤ b) {v : Int} (h : parseInt s b = (v, none)) :
    -2 ^ (b - 1) ≤ v ∧ v < 2 ^ (b - 1) ∧ ∃ ds, ds ≠ [] ∧ (∀ c ∈ ds, IsDigit c) ∧
      ((s = ds ∨ s = 43 :: ds) ∧ v = ↑(ds.foldl decStep 0) ∨
        s = 45 :: ds ∧ v = -↑(ds.foldl decStep 0)) := by
  have hpow : 2 ^ b = 2 * 2 ^ (b - 1) := by rw [← Nat.pow_succ']; congr 1; omega
  have hc : 2 ≤ 2 ^ (b - 1) := Nat.le_self_pow (by omega) 2
  have hcast : (2 : Int) ^ (b - 1) = ((2 ^ (b - 1) : Nat) : Int) := by push_cast; rfl
  rw [hcast]
  obtain ⟨c, t, rfl⟩ : ∃ c t, s = c :: t := List.exists_cons_of_ne_nil fun h0 => by
    rw [h0] at h; cases h
  simp only [parseInt, List.cons_ne_nil, if_false, List.head?_cons, Option.some.injEq,
    List.tail_cons] at h
  -- the sign, then `ParseUint` of the rest
  obtain ⟨neg, t', hsplit, hs⟩ : ∃ neg t', (if c = 43 then (false, t) else if c = 45 then
      (true, t) else (false, c :: t)) = (neg, t') ∧
      (neg = false ∧ (c :: t = t' ∨ c :: t = 43 :: t') ∨ neg = true ∧ c :: t = 45 :: t') := by
    split_ifs with h43 h45
    · exact ⟨_, _, rfl, .inl ⟨rfl, .inr (h43 ▸ rfl)⟩⟩
    · exact ⟨_, _, rfl, .inr ⟨rfl, h45 ▸ rfl⟩⟩
    · exact ⟨_, _, rfl, .inl ⟨rfl, .inl rfl⟩⟩
  rw [hsplit] at h
  dsimp only at h
  rcases hs with ⟨rfl, hs⟩ | ⟨rfl, hs⟩ <;>
  rcases parseUint_cases t' b with ⟨hp, hne, hd⟩ | hp | hp <;> rw [hp] at h <;>
    simp only [Option.map_none', Option.map_some', Option.some.injEq, reduceCtorEq, if_true,
      if_false, Bool.not_false, Bool.not_true, true_and, false_and, Bool.false_eq_true,
      Prod.mk.injEq, and_false] at h
  · -- no sign: a run of digits below the bound
    split_ifs at h with h1
    · cases h
    obtain rfl := (Prod.mk.inj h).1
    exact ⟨by omega, by omega, t', hne, hd, .inl ⟨hs, rfl⟩⟩
  · -- `ErrRange` of `ParseUint`: beyond the bound
    rw [if_pos (by omega)] at h
    cases h
  · -- a minus sign: a run of digits up to the bound
    split_ifs at h with h1
    · cases h
    obtain rfl := (Prod.mk.inj h).1
    exact ⟨by omega, by omega, t', hne, hd, .inr ⟨hs, rfl⟩⟩
  · rw [if_pos (by omega)] at h
    cases h

theorem parseInt_of_ok {b : Nat} (hb2 : 2 ≤ b) (hb : b ≤ 64) {s ds : Bytes} {v : Int}
    (hne : ds ≠ []) (hd : ∀ c ∈ ds, IsDigit c) (hv : -2 ^ (b - 1) ≤ v ∧ v < 2 ^ (b - 1))
    (hs : (s = ds ∨ s = 43 :: ds) ∧ v = ↑(ds.foldl decStep 0) ∨
      s = 45 :: ds ∧ v = -↑(ds.foldl decStep 0)) :
    parseInt s b = (v, none) := by
  have hpow : 2 ^ b = 2 * 2 ^ (b - 1) := by rw [← Nat.pow_succ']; congr 1; omega
  have hmax : 2 ^ b - 1 < 2 ^ 64 := by
    have := Nat.pow_le_pow_right Nat.two_pos hb
    omega
  have hcast : (2 : Int) ^ (b - 1) = ((2 ^ (b - 1) : Nat) : Int) := by push_cast; rfl
  rw [hcast] at hv
  have hp : parseUint ds b = (ds.foldl decStep 0, none) := by
    rw [parseUint, if_neg hne, parseUintLoop_digits _ hmax _ hd (Nat.zero_le _), if_pos (by omega)]
  obtain ⟨c, cs, rfl⟩ := List.exists_cons_of_ne_nil hne
  have hc := hd c (.head _)
  have h43 : c ≠ 43 := fun h => absurd (h ▸ hc) (by decide)
  have h45 : c ≠ 45 := fun h => absurd (h ▸ hc) (by decide)
  have hsign : (45 : UInt8) ≠ 43 := by decide
  rcases hs with ⟨rfl | rfl, rfl⟩ | ⟨rfl, rfl⟩ <;>
    simp only [parseInt, List.cons_ne_nil, if_false, List.head?_cons, Option.some.injEq,
      List.tail_cons, h43, h45, hsign, if_true, hp, Option.map_none', reduceCtorEq, Bool.not_false,
      Bool.not_true, true_and, false_and, Bool.false_eq_true] <;>
    rw [if_neg (by omega)]

/-- **What `ParseInt` accepts.** For a bit size from 2 to 64, `ParseInt` succeeds exactly on a
run of decimal digits with an optional sign, whose value is in the signed range. -/
theorem parseInt_eq_ok_iff (s : Bytes) {b : Nat} (hb2 : 2 ≤ b) (hb : b ≤ 64) (v : Int) :
    parseInt s b = (v, none) ↔ -2 ^ (b - 1) ≤ v ∧ v < 2 ^ (b - 1) ∧ ∃ ds, ds ≠ [] ∧
      (∀ c ∈ ds, IsDigit c) ∧ ((s = ds ∨ s = 43 :: ds) ∧ v = ↑(ds.foldl decStep 0) ∨
        s = 45 :: ds ∧ v = -↑(ds.foldl decStep 0)) :=
  ⟨parseInt_ok hb2, fun ⟨h1, h2, _, hne, hd, hs⟩ => parseInt_of_ok hb2 hb hne hd ⟨h1, h2⟩ hs⟩

end strconv


/-! ## `PIDfromPIDFd` -/

/-- The errors `PIDfromPIDFd` returns: that of `os.Readlink` or `os.ReadFile`, passed on; one
made with `fmt.Errorf`; or the `*strconv.NumError` of `ParseInt`. -/
inductive PidFdError
  | os (err : String)
  | msg (text : String)
  | num (err : strconv.NumError)
  deriving DecidableEq, Repr

/-- The loop of `PIDfromPIDFd` over the lines of the `fdinfo` text: the first line that begins
with `Pid:\t` and has more after it gives the PID, read without the line's last byte. -/
def scanPidLines (pidfd : Int) : List Bytes → Except PidFdError Int
  | [] => .error (.msg ("fd " ++ toString pidfd ++ " has no PID information"))
  | line :: rest =>
    let (value, ok) := strings.cutPrefix line (bytes "Pid:\t")
    if !ok || value.isEmpty then scanPidLines pidfd rest
    else
      match strconv.parseInt value.dropLast 32 with
      | (_, some err) => .error (.num err)
      | (pid, none) => .ok pid

/-- `PIDfromPIDFd(pidfd)`. `readlink` and `readFile` are what `os.Readlink` of
`/proc/self/fd/<pidfd>` and `os.ReadFile` of `/proc/self/fdinfo/<pidfd>` return. -/
def pidFromPidFd (readlink readFile : Except String Bytes) (pidfd : Int) :
    Except PidFdError Int :=
  match readlink with
  | .error e => .error (.os e)
  | .ok target =>
    if target ≠ bytes "anon_inode:[pidfd]" then
      .error (.msg ("fd " ++ toString pidfd ++ " is not a PID fd"))
    else
      match readFile with
      | .error e => .error (.os e)
      | .ok fdinfo => scanPidLines pidfd (strings.lines fdinfo)

section Scan

variable (pidfd : Int)

theorem scanPidLines_skip (ls : List Bytes) (hls : ∀ l ∈ ls, ¬ bytes "Pid:\t" <+: l)
    (more : List Bytes) :
    scanPidLines pidfd (ls.map (· ++ [10]) ++ more) = scanPidLines pidfd more := by
  induction ls with
  | nil => rfl
  | cons l ls ih =>
    have hno : (bytes "Pid:\t").isPrefixOf (l ++ [10]) = false := by
      rw [Bool.eq_false_iff, ne_eq, List.isPrefixOf_iff_prefix, List.prefix_concat_iff, not_or]
      refine ⟨fun h => absurd (congrArg List.getLast? h) ?_, hls l (.head _)⟩
      rw [List.getLast?_concat]
      decide
    rw [List.map_cons, List.cons_append, scanPidLines, strings.cutPrefix, hno, if_neg (by decide)]
    exact ih fun l' h => hls l' (.tail _ h)

theorem scanPidLines_label (v : Bytes) (hv : v ≠ []) (more : List Bytes) :
    scanPidLines pidfd ((bytes "Pid:\t" ++ v) :: more) =
      match strconv.parseInt v.dropLast 32 with
      | (_, some err) => .error (.num err)
      | (pid, none) => .ok pid := by
  rw [scanPidLines, strings.cutPrefix,
    if_pos (List.isPrefixOf_iff_prefix.mpr (List.prefix_append _ _)), List.drop_left]
  simp only [Bool.not_true, Bool.false_or, List.isEmpty_eq_false.mpr hv, Bool.false_eq_true,
    if_false]

theorem scanPidLines_blank {l : Bytes} (hl : ∀ w, l = bytes "Pid:\t" ++ w → w = [])
    (rest : List Bytes) : scanPidLines pidfd (l :: rest) = scanPidLines pidfd rest := by
  rw [scanPidLines, strings.cutPrefix]
  by_cases hpre : (bytes "Pid:\t").isPrefixOf l
  · obtain ⟨w, rfl⟩ := List.isPrefixOf_iff_prefix.mp hpre
    obtain rfl := hl w rfl
    rw [if_pos hpre, List.drop_left]
    rfl
  · rw [if_neg hpre]
    rfl

theorem scanPidLines_eq_ok_iff (ls : List Bytes) (pid : Int) :
    scanPidLines pidfd ls = .ok pid ↔ ∃ pre v post, ls = pre ++ (bytes "Pid:\t" ++ v) :: post ∧
      v ≠ [] ∧ (∀ l ∈ pre, ∀ w, l = bytes "Pid:\t" ++ w → w = []) ∧
      strconv.parseInt v.dropLast 32 = (pid, none) := by
  induction ls with
  | nil =>
    refine ⟨fun h => (by cases h), fun ⟨pre, v, post, h, _⟩ => ?_⟩
    exact absurd h.symm (List.append_ne_nil_of_right_ne_nil _ (List.cons_ne_nil _ _))
  | cons l ls ih =>
    by_cases hl : ∃ w, w ≠ [] ∧ l = bytes "Pid:\t" ++ w
    · -- the first `Pid:` line decides
      obtain ⟨w, hw, rfl⟩ := hl
      rw [scanPidLines_label pidfd w hw]
      constructor
      · intro h
        rcases hp : strconv.parseInt w.dropLast 32 with ⟨x, _ | err⟩ <;> rw [hp] at h <;> cases h
        exact ⟨[], w, ls, rfl, hw, fun _ h => absurd h (List.not_mem_nil _), hp⟩
      · rintro ⟨_ | ⟨l', pre⟩, v, post, heq, hv, hpre, hparse⟩
        · obtain rfl := List.append_cancel_left (List.cons.inj heq).1
          rw [hparse]
        · obtain ⟨rfl, -⟩ := List.cons.inj heq
          exact absurd (hpre _ (.head _) w rfl) hw
    · -- any other line is passed over
      have hl' : ∀ w, l = bytes "Pid:\t" ++ w → w = [] := fun w h =>
        Classical.byContradiction fun hw => hl ⟨w, hw, h⟩
      rw [scanPidLines_blank pidfd hl', ih]
      constructor
      · rintro ⟨pre, v, post, rfl, hv, hpre, hparse⟩
        refine ⟨l :: pre, v, post, rfl, hv, fun l'' h => ?_, hparse⟩
        rcases List.mem_cons.mp h with rfl | h
        exacts [hl', hpre l'' h]
      · rintro ⟨_ | ⟨l', pre⟩, v, post, heq, hv, hpre, hparse⟩
        · obtain ⟨rfl, -⟩ := List.cons.inj heq
          exact absurd (hl' v rfl) hv
        · obtain ⟨rfl, rfl⟩ := List.cons.inj heq
          exact ⟨pre, v, post, rfl, hv, fun l'' h => hpre l'' (.tail _ h), hparse⟩

end Scan

theorem newline_not_mem_pid_line (pid : Int) :
    (10 : UInt8) ∉ bytes "Pid:\t" ++ strconv.decimal pid := fun h =>
  (List.mem_append.mp h).elim (fun h => absurd h (by decide)) (strconv.newline_not_mem_decimal pid)

/-- **`PIDfromPIDFd` reads the kernel's `Pid:` line.** For every descriptor, every `fdinfo` text
made of lines that do not begin with `Pid:\t`, then the kernel's line `Pid:\t<pid>\n` for a
32-bit PID, then anything: `PIDfromPIDFd` returns the PID. -/
theorem pidFromPidFd_reads_pid_line (pidfd : Int) (ls : List Bytes)
    (hls : ∀ l ∈ ls, (10 : UInt8) ∉ l ∧ ¬ bytes "Pid:\t" <+: l) {pid : Int}
    (hpid : -2 ^ 31 ≤ pid ∧ pid < 2 ^ 31) (rest : Bytes) :
    pidFromPidFd (.ok (bytes "anon_inode:[pidfd]"))
      (.ok ((ls.map (· ++ [10])).flatten ++ bytes "Pid:\t" ++ strconv.decimal pid ++ 10 :: rest))
      pidfd = .ok pid := by
  have hparse : strconv.parseInt (strconv.decimal pid) 32 = (pid, none) := by
    rw [strconv.parseInt_decimal pid (by decide) (by decide), if_pos hpid]
  rw [pidFromPidFd, if_neg (not_not.mpr rfl), List.append_assoc, List.append_assoc,
    strings.lines_flatten_append ls (fun l h => (hls l h).1), ← List.append_assoc,
    strings.lines_append _ _ (newline_not_mem_pid_line pid),
    scanPidLines_skip pidfd ls (fun l h => (hls l h).2), List.append_assoc,
    scanPidLines_label pidfd _ (List.append_ne_nil_of_right_ne_nil _ (List.cons_ne_nil _ _)),
    List.dropLast_concat, hparse]

/-- The lines the kernel writes before the `Pid:` line of a PID file descriptor. -/
def fdinfoHead : List Bytes := [bytes "pos:\t0", bytes "flags:\t02000002", bytes "mnt_id:\t15",
  bytes "ino:\t1057"]

/-- The `fdinfo` text of a PID file descriptor for the process 1234, with its `NSpid:` line after
the `Pid:` line. -/
theorem pidFromPidFd_reads_pid_line_sample :
    (∀ l ∈ fdinfoHead, (10 : UInt8) ∉ l ∧ ¬ bytes "Pid:\t" <+: l) ∧
      (-2 ^ 31 ≤ (1234 : Int) ∧ (1234 : Int) < 2 ^ 31) ∧
      pidFromPidFd (.ok (bytes "anon_inode:[pidfd]"))
        (.ok ((fdinfoHead.map (· ++ [10])).flatten ++ bytes "Pid:\t" ++ strconv.decimal 1234 ++
          10 :: bytes "NSpid:\t1234\n")) 3 = .ok 1234 :=
  have hls : ∀ l ∈ fdinfoHead, (10 : UInt8) ∉ l ∧ ¬ bytes "Pid:\t" <+: l := by decide
  have hpid : -2 ^ 31 ≤ (1234 : Int) ∧ (1234 : Int) < 2 ^ 31 := by decide
  ⟨hls, hpid, pidFromPidFd_reads_pid_line 3 fdinfoHead hls hpid _⟩

/-- **A `Pid:` line without its newline loses its last digit.** When the `Pid:` line ends the
text with no newline, `PIDfromPIDFd` drops the last digit of the PID: a PID of two digits or more
comes back a tenth its size, and a PID of one digit is an error of `ParseInt`. -/
theorem pidFromPidFd_unterminated (pidfd : Int) (ls : List Bytes)
    (hls : ∀ l ∈ ls, (10 : UInt8) ∉ l ∧ ¬ bytes "Pid:\t" <+: l) {pid : Int}
    (hpid : -2 ^ 31 ≤ pid ∧ pid < 2 ^ 31) :
    pidFromPidFd (.ok (bytes "anon_inode:[pidfd]"))
      (.ok ((ls.map (· ++ [10])).flatten ++ bytes "Pid:\t" ++ strconv.decimal pid)) pidfd =
      if 10 ≤ pid.natAbs then .ok (pid.sign * ↑(pid.natAbs / 10))
      else .error (.num ⟨"ParseInt", (strconv.decimal pid).dropLast, .invalid⟩) := by
  rw [pidFromPidFd, if_neg (not_not.mpr rfl), List.append_assoc,
    strings.lines_flatten_append ls (fun l h => (hls l h).1),
    strings.lines_of_not_mem (newline_not_mem_pid_line pid)
      (List.append_ne_nil_of_left_ne_nil (by decide) _),
    scanPidLines_skip pidfd ls (fun l h => (hls l h).2),
    scanPidLines_label pidfd _ (strconv.decimal_ne_nil pid)]
  by_cases h : 10 ≤ pid.natAbs
  · have hin : -2 ^ (32 - 1) ≤ pid.sign * ↑(pid.natAbs / 10) ∧
        pid.sign * ↑(pid.natAbs / 10) < 2 ^ (32 - 1) := by
      rw [show (2 : Int) ^ 31 = 2147483648 by decide] at hpid
      rw [show (2 : Int) ^ (32 - 1) = 2147483648 by decide]
      by_cases hn : pid < 0
      · rw [Int.sign_eq_neg_one_of_neg hn]
        omega
      · rw [Int.sign_eq_one_of_pos (by omega)]
        omega
    rw [strconv.decimal_dropLast h, strconv.parseInt_decimal _ (by decide) (by decide), if_pos hin,
      if_pos h]
  · rw [strconv.parseInt_decimal_dropLast (by omega), if_neg h]

/-- The `Pid:` line of the process 1234 without its newline reads 123. -/
theorem pidFromPidFd_unterminated_sample :
    (∀ l ∈ fdinfoHead, (10 : UInt8) ∉ l ∧ ¬ bytes "Pid:\t" <+: l) ∧
      (-2 ^ 31 ≤ (1234 : Int) ∧ (1234 : Int) < 2 ^ 31) ∧
      pidFromPidFd (.ok (bytes "anon_inode:[pidfd]"))
        (.ok ((fdinfoHead.map (· ++ [10])).flatten ++ bytes "Pid:\t" ++ strconv.decimal 1234)) 3 =
        if 10 ≤ (1234 : Int).natAbs then .ok ((1234 : Int).sign * ↑((1234 : Int).natAbs / 10))
        else .error (.num ⟨"ParseInt", (strconv.decimal 1234).dropLast, .invalid⟩) :=
  have hls : ∀ l ∈ fdinfoHead, (10 : UInt8) ∉ l ∧ ¬ bytes "Pid:\t" <+: l := by decide
  have hpid : -2 ^ 31 ≤ (1234 : Int) ∧ (1234 : Int) < 2 ^ 31 := by decide
  ⟨hls, hpid, pidFromPidFd_unterminated 3 fdinfoHead hls hpid⟩

/-! ## What `PIDfromPIDFd` accepts -/

/-- **What `PIDfromPIDFd` accepts.** It returns a PID exactly when the descriptor's link names a
PID file descriptor and, in the lines of its `fdinfo`, the first `Pid:\t` line with more after it
holds a run of decimal digits with an optional sign, in the 32-bit range, followed by one more
byte, whatever that byte is. -/
theorem pidFromPidFd_eq_ok_iff (readlink readFile : Except String Bytes) (pidfd pid : Int) :
    pidFromPidFd readlink readFile pidfd = .ok pid ↔
      readlink = .ok (bytes "anon_inode:[pidfd]") ∧ ∃ fdinfo, readFile = .ok fdinfo ∧
        ∃ pre w x post, strings.lines fdinfo = pre ++ (bytes "Pid:\t" ++ w ++ [x]) :: post ∧
          (∀ l ∈ pre, ∀ v, l = bytes "Pid:\t" ++ v → v = []) ∧
          -2 ^ 31 ≤ pid ∧ pid < 2 ^ 31 ∧ ∃ ds, ds ≠ [] ∧ (∀ c ∈ ds, strconv.IsDigit c) ∧
            ((w = ds ∨ w = 43 :: ds) ∧ pid = ↑(ds.foldl strconv.decStep 0) ∨
              w = 45 :: ds ∧ pid = -↑(ds.foldl strconv.decStep 0)) := by
  have h32 : ∀ w, strconv.parseInt w 32 = (pid, none) ↔ -2 ^ 31 ≤ pid ∧ pid < 2 ^ 31 ∧ ∃ ds,
      ds ≠ [] ∧ (∀ c ∈ ds, strconv.IsDigit c) ∧
        ((w = ds ∨ w = 43 :: ds) ∧ pid = ↑(ds.foldl strconv.decStep 0) ∨
          w = 45 :: ds ∧ pid = -↑(ds.foldl strconv.decStep 0)) := fun w =>
    strconv.parseInt_eq_ok_iff w (by decide) (by decide) pid
  rcases readlink with e | target
  · exact iff_of_false (fun h => by cases h) fun ⟨h, _⟩ => by cases h
  by_cases ht : target = bytes "anon_inode:[pidfd]"
  · subst ht
    rcases readFile with e | fdinfo
    · refine iff_of_false (fun h => ?_) fun ⟨_, _, h, _⟩ => by cases h
      rw [pidFromPidFd, if_neg (not_not.mpr rfl)] at h
      cases h
    rw [pidFromPidFd, if_neg (not_not.mpr rfl), scanPidLines_eq_ok_iff]
    simp only [true_and, Except.ok.injEq, exists_eq_left']
    constructor
    · rintro ⟨pre, v, post, hl, hv, hpre, hp⟩
      obtain ⟨w, x, rfl⟩ : ∃ w x, v = w ++ [x] :=
        ⟨v.dropLast, v.getLast hv, (List.dropLast_append_getLast hv).symm⟩
      rw [List.dropLast_concat, h32] at hp
      exact ⟨pre, w, x, post, by rw [hl, List.append_assoc], hpre, hp⟩
    · rintro ⟨pre, w, x, post, hl, hpre, hp⟩
      refine ⟨pre, w ++ [x], post, by rw [hl, List.append_assoc],
        List.append_ne_nil_of_right_ne_nil _ (List.cons_ne_nil _ _), hpre, ?_⟩
      rw [List.dropLast_concat, h32]
      exact hp
  · refine iff_of_false (fun h => ?_) fun ⟨h, _⟩ => ht (Except.ok.inj h)
    simp only [pidFromPidFd, if_pos ht] at h
    cases h

/- A sign before the digits is read. A `Pid:` line with nothing but its newline is not passed
over: `ParseInt` of nothing stops the scan with an error. -/
example : (pidFromPidFd (.ok (bytes "anon_inode:[pidfd]")) (.ok (bytes "Pid:\t+42\n")) 3).toOption =
      some 42 ∧
    (pidFromPidFd (.ok (bytes "anon_inode:[pidfd]")) (.ok (bytes "Pid:\t\nPid:\t42\n"))
      3).toOption = none := by
  decide

end Spacetest
